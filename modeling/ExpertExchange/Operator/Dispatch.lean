import ExpertExchange.Device.Buffer
import ExpertExchange.Host.Platform
import ExpertExchange.Number.Arithmetic
import ExpertExchange.Operator.Basic

/-!
# Sparse dispatch

A routing assigns each sample to a slot of an expert. The dispatched buffer has one row per slot of
each expert, `capacity` slots per expert; a sample with a negative expert, or with a slot that no
expert has, is dropped. One operator writes gated samples into their rows, the other two are its
gradients.
-/

namespace ExpertExchange

structure DispatchShape where
  samples : Nat
  /-- Values of a sample. -/
  hidden : Nat
  /-- Slots of an expert. -/
  capacity : Nat
  deriving Repr, DecidableEq

/-- The three operators. -/
inductive DispatchKernel where
  /-- Add each gated sample to its row. -/
  | forward
  /-- Read each sample from its row, gated; a dropped sample is zero. -/
  | backwardData
  /-- The dot product of each sample with its row; zero for a dropped sample. -/
  | backwardGate
  deriving Repr, DecidableEq

def DispatchKernel.name : DispatchKernel → String
  | .forward => "sparse_forward"
  | .backwardData => "sparse_backward_data"
  | .backwardGate => "sparse_backward_gate"

structure Routing where
  experts : List Int
  slots : List Int
  shape : DispatchShape
  deriving Repr, DecidableEq

namespace Routing

/-- Expert and slot of a sample, unless it is dropped. The capacity counts as a signed word. -/
def kept? (r : Routing) (sample : Nat) : Option (Nat × Nat) := do
  let expert ← r.experts[sample]?
  let slot ← r.slots[sample]?
  if expert < 0 ∨ slot < 0 ∨ Word.toSigned64 r.shape.capacity ≤ slot then none
  else some (expert.toNat, slot.toNat)

/-- Where the row of a slot starts, if that is a word. -/
def rowOffset? (shape : DispatchShape) (expert slot : Nat) : Option Nat := do
  let first ← Word.mul? expert shape.capacity
  let index ← Word.add? first slot
  Word.mul? index shape.hidden

/-- Where the row of a sample starts, unless it is dropped. -/
def row? (r : Routing) (sample : Nat) : Option Nat :=
  (r.kept? sample).bind fun kept => rowOffset? r.shape kept.1 kept.2

/-- The row of a kept sample has to lie inside `len` values. -/
def checkSample (op : String) (r : Routing) (len sample : Nat) : Outcome OperatorError Unit :=
  match r.kept? sample with
  | none => .ok ()
  | some (expert, slot) =>
    let span := (rowOffset? r.shape expert slot).bind fun offset =>
      (Word.add? offset r.shape.hidden).map fun stop => (offset, stop)
    match span with
    | some (offset, stop) =>
      Outcome.ensure (stop ≤ len) (.indexOutOfRange op sample offset len)
    | none => .error (.indexOutOfRange op sample (Word.bound - 1) len)

/-- Check the samples in order, up to the first that is out of range. -/
def checkSamples (op : String) (r : Routing) (len : Nat) : List Nat → Outcome OperatorError Unit
  | [] => .ok ()
  | sample :: rest => (checkSample op r len sample).bind fun _ => checkSamples op r len rest

/-- There have to be at least so many entries. -/
def checkLength (op : String) (len needed : Nat) : Outcome OperatorError Unit :=
  Outcome.ensure (needed ≤ len) (.shapeMismatch op [needed] [len])

def create (op : String) (experts slots : List Int) (shape : DispatchShape) (len : Nat) :
    Outcome OperatorError Routing :=
  let r : Routing := ⟨experts, slots, shape⟩
  (checkLength op experts.length shape.samples).bind fun _ =>
  (checkLength op slots.length shape.samples).bind fun _ =>
  (checkSamples op r len (List.range shape.samples)).bind fun _ => .ok r

end Routing

/-- What the operators need of an element type. -/
structure Arithmetic (α : Type) where
  zero : α
  add : α → α → α
  mul : α → α → α

namespace Arithmetic

def single : Arithmetic Nat := ⟨0, Number.addSingle, Number.mulSingle⟩

def double : Arithmetic Nat := ⟨0, Number.addDouble, Number.mulDouble⟩

/-- The arithmetic of the element types that can be dispatched, on bit patterns. -/
def of? : Dtype → Option (Arithmetic Nat)
  | .f32 => some single
  | .f64 => some double
  | _ => none

end Arithmetic

/-- What an operator works on: a gate per sample, and the values on both sides. -/
structure DispatchValues (α : Type) where
  gates : List α
  input : List α
  dispatched : List α
  deriving Repr, DecidableEq

namespace Dispatch

variable {α : Type}

/-- A call that changes a list of values; what was changed before a fault stays changed. -/
abbrev ListAct (α β : Type) := Act Silence (List α) OperatorError β

/-- The `len` values from `start` on. A fault if they are not all there. -/
def window (values : List α) (start len : Nat) : Outcome OperatorError (List α) :=
  (Word.add start len).bind fun stop =>
  if stop ≤ values.length then .ok ((values.drop start).take len) else .fault none

/-- The value at an index. A fault if there is none. -/
def valueAt (values : List α) (index : Nat) : Outcome OperatorError α :=
  Outcome.orFault values[index]?

/-- Put values in place of those from `start` on. -/
def replaceAt (start : Nat) (part : List α) : ListAct α Unit :=
  Act.modify fun values => values.take start ++ part ++ values.drop (start + part.length)

def checkLengths (op : String) (shape : DispatchShape) (gates input : Nat) :
    Outcome OperatorError Unit :=
  (Routing.checkLength op gates shape.samples).bind fun _ =>
  (Word.mul shape.samples shape.hidden).bind fun needed =>
  Routing.checkLength op input needed

def forwardSample (a : Arithmetic α) (r : Routing) (gates input : List α) (sample : Nat) :
    ListAct α Unit :=
  match r.row? sample with
  | none => pure ()
  | some row => do
    let gate ← Act.ofOutcome (valueAt gates sample)
    let source ← Act.ofOutcome (window input (sample * r.shape.hidden) r.shape.hidden)
    let dispatched ← Act.get
    let target ← Act.ofOutcome (window dispatched row r.shape.hidden)
    replaceAt row (List.zipWith (fun d x => a.add d (a.mul gate x)) target source)

/-- Add each gated sample to its row of the dispatched values. -/
def forward (a : Arithmetic α) (r : Routing) (gates input : List α) : ListAct α Unit := do
  Act.ofOutcome (checkLengths DispatchKernel.forward.name r.shape gates.length input.length)
  Act.forEach (List.range r.shape.samples) (forwardSample a r gates input)

/-- Read a sample from its row, gated, into the input values. -/
def backwardDataSample (a : Arithmetic α) (r : Routing) (gates dispatched : List α)
    (sample : Nat) : ListAct α Unit :=
  match r.row? sample with
  | none => replaceAt (sample * r.shape.hidden) (List.replicate r.shape.hidden a.zero)
  | some row => do
    let gate ← Act.ofOutcome (valueAt gates sample)
    let source ← Act.ofOutcome (window dispatched row r.shape.hidden)
    replaceAt (sample * r.shape.hidden) (source.map (a.mul gate))

/-- Read each sample from its row, gated, into the input values. -/
def backwardData (a : Arithmetic α) (r : Routing) (gates dispatched : List α) : ListAct α Unit := do
  let count ← Act.view List.length
  Act.ofOutcome (checkLengths DispatchKernel.backwardData.name r.shape gates.length count)
  Act.forEach (List.range r.shape.samples) (backwardDataSample a r gates dispatched)

/-- Put the dot product of a sample with its row into the gates. -/
def backwardGateSample (a : Arithmetic α) (r : Routing) (dispatched input : List α)
    (sample : Nat) : ListAct α Unit := do
  replaceAt sample [a.zero]
  match r.row? sample with
  | none => pure ()
  | some row => do
    let source ← Act.ofOutcome (window input (sample * r.shape.hidden) r.shape.hidden)
    let target ← Act.ofOutcome (window dispatched row r.shape.hidden)
    replaceAt sample [(List.zipWith a.mul target source).foldl a.add a.zero]

/-- Put the dot product of each sample with its row into the gates. -/
def backwardGate (a : Arithmetic α) (r : Routing) (dispatched input : List α) : ListAct α Unit := do
  let count ← Act.view List.length
  Act.ofOutcome (checkLengths DispatchKernel.backwardGate.name r.shape count input.length)
  Act.forEach (List.range r.shape.samples) (backwardGateSample a r dispatched input)

/-- Run on a list of values; its outcome, and the values afterwards. -/
def apply (m : ListAct α Unit) (values : List α) : Outcome OperatorError Unit × List α :=
  (m values).value

/-- Run an operator; only the values that it writes change. -/
def onValues (a : Arithmetic α) (k : DispatchKernel) (r : Routing) (v : DispatchValues α) :
    Outcome OperatorError Unit × DispatchValues α :=
  match k with
  | .forward =>
    let result := apply (forward a r v.gates v.input) v.dispatched
    (result.1, { v with dispatched := result.2 })
  | .backwardData =>
    let result := apply (backwardData a r v.gates v.dispatched) v.input
    (result.1, { v with input := result.2 })
  | .backwardGate =>
    let result := apply (backwardGate a r v.dispatched v.input) v.gates
    (result.1, { v with gates := result.2 })

end Dispatch

structure DispatchBuffers where
  gates : Buffer
  experts : Buffer
  slots : Buffer
  input : Buffer
  dispatched : Buffer
  deriving Repr, DecidableEq

namespace Dispatch

variable {S : Service}

def onHeap {α : Type} (m : Act S Heap DeviceError α) : Act S Heap OperatorError α :=
  m.mapError .device

/-- Run an operator on values and write them back to their buffer, unless it does not succeed. -/
def update (b : Buffer) (dtype : Dtype) (m : ListAct Nat Unit) (values : List Nat) :
    Act S Heap OperatorError Unit := do
  let result := apply m values
  Act.ofOutcome result.1
  onHeap (Heap.setWords b dtype result.2)

def runIn (a : Arithmetic Nat) (dtype : Dtype) (k : DispatchKernel) (b : DispatchBuffers)
    (shape : DispatchShape) : Act S Heap OperatorError Unit := do
  let experts ← onHeap (Heap.words b.experts .i64)
  let slots ← onHeap (Heap.words b.slots .i64)
  let gates ← onHeap (Heap.words b.gates dtype)
  let input ← onHeap (Heap.words b.input dtype)
  let dispatched ← onHeap (Heap.words b.dispatched dtype)
  let r ← Act.ofOutcome (Routing.create k.name (experts.map Word.toSigned64)
    (slots.map Word.toSigned64) shape dispatched.length)
  match k with
  | .forward => update b.dispatched dtype (forward a r gates input) dispatched
  | .backwardData => update b.input dtype (backwardData a r gates dispatched) input
  | .backwardGate => update b.gates dtype (backwardGate a r dispatched input) gates

/-- Run an operator on host buffers, changing only the one that it writes. -/
def run (k : DispatchKernel) (b : DispatchBuffers) (shape : DispatchShape) :
    Act S Heap OperatorError Unit := do
  Act.forEach [b.experts, b.slots] fun routing =>
    Act.ensure (routing.dtype = .i64) (.dtypeMismatch k.name .i64 routing.dtype)
  let dtype := b.gates.dtype
  Act.forEach [b.input, b.dispatched] fun values =>
    Act.ensure (values.dtype = dtype) (.dtypeMismatch k.name dtype values.dtype)
  match Arithmetic.of? dtype with
  | none => Act.fail (.unsupportedDtype k.name dtype)
  | some a => runIn a dtype k b shape

end Dispatch

end ExpertExchange
