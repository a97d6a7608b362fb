import ExpertExchange.Exchange.Regroup
import ExpertExchange.Operator.Add
import ExpertExchange.Operator.RunningLocation
import ExpertExchange.Session.Reply

/-!
# Commands on kernels

Commands that register kernels, launch them, and use the operators, on an invoker and on buffers
that are kept under names.
-/

namespace ExpertExchange

/-- Things by name; no name is used twice. -/
abbrev Shelf (α : Type) := List (String × α)

namespace Shelf

variable {α : Type}

def find? (s : Shelf α) (name : String) : Option α := (List.find? (·.1 == name) s).map (·.2)

def without (s : Shelf α) (name : String) : Shelf α := List.filter (·.1 != name) s

/-- Keep something under a name, in place of whatever was there. -/
def put (s : Shelf α) (name : String) (a : α) : Shelf α := (name, a) :: s.without name

end Shelf

/-- A platform, where its state keeps the buffers, and the entry points of its kernels. -/
structure Site (S : Service) (σ F E : Type) where
  platform : Platform S σ F E
  memory : Part σ Heap
  entryOf : F → String

/-- Kernels of the operators that were registered so far. -/
structure Installed where
  add : Option AddKernels
  runningLocation : Option RunningLocationKernel
  regroup : Option RegroupKernels

def Installed.none : Installed := ⟨.none, .none, .none⟩

structure Bench (S : Service) (σ F : Type) where
  state : σ
  invoker : Invoker S σ F
  installed : Installed
  buffers : Shelf Buffer

inductive OperatorKernels where
  | add
  | runningLocation
  | regroup (device : Nat)
  deriving Repr, DecidableEq

/-- A command on kernels; buffers are given by name. -/
inductive KernelCommand where
  | inject (source : String)
  | invoke (handle : KernelHandle) (device : Nat) (buffers : List String) (scalars : List Scalar)
      (geometry : GeometryOverride)
  | invokeOn (handle : KernelHandle) (stream : Stream) (buffers : List String)
      (scalars : List Scalar) (geometry : GeometryOverride)
  | function (handle : KernelHandle) (device : Nat)
  | source (handle : KernelHandle)
  | stats
  /-- Compile with another toolkit from now on, if one is given. -/
  | sdkHome (path : Option String)
  /-- Register the kernels of an operator. -/
  | install (what : OperatorKernels)
  /-- The sum is stored if a name is given. -/
  | add (x y : String) (result : Option String)
  | runningLocations (mask : String) (result : Option String)
  | regroup (out input : String) (chunk height width : Nat) (stream : Stream)
  deriving Repr, DecidableEq

namespace Bench

variable {S : Service} {σ F E ε α : Type}

abbrev BenchAct (S : Service) (σ F α : Type) := Act S (Bench S σ F) SessionError α

def invokerPart : Part (Bench S σ F) (σ × Invoker S σ F) :=
  ⟨fun b => (b.state, b.invoker), fun b p => { b with state := p.1, invoker := p.2 }⟩

def onInvoker (fail : ε → SessionError) (m : Act S (σ × Invoker S σ F) ε α) : BenchAct S σ F α :=
  (m.mapError fail).within invokerPart

def find (name : String) : BenchAct S σ F Buffer := do
  match (← Act.view fun b => b.buffers.find? name) with
  | some b => pure b
  | none => Act.fail (.unknownBuffer name)

def findAll : List String → BenchAct S σ F (List Buffer)
  | [] => pure []
  | name :: rest =>
    Act.bind (find name) fun b => Act.bind (findAll rest) fun bs => pure (b :: bs)

/-- Keep a buffer under a name, and let go of the one that was there; without a name, let go of the
buffer itself. -/
def store (P : Platform S σ F E) (b : Buffer) : Option String → BenchAct S σ F Reply
  | none => do
    onInvoker .device ((P.release b).within Part.first)
    pure .nothing
  | some name => do
    let old ← Act.view fun s => s.buffers.find? name
    Act.modify fun s => { s with buffers := s.buffers.put name b }
    match old with
    | some o => onInvoker .device ((P.release o).within Part.first)
    | none => pure ()
    pure (.buffer b)

/-- Element types for which a sum can be asked, in the order in which they are listed. -/
def listedTypes : List Dtype := [.u8, .u32, .i64, .bf16, .f16, .f32, .f64]

def addReply (k : AddKernels) : Reply :=
  .fields (listedTypes.map fun t =>
    (t.symbol, Reply.orNothing (fun h => Reply.count h.index) (k.handle? t)))

end Bench

namespace KernelCommand

open Bench

variable {S : Service} {σ F E : Type}

def register (P : Platform S σ F E) : OperatorKernels → BenchAct S σ F Reply
  | .add => do
    let k ← onInvoker .kernel (AddKernels.install P)
    Act.modify fun b => { b with installed := { b.installed with add := some k } }
    pure (addReply k)
  | .runningLocation => do
    let k ← onInvoker .kernel (RunningLocationKernel.install P)
    Act.modify fun b => { b with installed := { b.installed with runningLocation := some k } }
    pure (.count k.handle.index)
  | .regroup device => do
    let k ← onInvoker .kernel (RegroupKernels.install P device)
    Act.modify fun b => { b with installed := { b.installed with regroup := some k } }
    pure (.numbers [k.blocks, k.threads])

/-- The kernels of an operator, which have to be registered. -/
def installed {α : Type} (k? : Installed → Option α) : BenchAct S σ F α := do
  match (← Act.view fun b => k? b.installed) with
  | some k => pure k
  | none => Act.fault none

def run (site : Site S σ F E) (c : KernelCommand) : BenchAct S σ F Reply :=
  let P := site.platform
  match c with
  | .inject text => do pure (.count (← onInvoker .kernel (Invoker.inject P text)).index)
  | .invoke handle device buffers scalars geometry => do
    let bs ← findAll buffers
    onInvoker .kernel (Invoker.invoke P handle device bs scalars geometry)
    pure .nothing
  | .invokeOn handle stream buffers scalars geometry => do
    let bs ← findAll buffers
    onInvoker .kernel (Invoker.invokeOn P stream handle bs scalars geometry)
    pure .nothing
  | .function handle device => do
    pure (.text (site.entryOf (← onInvoker .kernel (Invoker.function P handle device))))
  | .source handle => do
    let s ← onInvoker .kernel (Invoker.source handle)
    pure (.fields [("entry", .text s.entry), ("geometry", .geometry s.geometry)])
  | .stats => do
    let inv ← Act.view Bench.invoker
    pure (.fields [("compilations", .count inv.compilations), ("launches", .count inv.launches)])
  | .sdkHome path => do
    match path with
    | some path => onInvoker .kernel (Invoker.setSdkHome P path)
    | none => pure ()
    let inv ← Act.view Bench.invoker
    pure (.text inv.sdkHome)
  | .install what => register P what
  | .add x y result => do
    let x ← find x
    let y ← find y
    let k ← installed Installed.add
    store P (← onInvoker .operator (k.add P x y)) result
  | .runningLocations mask result => do
    let b ← find mask
    let k ← installed Installed.runningLocation
    store P (← onInvoker .operator (k.run P b)) result
  | .regroup out input chunk height width stream => do
    let out ← find out
    let input ← find input
    let k ← installed Installed.regroup
    onInvoker .kernel (k.launch P stream out input chunk height width)
    pure .nothing

end KernelCommand

end ExpertExchange
