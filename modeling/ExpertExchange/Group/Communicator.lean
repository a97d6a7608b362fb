import ExpertExchange.Device.Platform
import ExpertExchange.Group.Topology
import ExpertExchange.Group.Transport

/-!
# Communicators

A communicator carries out collectives over a transport: batched exchanges of parts of varying
sizes, broadcast and sum. Everything runs on the compute stream of the communicator's device. The
arguments of a batched exchange are checked before the first transfer.
-/

namespace ExpertExchange

/-- The link of a participant and its place in the group. -/
structure Communicator (T : Type) where
  link : T
  topology : Topology

namespace Communicator

variable {S : Service} {σ F E T ε α : Type}

def linkPart : Part (σ × Communicator T) (σ × T) :=
  ⟨fun s => (s.1, s.2.link), fun s l => (l.1, { s.2 with link := l.2 })⟩

def onPlatform (m : Act S σ DeviceError α) : Act S (σ × Communicator T) ExchangeError α :=
  (m.mapError .device).within Part.first

def onLink (m : Act S (σ × T) ε α) : Act S (σ × Communicator T) ε α := m.within linkPart

def topology? : Act S (σ × Communicator T) ε Topology := Act.view (·.2.topology)

def device (X : Transport S σ T) : Act S (σ × Communicator T) ε Nat :=
  Act.view fun s => X.device s.2.link

def stream (P : Platform S σ F E) (X : Transport S σ T) (kind : StreamKind) :
    Act S (σ × Communicator T) ExchangeError Stream := do
  let number ← device X
  onPlatform (P.stream number kind)

def checkDevice (X : Transport S σ T) (b : Buffer) :
    Act S (σ × Communicator T) ExchangeError Unit := do
  let number ← device X
  Act.ensure (b.device = number) (.deviceMismatch number b.device)

def checkEntries (op list : String) (worldSize : Nat) (sizes : List Nat) :
    Outcome ExchangeError Unit :=
  Outcome.ensure (sizes.length = worldSize)
    (.invalidSplit (.entries op list sizes.length worldSize))

/-- All buffers have to be on the device and of the given type. -/
def checkAlike (X : Transport S σ T) (op : String) (dtype : Dtype) (buffers : List Buffer) :
    Act S (σ × Communicator T) ExchangeError Unit :=
  Act.forEach buffers fun b => do
    checkDevice X b
    Act.ensure (b.dtype = dtype) (.dtypeMismatch op (some dtype) b.dtype)

def checkCounts (op : String) (first : Buffer) (inputs : List Buffer) :
    Act S (σ × Communicator T) ExchangeError Unit :=
  Act.forEach inputs fun b => do
    let count ← Act.ofOutcome b.count
    let expected ← Act.ofOutcome first.count
    Act.ensure (count = expected) (.shapeMismatch op first.shape b.shape)

/-- The element type of a batch, which has as many outputs as inputs, of one type, on the
communicator's device; `none` for an empty batch. -/
def checkBatch (X : Transport S σ T) (op : String) (inputs outputs : List Buffer) :
    Act S (σ × Communicator T) ExchangeError (Option Dtype) := do
  Act.ensure (inputs.length = outputs.length)
    (.shapeMismatch op [inputs.length] [outputs.length])
  match inputs with
  | [] => pure none
  | first :: _ => do
    checkAlike X op first.dtype (inputs ++ outputs)
    checkCounts op first inputs
    pure (some first.dtype)

/-- The sum of some sizes; as a count of bytes it has to be a word. -/
def total? (sizes : List Nat) (size : Nat) : Option Nat := do
  let total ← sizes.foldlM Word.add? 0
  let _ ← Word.mul? total size
  pure total

/-- The sum of some sizes of elements of `size` bytes. -/
def total (op : String) (sizes : List Nat) (size : Nat) : Outcome ExchangeError Nat :=
  Outcome.orError (.shapeMismatch op [(Word.bound - 1) / max size 1] sizes) (total? sizes size)

/-- Every buffer has to have at least so many elements. -/
def checkCapacity (op : String) (needed : Nat) (buffers : List Buffer) :
    Act S (σ × Communicator T) ExchangeError Unit :=
  Act.forEach buffers fun b => do
    let held ← Act.ofOutcome b.count
    Act.ensure (needed ≤ held) (.shapeMismatch op [needed] [held])

/-- Run some transfers as one round. A transfer that fails leaves the round open. -/
def inRound (X : Transport S σ T) (transfers : Act S (σ × T) ExchangeError Unit) :
    Act S (σ × T) ExchangeError Unit := do
  X.groupStart
  transfers
  X.groupEnd

/-- The transfers of one pair of a batched all-to-all: from rank `peer` on, the next bytes of the
input go to the rank, and the next bytes of the output come from it. Sizes are in elements of
`size` bytes. -/
def exchangeParts (X : Transport S σ T) (stream : Stream) (size : Nat) (input output : Buffer) :
    (peer sent received : Nat) → (sizes : List (Nat × Nat)) → Act S (σ × T) ExchangeError Unit
  | _, _, _, [] => pure ()
  | peer, sent, received, (out, back) :: rest =>
    Act.bind (X.send input ⟨sent, sent + out * size⟩ peer stream) fun _ =>
    Act.bind (X.recv output ⟨received, received + back * size⟩ peer stream) fun _ =>
    exchangeParts X stream size input output (peer + 1) (sent + out * size)
      (received + back * size) rest

/-- For each pair of an input and an output, one round in which every rank gets its part of the
input, and the parts of all ranks make up the output, packed in rank order. -/
def allToAll (P : Platform S σ F E) (X : Transport S σ T) (inputs outputs : List Buffer)
    (inSizes outSizes : List Nat) : Act S (σ × Communicator T) ExchangeError Unit := do
  let op := "batch_all_to_all_variable"
  let place ← topology?
  Act.ofOutcome (checkEntries op "in_sizes" place.worldSize inSizes)
  Act.ofOutcome (checkEntries op "out_sizes" place.worldSize outSizes)
  match (← checkBatch X op inputs outputs) with
  | none => pure ()
  | some dtype => do
    checkCapacity op (← Act.ofOutcome (total op inSizes dtype.size)) inputs
    checkCapacity op (← Act.ofOutcome (total op outSizes dtype.size)) outputs
    let compute ← stream P X .compute
    Act.forEach (inputs.zip outputs) fun pair =>
      onLink (inRound X
        (exchangeParts X compute dtype.size pair.1 pair.2 0 0 0 (inSizes.zip outSizes)))

/-- The transfers of one pair of a batched all-gather: from rank `peer` on, the own part goes to
the rank, and the next bytes of the output come from it. Empty parts are not transferred. -/
def gatherParts (X : Transport S σ T) (stream : Stream) (size own : Nat) (input output : Buffer) :
    (peer received : Nat) → (sizes : List Nat) → Act S (σ × T) ExchangeError Unit
  | _, _, [] => pure ()
  | peer, received, count :: rest =>
    Act.bind (if 0 < own then X.send input ⟨0, own * size⟩ peer stream else pure ()) fun _ =>
    Act.bind (if 0 < count then X.recv output ⟨received, received + count * size⟩ peer stream
      else pure ()) fun _ =>
    gatherParts X stream size own input output (peer + 1) (received + count * size) rest

/-- For each pair of an input and an output, one round in which every rank contributes the first
elements of its input, and the output gets all contributions in rank order. -/
def allGather (P : Platform S σ F E) (X : Transport S σ T) (inputs outputs : List Buffer)
    (sizes : List Nat) : Act S (σ × Communicator T) ExchangeError Unit := do
  let op := "batch_all_gather_variable"
  let place ← topology?
  Act.ofOutcome (checkEntries op "out_sizes" place.worldSize sizes)
  match (← checkBatch X op inputs outputs) with
  | none => pure ()
  | some dtype => do
    let own ← Act.ofOutcome (Outcome.orFault sizes[place.rank]?)
    checkCapacity op (← Act.ofOutcome (total op sizes dtype.size)) outputs
    checkCapacity op own inputs
    let compute ← stream P X .compute
    Act.forEach (inputs.zip outputs) fun pair =>
      onLink (inRound X (gatherParts X compute dtype.size own pair.1 pair.2 0 0 sizes))

def broadcast (P : Platform S σ F E) (X : Transport S σ T) (b : Buffer) (root : Nat) :
    Act S (σ × Communicator T) ExchangeError Unit := do
  let place ← topology?
  Act.ensure (root < place.worldSize) (.invalidRank root place.worldSize)
  checkDevice X b
  let compute ← stream P X .compute
  onLink (X.broadcast b root compute)

/-- Replace a buffer by the sum over all ranks, in place. -/
def allReduce (P : Platform S σ F E) (X : Transport S σ T) (b : Buffer) :
    Act S (σ × Communicator T) ExchangeError Unit := do
  checkDevice X b
  let compute ← stream P X .compute
  onLink (X.allReduce b compute)

def close (X : Transport S σ T) : Act S (σ × Communicator T) ExchangeError Unit := onLink X.close

end Communicator

end ExpertExchange
