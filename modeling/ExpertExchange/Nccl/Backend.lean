import ExpertExchange.Cuda.Platform
import ExpertExchange.Group.Transport
import ExpertExchange.Nccl.Handover
import ExpertExchange.Nccl.Types
import ExpertExchange.Text.Number

/-!
# The collective library as a backend

Groups and transfers by calls to the vendor's collective library, on device memory. Joining a group
waits for the other ranks inside a call that cannot be interrupted; it runs on a thread of its own,
and a communicator that comes too late is destroyed.
-/

namespace ExpertExchange

/-- One participant of a group of the collective library. -/
structure NcclLink where
  comm : Nat
  rank : Nat
  worldSize : Nat
  device : Nat
  deriving Repr, DecidableEq

namespace Nccl

/-- A call on the CUDA platform and the collective library. -/
abbrev NcclAct (α : Type) := Act Machine CudaState ExchangeError α

abbrev LinkAct (α : Type) := Act Machine (CudaState × NcclLink) ExchangeError α

variable {σ α : Type}

def libraryVariable : String := "EXPERTLINK_NCCL_SO_PATH"

def libraryNames : List String := ["libnccl.so.2", "libnccl.so"]

/-- Functions of the library, besides the one that gives its version. -/
def symbols : List String :=
  ["ncclGetUniqueId", "ncclCommInitRank", "ncclCommDestroy", "ncclCommCuDevice",
    "ncclGetErrorString", "ncclAllReduce", "ncclBroadcast", "ncclSend", "ncclRecv",
    "ncclGroupStart", "ncclGroupEnd"]

def symbolMissing (name cause : String) : ExchangeError := .nccl (.missingSymbol name cause)

def log (level : LogLevel) (message : String) (fields : List (String × LogValue)) : NcclAct Unit :=
  Act.modify (·.report ⟨level, .nccl, message, fields⟩)

def openLibrary : NcclAct Nat := do
  match (← Cuda.openNamed .nccl libraryVariable) with
  | some library => pure library
  | none =>
    match (← Machine.openFirst libraryNames) with
    | some library => pure library
    | none => Act.fail (.nccl (.notFound (libraryVariable :: libraryNames)))

/-- Open the library, ask for its version, and look up all functions. -/
def load : NcclAct Int := do
  let library ← openLibrary
  Machine.checkSymbols library symbolMissing ["ncclGetVersion"]
  let version : Int × Int ← Machine.call .ncclVersion
  Act.ensure (version.1 = 0) (.nccl .noVersion)
  Machine.checkSymbols library symbolMissing symbols
  pure version.2

def versionParts (version : Int) : List Int :=
  [version.tdiv 10000, (version.tmod 10000).tdiv 100, version.tmod 100]

/-- Whether the library can be used. -/
def isAvailable : NcclAct Bool := do
  let loaded ← load.attempt
  pure loaded.isOk

def start : NcclAct Int := do
  let version ← load
  log .info "NCCL loaded"
    [("version", .shown (".".intercalate ((versionParts version).map toString)))]
  pure version

def check (op : String) (code : Int) : Act Machine σ ExchangeError Unit :=
  if code = 0 then pure ()
  else do
    let text ← Machine.errorText .nccl code
    Act.fail (.nccl (.call op (text.getD s!"unknown NCCL error {code}")))

def run (op : String) (c : VendorCall) : Act Machine σ ExchangeError c.Value := do
  let answer ← Machine.call c
  check op answer.1
  pure answer.2

def perform (op : String) (c : VendorCall) : LinkAct Unit := do
  let _ ← run op c
  pure ()

def freshId : NcclAct Bytes := run "ncclGetUniqueId" .ncclId

/-- Where a part of a buffer is in device memory. -/
def address (b : Buffer) (offset : Nat) : LinkAct Nat := do
  let link ← Act.view (·.2)
  Act.ensure (b.device = link.device) (.deviceMismatch link.device b.device)
  let base ← ((Cuda.address b).mapError .device).within Part.first
  Act.ofOutcome (Word.add base offset)

def elementType (b : Buffer) : LinkAct Nat :=
  match Datatype.ofDtype? b.dtype with
  | some t => pure t.code
  | none => Act.fail (.dtypeMismatch "nccl" none b.dtype)

def comm : LinkAct Nat := Act.view (·.2.comm)

def send (b : Buffer) (range : ByteRange) (peer : Nat) (stream : Stream) : LinkAct Unit := do
  let source ← address b range.start
  perform "ncclSend" (.ncclSend source range.length Datatype.uint8.code (Word.toSigned32 peer)
    (← comm) stream.handle)

def recv (b : Buffer) (range : ByteRange) (peer : Nat) (stream : Stream) : LinkAct Unit := do
  let target ← address b range.start
  perform "ncclRecv" (.ncclRecv target range.length Datatype.uint8.code (Word.toSigned32 peer)
    (← comm) stream.handle)

def broadcast (b : Buffer) (root : Nat) (stream : Stream) : LinkAct Unit := do
  let place ← address b 0
  let t ← elementType b
  let count ← Act.ofOutcome b.count
  perform "ncclBroadcast" (.ncclBroadcast place place count t (Word.toSigned32 root) (← comm)
    stream.handle)

def allReduce (b : Buffer) (stream : Stream) : LinkAct Unit := do
  let place ← address b 0
  let t ← elementType b
  let count ← Act.ofOutcome b.count
  perform "ncclAllReduce" (.ncclAllReduce place place count t sumCode (← comm) stream.handle)

def destroy (link : NcclLink) : NcclAct Unit := do
  match (← ((run "ncclCommDestroy" (.ncclDestroy link.comm) : NcclAct Nat)).attempt) with
  | .error e =>
    log .warn "failed to destroy NCCL communicator"
      [("error", .shown (ExchangeError.message e)), ("rank", .number link.rank)]
  | _ =>
    log .info "NCCL communicator destroyed"
      [("rank", .number link.rank), ("world_size", .number link.worldSize)]

def transport : Transport Machine CudaState NcclLink where
  rank l := l.rank
  worldSize l := l.worldSize
  device l := l.device
  groupStart := perform "ncclGroupStart" .ncclGroupStart
  groupEnd := perform "ncclGroupEnd" .ncclGroupEnd
  send := send
  recv := recv
  broadcast := broadcast
  allReduce := allReduce
  close := do
    let link ← Act.view (·.2)
    (destroy link).within Part.first

/-- Make a communicator, on a device that has been woken; also the milliseconds waited. -/
def makeLink (devices : Nat) (id : Bytes) (worldSize rank device : Nat) :
    Act Machine (CudaState × Nat) ExchangeError NcclLink := do
  ((Cuda.wakeDevice devices device).mapError .device).within Part.first
  let answer ← Machine.call (.ncclInit (Word.toSigned32 worldSize) id (Word.toSigned32 rank))
  Act.modify fun s => (s.1, answer.2.2)
  check "ncclCommInitRank" answer.1
  let comm := answer.2.1
  let bound ← (run "ncclCommCuDevice" (.ncclDevice comm) :
    Act Machine (CudaState × Nat) ExchangeError Int).attempt
  pure ⟨comm, rank, worldSize, (bound.toOption.map Int.toNat).getD device⟩

/-- Run on a thread of its own, whose records are not the caller's. -/
def onThread (m : NcclAct α) : NcclAct α := fun s =>
  (m s).bind fun r => .done (r.1, { r.2 with log := s.log })

/-- What the caller of a handover answers at its end. -/
def answer (rank worldSize timeout : Nat) : CallerState ExchangeError NcclLink → NcclAct NcclLink
  | .received result => Act.ofOutcome result
  | .disconnected => Act.fail (.nccl (.other "communicator init thread exited without a result"))
  | _ => do
    log .warn "NCCL rendezvous timed out"
      [("rank", .number rank), ("world_size", .number worldSize),
        ("timeout", .shown (Text.milliseconds timeout))]
    Act.fail (.rendezvousTimeout (reportedTimeout timeout))

/-- The end of a handover: the caller answers, and what was dropped is destroyed. -/
def conclude (rank worldSize timeout : Nat) (h : Handover ExchangeError NcclLink) :
    NcclAct NcclLink :=
  (answer rank worldSize timeout h.caller).andFinally (onThread (Act.forEach h.dropped destroy))

/-- Make a communicator on a thread that has been started, waiting so many milliseconds for it. One
that comes too late is destroyed. -/
def makeOnThread (devices : Nat) (id : Bytes) (worldSize rank device timeout : Nat) :
    NcclAct NcclLink := fun s =>
  (makeLink devices id worldSize rank device (s, 0)).bind fun r =>
    let late := decide (timeout ≤ r.2.2)
    conclude rank worldSize timeout (Handover.play late r.1) { r.2.1 with log := s.log }

def makeInTime (devices : Nat) (id : Bytes) (worldSize rank device timeout : Nat) :
    NcclAct NcclLink := do
  match (← Machine.startThread s!"nccl-init-{rank}") with
  | some reason => Act.fail (.nccl (.other ("spawn init thread: " ++ reason)))
  | none => makeOnThread devices id worldSize rank device timeout

def connect (devices : Nat) (id : Bytes) (worldSize rank device timeout : Nat) :
    NcclAct NcclLink := do
  Act.ensure (rank < worldSize) (.invalidRank rank worldSize)
  let id ← Act.ofOutcome (checkId id)
  (Cuda.wakeDevice devices device).mapError .device
  let link ← makeInTime devices id worldSize rank device timeout
  log .info "NCCL communicator initialized"
    [("rank", .number rank), ("world_size", .number worldSize), ("device", .number link.device)]
  pure link

/-- The collective library on a platform with `devices` devices. -/
def backend (devices : Nat) : Backend Machine CudaState NcclLink where
  name := "nccl"
  transport := transport
  freshId := freshId
  connect := connect devices

end Nccl

end ExpertExchange
