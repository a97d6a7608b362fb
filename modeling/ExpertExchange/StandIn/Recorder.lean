import ExpertExchange.Device.Platform
import ExpertExchange.Vendor.Call

/-!
# A recording platform

A platform that computes nothing and writes down what it is asked to do. Its kernels are real
images, so that everything up to the launch can be seen.
-/

namespace ExpertExchange.StandIn

/-- A kernel that the recording platform was given. -/
structure RecordedFunction where
  entry : String
  device : Nat
  deriving Repr, DecidableEq

structure Recorder where
  heap : Heap
  /-- The calls made so far, last first. -/
  calls : List String
  /-- Whether images are refused. -/
  refusing : Bool
  log : List LogRecord

namespace Recorder

/-- Nothing was called. -/
def empty : Recorder := ⟨[], [], false, []⟩

def memory : Part Recorder Heap := ⟨Recorder.heap, fun r h => { r with heap := h }⟩

abbrev RecorderAct (α : Type) := Act Machine Recorder DeviceError α

def note (text : String) : RecorderAct Unit :=
  Act.modify fun r => { r with calls := text :: r.calls }

/-- A buffer of so many elements, whose content nobody looks at. -/
def zeros (dtype : Dtype) (shape : List Nat) (owner : Stream) : RecorderAct Buffer := do
  let size ← Act.ofOutcome (Buffer.sizeOf dtype shape)
  if Word.allocationBound < size then Act.fault none
  else (Heap.place (.cuda 0 owner) dtype shape owner).within memory

def bufferText (b : Buffer) : String := b.dtype.symbol ++ Text.bracketed b.shape

def argumentText : Argument → String
  | .buffer b => bufferText b
  | .scalar s => "0x" ++ String.ofList (Nat.toDigits 16 s.bits)

def extentText (e : Extent) : String := s!"{e.x},{e.y},{e.z}"

def streamText (s : Stream) : String := s!"{s.device}:{s.kind.name}:{s.handle}"

def refusal : DeviceError := .driver "cuModuleLoadDataEx" 218 "refused"

/-- Write down an image, and refuse it if it is to be refused. -/
def load (device : Nat) (image : Image) (entry : String) (bound : Nat) :
    RecorderAct RecordedFunction := do
  note s!"load device={device} {image.kind} entry={entry} bound={bound} content={image.content}"
  let refusing ← Act.view Recorder.refusing
  Act.ensure (refusing = false) refusal
  pure ⟨entry, device⟩

/-- The recording platform, with one device per architecture, and one answer to how kernels occupy
their device best. -/
def platform (archs : List String) (potential : Nat × Nat) :
    Platform Machine Recorder RecordedFunction Unit where
  name := "recorder"
  deviceCount := archs.length
  isHost := false
  arch device := do
    note s!"arch device={device}"
    Act.ofOutcome (Outcome.orFault archs[device]?)
  stream device kind := do
    note s!"stream device={device} {kind.name}"
    pure ⟨device, kind, 100 + device⟩
  alloc dtype shape stream := do
    note s!"alloc {dtype.symbol} {Text.bracketed shape} device={stream.device}"
    zeros dtype shape stream
  recordStream _ _ := pure ()
  write _ _ := pure ()
  read _ := pure []
  load := load
  launch f geometry args stream :=
    note (s!"launch {f.entry} blocks={extentText geometry.blocks} " ++
      s!"threads={extentText geometry.threads} stream={streamText stream} args=" ++
      " ".intercalate (args.map argumentText))
  occupancy f := do
    note s!"occupancy {f.entry}"
    pure potential
  createEvent _ _ := pure ()
  recordEvent _ _ := pure ()
  waitEvent _ _ := pure ()
  synchronize _ := pure ()
  retain _ := pure ()
  release _ := pure ()
  unload _ := pure ()
  destroyEvent _ := pure ()
  record r s := { s with log := s.log ++ [r] }

end Recorder

end ExpertExchange.StandIn
