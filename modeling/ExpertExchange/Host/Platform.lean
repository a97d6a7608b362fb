import ExpertExchange.Device.Platform
import ExpertExchange.Host.Trace

/-!
# The host platform

Simulated devices in host memory. Kernels are functions registered by name; loading an image looks
its name up. Every launch runs at once, so streams and events order nothing and are only traced.
-/

namespace ExpertExchange

/-- A kernel on host memory: what a launch does to the heap. -/
abbrev HostKernel := Geometry → List Argument → Act Silence Heap DeviceError Unit

/-- A kernel found in the registry, as it was when it was loaded. -/
structure HostFunction where
  entry : String
  device : Nat
  kernel : HostKernel

/-- The event behind a slot; only its identity is traced. -/
structure HostEvent where
  device : Nat
  slot : Nat
  deriving Repr, DecidableEq

structure HostState where
  heap : Heap
  /-- Registered kernels; of two with one name the first counts. -/
  kernels : List (String × HostKernel)
  trace : Trace
  log : List LogRecord

namespace HostState

def memory : Part HostState Heap := ⟨HostState.heap, fun s h => { s with heap := h }⟩

def kernel? (s : HostState) (entry : String) : Option HostKernel :=
  (s.kernels.find? fun k => k.1 == entry).map (·.2)

/-- Register a kernel, in place of an older one of the same name. -/
def register (s : HostState) (entry : String) (kernel : HostKernel) : HostState :=
  { s with kernels := (entry, kernel) :: s.kernels }

def note (s : HostState) (e : TraceEvent) : HostState := { s with trace := s.trace ++ [e] }

def report (s : HostState) (r : LogRecord) : HostState := { s with log := s.log ++ [r] }

end HostState

namespace Host

variable {S : Service}

def archName : String := "host-sim"

def note {ε : Type} (e : TraceEvent) : Act S HostState ε Unit := Act.modify (·.note e)

def onHeap {ε α : Type} (m : Act S Heap ε α) : Act S HostState ε α := m.within HostState.memory

def checkDevice (devices device : Nat) : Act S HostState DeviceError Unit :=
  Act.ensure (device < devices) (.invalidDevice device devices)

/-- Load a host image: it has to name the requested kernel, and the kernel has to be registered. -/
def load (devices device : Nat) (image : Image) (entry : String) :
    Act S HostState DeviceError HostFunction := do
  checkDevice devices device
  match image with
  | .host exported =>
    Act.ensure (exported = entry) (.unsupported (.otherEntry exported entry))
    match (← Act.get).kernel? entry with
    | none => Act.fail (.missingHostKernel entry)
    | some kernel =>
      note (.compile entry device)
      pure ⟨entry, device, kernel⟩
  | image => Act.fail (.unsupported (.foreignImage image.kind))

def checkArguments (args : List Argument) : Act S HostState DeviceError Unit :=
  Act.forEach args fun
    | .buffer b => do
      let heap ← Act.view HostState.heap
      Act.ensure (heap.isHost b = true) (.memoryKind .host .cuda)
    | .scalar _ => pure ()

def launch (f : HostFunction) (geometry : Geometry) (args : List Argument) (stream : Stream) :
    Act S HostState DeviceError Unit := do
  checkArguments args
  note (.launch f.entry f.device stream.kind)
  onHeap (f.kernel geometry args).embed

def recordStream (b : Buffer) (stream : Stream) : Act S HostState DeviceError Unit := do
  onHeap (Act.modify (·.markUsed b stream))
  note (.recordStream stream.kind)

def alloc (devices : Nat) (dtype : Dtype) (shape : List Nat) (stream : Stream) :
    Act S HostState DeviceError Buffer := do
  checkDevice devices stream.device
  onHeap (Heap.zeros dtype shape stream)

def platform (devices : Nat) : Platform S HostState HostFunction HostEvent where
  name := "host"
  deviceCount := devices
  isHost := true
  arch device := do
    checkDevice devices device
    pure archName
  stream device kind := do
    checkDevice devices device
    pure ⟨device, kind, 0⟩
  alloc := alloc devices
  recordStream := recordStream
  write b content := onHeap (Heap.copyIn b content)
  read b := onHeap (Heap.bytes b)
  load device image entry _ := load devices device image entry
  launch := launch
  occupancy _ := pure (1, 1024)
  createEvent device slot := do
    checkDevice devices device
    pure ⟨device, slot⟩
  recordEvent e stream := note (.eventRecord e.slot stream.kind)
  waitEvent e stream := note (.eventWait e.slot stream.kind)
  synchronize _ := pure ()
  retain _ := pure ()
  release _ := pure ()
  unload _ := pure ()
  destroyEvent _ := pure ()
  record r s := s.report r

end Host

end ExpertExchange
