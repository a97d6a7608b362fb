import ExpertExchange.Device.Platform
import ExpertExchange.Vendor.Call

/-!
# CUDA calls

State of the CUDA platform, calls to the vendor whose code is checked, and the freeing of device
memory: it is freed on the stream that owns it, after that stream has been made to wait for all
other streams that use it.
-/

namespace ExpertExchange

/-- State of the CUDA platform: buffers, streams made so far by device and kind, and the log. -/
structure CudaState where
  heap : Heap
  streams : List ((Nat × StreamKind) × Nat)
  log : List LogRecord

/-- A kernel of a module loaded on a device. -/
structure CudaFunction where
  handle : Nat
  loaded : Nat
  device : Nat
  entry : String
  deriving Repr, DecidableEq

structure CudaEvent where
  handle : Nat
  device : Nat
  deriving Repr, DecidableEq

namespace CudaState

/-- No buffers and no streams. -/
def empty : CudaState := ⟨[], [], []⟩

def memory : Part CudaState Heap := ⟨CudaState.heap, fun s h => { s with heap := h }⟩

def report (s : CudaState) (r : LogRecord) : CudaState := { s with log := s.log ++ [r] }

end CudaState

namespace Cuda

abbrev CudaAct (α : Type) := Act Machine CudaState DeviceError α

variable {ε α : Type}

def log (level : LogLevel) (message : String) (fields : List (String × LogValue)) :
    Act Machine CudaState ε Unit :=
  Act.modify (·.report ⟨level, .cudaPlatform, message, fields⟩)

def onHeap (m : Act Machine Heap ε α) : Act Machine CudaState ε α := m.within CudaState.memory

/-- What is said about a code without a description. -/
def undescribed : CodeSpace → String
  | .driver => "unknown CUDA driver error"
  | _ => "unknown CUDA error"

def check (space : CodeSpace) (op : String) (code : Int) : CudaAct Unit :=
  if code = 0 then pure ()
  else do
    let text ← Machine.errorText space code
    Act.fail (.driver op code (text.getD (undescribed space)))

def run (space : CodeSpace) (op : String) (c : VendorCall) : CudaAct c.Value := do
  let answer ← Machine.call c
  check space op answer.1
  pure answer.2

/-- Flag of streams that do not wait for the default stream. -/
def streamFlags : Nat := 1

def eventFlags : Nat := 2

def setDevice (device : Nat) : CudaAct Unit := do
  let _ ← run .runtime s!"cudaSetDevice({device})" (.setDevice (Word.toSigned32 device))
  pure ()

def createEvent : CudaAct Nat := run .runtime "cudaEventCreateWithFlags" (.eventCreate eventFlags)

def recordEvent (event stream : Nat) : CudaAct Unit := do
  let _ ← run .runtime "cudaEventRecord" (.eventRecord event stream)
  pure ()

def waitEvent (stream event : Nat) : CudaAct Unit := do
  let _ ← run .runtime "cudaStreamWaitEvent" (.streamWaitEvent stream event 0)
  pure ()

/-- Make the owner of some memory wait for what another stream was given so far. -/
def awaitUser (owner user : Stream) : CudaAct Unit := do
  let event ← createEvent
  recordEvent event user.handle
  waitEvent owner.handle event
  let _ ← run .runtime "cudaEventDestroy" (.eventDestroy event)
  pure ()

/-- Free memory on its owner, after all other streams that use it. -/
def freeMemory (address : Nat) (owner : Stream) (users : List Stream) : CudaAct Unit := do
  setDevice owner.device
  Act.forEach (users.filter (· ≠ owner)) (awaitUser owner)
  let _ ← run .runtime "cudaFreeAsync" (.freeAsync address owner.handle)
  pure ()

def setHandles (b : Buffer) (f : Nat → Nat) : CudaAct Unit :=
  onHeap (Act.modify fun h => h.modify b.cell fun a => { a with handles := f a.handles })

def retain (b : Buffer) : CudaAct Unit := setHandles b (· + 1)

/-- A handle to a buffer goes away. Device memory is freed with the last handle; when that fails,
this is recorded. -/
def release (b : Buffer) : CudaAct Unit := do
  setHandles b (· - 1)
  let heap ← Act.view CudaState.heap
  match heap.allocation? b with
  | some ⟨.cuda address owner, users, 0⟩ => do
    match (← (freeMemory address owner users).attempt) with
    | .error e =>
      log .warn "failed to release device buffer"
        [("error", .shown e.message), ("ptr", .address address)]
    | _ => pure ()
  | _ => pure ()

/-- A loaded kernel goes away, and its module with it. -/
def unload (f : CudaFunction) : CudaAct Unit := do
  match (← (setDevice f.device).attempt) with
  | .ok _ => do
    let answer ← Machine.call (.moduleUnload f.loaded)
    if answer.1 = 0 then pure ()
    else
      log .warn "cuModuleUnload failed"
        [("entry", .shown f.entry), ("status", .number answer.1)]
  | _ => pure ()

def destroyEvent (e : CudaEvent) : CudaAct Unit := do
  match (← (setDevice e.device).attempt) with
  | .ok _ => do
    let _ ← Machine.call (.eventDestroy e.handle)
    pure ()
  | _ => pure ()

end Cuda

end ExpertExchange
