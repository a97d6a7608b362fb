import ExpertExchange.Cuda.Library

/-!
# The CUDA platform

Devices, streams, memory, kernels and events of a real accelerator, by calls to the vendor's
libraries.
-/

namespace ExpertExchange

namespace Cuda

def checkDevice (devices device : Nat) : CudaAct Unit :=
  Act.ensure (device < devices) (.invalidDevice device devices)

/-- Number of the attribute for the first part of the architecture. -/
def majorAttribute : Nat := 75

/-- Number of the attribute for the second part of the architecture. -/
def minorAttribute : Nat := 76

def arch (devices device : Nat) : CudaAct String := do
  checkDevice devices device
  let number := Word.toSigned32 device
  let major : Int ← run .runtime "cudaDeviceGetAttribute(major)"
    (.deviceAttribute majorAttribute number)
  let minor : Int ← run .runtime "cudaDeviceGetAttribute(minor)"
    (.deviceAttribute minorAttribute number)
  pure s!"{major}{minor}"

/-- The stream of a kind on a device; the first time, make it. -/
def stream (devices device : Nat) (kind : StreamKind) : CudaAct Stream := do
  checkDevice devices device
  let streams ← Act.view CudaState.streams
  match streams.find? fun s => s.1 = (device, kind) with
  | some s => pure ⟨device, kind, s.2⟩
  | none => do
    setDevice device
    let handle : Nat ← run .runtime "cudaStreamCreateWithFlags" (.streamCreate streamFlags)
    Act.modify fun s => { s with streams := s.streams ++ [((device, kind), handle)] }
    pure ⟨device, kind, handle⟩

/-- Device memory for `shape` elements, in the order of a stream; at least one byte. -/
def alloc (devices : Nat) (dtype : Dtype) (shape : List Nat) (owner : Stream) :
    CudaAct Buffer := do
  checkDevice devices owner.device
  let size ← Act.ofOutcome (Buffer.sizeOf dtype shape)
  setDevice owner.device
  let address : Nat ← run .runtime s!"cudaMallocAsync({size})"
    (.mallocAsync (max size 1) owner.handle)
  onHeap (Heap.place (.cuda address owner) dtype shape owner)

def address (b : Buffer) : CudaAct Nat := do
  let heap ← Act.view CudaState.heap
  Act.ofOutcome (Outcome.orError (.memoryKind .cuda .host) (heap.address? b))

/-- Wait until a stream has drained. -/
def synchronize (s : Stream) : CudaAct Unit := do
  setDevice s.device
  let _ ← run .runtime "cudaStreamSynchronize" (.streamSynchronize s.handle)
  pure ()

def synchronizeUsers (b : Buffer) : CudaAct Unit := do
  let heap ← Act.view CudaState.heap
  Act.forEach (heap.usedBy b) synchronize

/-- Copy bytes into a buffer once no stream uses it. -/
def write (b : Buffer) (content : Bytes) : CudaAct Unit := do
  let target ← address b
  let size ← Act.ofOutcome b.byteCount
  Act.ensure (content.length = size) (.sizeMismatch size content.length)
  synchronizeUsers b
  let _ ← run .runtime "cudaMemcpy(HtoD)" (.copyIn target content)
  pure ()

/-- Copy a buffer's bytes out once no stream uses it. -/
def read (b : Buffer) : CudaAct Bytes := do
  let source ← address b
  synchronizeUsers b
  let size ← Act.ofOutcome b.byteCount
  run .runtime "cudaMemcpy(DtoH)" (.copyOut source size)

/-- Optimise fully, and bound the threads of a block. -/
def loadOptions (launchBound : Nat) : List (Nat × Nat) := [(7, 4), (1, launchBound)]

/-- The bytes of an image as the driver takes them: assembly text ends with a NUL byte. -/
def imageBytes : Image → Outcome DeviceError Bytes
  | .binary content => .ok content
  | .ptx text => .ok (text.toUTF8.toList ++ [0])
  | .host _ => .error (.unsupported .hostImage)

/-- Load an image and find the entry in it. Where the driver does not find the entry, the module is
unloaded again; where the name cannot be passed to the driver, it is not. -/
def load (devices device : Nat) (image : Image) (entry : String) (launchBound : Nat) :
    CudaAct CudaFunction := do
  checkDevice devices device
  let content ← Act.ofOutcome (imageBytes image)
  setDevice device
  let loaded : Nat ← run .driver "cuModuleLoadDataEx"
    (.moduleLoad content (loadOptions launchBound))
  Act.ensure ('\x00' ∉ entry.toList) (.invalidArguments entry .nulInEntry)
  let found ← Machine.call (.moduleFunction loaded entry)
  let unloadAgain : CudaAct Unit := do
    let _ ← Machine.call (.moduleUnload loaded)
    pure ()
  (check .driver s!"cuModuleGetFunction({entry})" found.1).orElseClean unloadAgain
  pure ⟨found.2, loaded, device, entry⟩

/-- The parameter slots of launch arguments: addresses of buffers, and bits of scalars. -/
def slots : List Argument → CudaAct (List Nat)
  | [] => pure []
  | .buffer b :: rest =>
    Act.bind (address b) fun a => Act.bind (slots rest) fun as => pure (a :: as)
  | .scalar s :: rest => Act.bind (slots rest) fun as => pure (s.bits :: as)

def launch (f : CudaFunction) (geometry : Geometry) (args : List Argument) (s : Stream) :
    CudaAct Unit := do
  let params ← slots args
  setDevice f.device
  let _ ← run .driver s!"cuLaunchKernel({f.entry})"
    (.launch f.handle geometry 0 s.handle params)
  pure ()

/-- Blocks and threads that occupy the kernel's device best; at least one each. -/
def occupancy (f : CudaFunction) : CudaAct (Nat × Nat) := do
  setDevice f.device
  let best : Int × Int ← run .driver "cuOccupancyMaxPotentialBlockSize" (.occupancy f.handle 0 0)
  pure ((max best.1 1).toNat, (max best.2 1).toNat)

/-- Force the context of a device to exist, by allocating and freeing a little memory. -/
def wakeDevice (devices device : Nat) : CudaAct Unit := do
  checkDevice devices device
  setDevice device
  let probe : Nat ← run .runtime "cudaMalloc(64)" (.malloc 64)
  let _ ← run .runtime "cudaFree" (.free probe)
  let _ ← run .runtime "cudaDeviceSynchronize" .deviceSynchronize
  pure ()

def platform (devices : Nat) : Platform Machine CudaState CudaFunction CudaEvent where
  name := "cuda"
  deviceCount := devices
  isHost := false
  arch := arch devices
  stream := stream devices
  alloc := alloc devices
  recordStream b s := onHeap (Act.modify (·.markUsed b s))
  write := write
  read := read
  load := load devices
  launch := launch
  occupancy := occupancy
  createEvent device _ := do
    checkDevice devices device
    setDevice device
    let handle ← createEvent
    pure ⟨handle, device⟩
  recordEvent e s := do
    setDevice e.device
    recordEvent e.handle s.handle
  waitEvent e s := do
    setDevice s.device
    waitEvent s.handle e.handle
  synchronize := synchronize
  retain := retain
  release := release
  unload := unload
  destroyEvent := destroyEvent
  record r s := s.report r

end Cuda

end ExpertExchange
