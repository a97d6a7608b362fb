import ExpertExchange.Cuda.Basic

/-!
# The CUDA libraries

The runtime and the driver library are opened when the platform starts, and all functions that are
needed are looked up then, so that nothing is missing later. The runtime library is looked for
first where an environment variable says.
-/

namespace ExpertExchange

namespace Cuda

variable {σ : Type}

def runtimeVariable : String := "EXPERTLINK_CUDART_SO_PATH"

def runtimeNames : List String := ["libcudart.so.12", "libcudart.so.11", "libcudart.so"]

def driverNames : List String := ["libcuda.so.1", "libcuda.so"]

def runtimeMissing : DeviceError :=
  .libraryLoad "libcudart" ("tried " ++ ", ".intercalate (runtimeVariable :: runtimeNames))

def runtimeSymbols : List String :=
  ["cudaSetDevice", "cudaGetDeviceCount", "cudaDeviceGetAttribute", "cudaDeviceSynchronize",
    "cudaStreamCreateWithFlags", "cudaStreamSynchronize", "cudaEventCreateWithFlags",
    "cudaEventRecord", "cudaStreamWaitEvent", "cudaEventDestroy", "cudaMalloc", "cudaFree",
    "cudaMallocAsync", "cudaFreeAsync", "cudaMemcpy", "cudaGetErrorString"]

def driverSymbols : List String :=
  ["cuModuleLoadDataEx", "cuModuleGetFunction", "cuModuleUnload", "cuLaunchKernel",
    "cuOccupancyMaxPotentialBlockSize", "cuGetErrorString"]

/-- The library that a variable names, if it names one that can be opened; a failure is recorded. -/
def openNamed {ε : Type} (origin : LogOrigin) (name : String) :
    Act Machine CudaState ε (Option Nat) := do
  match (← Machine.environment? name) with
  | none => pure none
  | some path =>
    match (← Machine.openLibrary path) with
    | .ok library => pure (some library)
    | .error cause =>
      Act.modify (·.report ⟨.warn, origin, name ++ " set but failed to load, trying default names",
        [("path", .shown path), ("error", .shown cause)]⟩)
      pure none

def openRuntime : CudaAct Nat := do
  match (← openNamed .cudaPlatform runtimeVariable) with
  | some library => pure library
  | none =>
    match (← Machine.openFirst runtimeNames) with
    | some library => pure library
    | none => Act.fail runtimeMissing

/-- Open the first of some libraries; the error is the one for the last of them. -/
def openLast (fail : String → DeviceError) : List String → CudaAct Nat
  | [] => Act.fail (fail "")
  | [name] => do
    match (← Machine.openLibrary name) with
    | .ok library => pure library
    | .error cause => Act.fail (fail cause)
  | name :: rest => do
    match (← Machine.openLibrary name) with
    | .ok library => pure library
    | .error _ => openLast fail rest

def symbolMissing (library name cause : String) : DeviceError :=
  .libraryLoad library s!"{name}: {cause}"

/-- Open both libraries, look up all functions, and count the devices. -/
def start : CudaAct Nat := do
  let runtime ← openRuntime
  let driver ← openLast (.libraryLoad "libcuda") driverNames
  Machine.checkSymbols runtime (symbolMissing "libcudart") runtimeSymbols
  Machine.checkSymbols driver (symbolMissing "libcuda") driverSymbols
  let count : Int ← run .runtime "cudaGetDeviceCount" .deviceCount
  log .info "CUDA platform loaded" [("devices", .number count)]
  pure count.toNat

end Cuda

end ExpertExchange
