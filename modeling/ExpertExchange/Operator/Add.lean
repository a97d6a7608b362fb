import ExpertExchange.Device.Tensor
import ExpertExchange.Host.Platform
import ExpertExchange.Kernel.Invoker
import ExpertExchange.Operator.Basic

/-!
# Elementwise sums

`x + y` for two buffers of one shape and type, by one kernel per element type.
-/

namespace ExpertExchange

namespace Add

/-- Element types with a kernel, in the order of registration. -/
def variants : List Dtype := [.f16, .f32, .f64, .i64, .u32]

/-- Name suffix and element type in the source of a kernel. -/
def names? : Dtype → Option (String × String)
  | .f16 => some ("f16", "__half")
  | .f32 => some ("f32", "float")
  | .f64 => some ("f64", "double")
  | .i64 => some ("i64", "long long")
  | .u32 => some ("u32", "unsigned int")
  | _ => none

def entry? (t : Dtype) : Option String := (names? t).map fun n => "x_add_y_" ++ n.1

def sourceOf (suffix cType : String) : String :=
  "\n" ++ "\n".intercalate [
    "// [thread_extent] threadIdx.x = 256",
    "extern \"C\" __global__ void x_add_y_" ++ suffix ++ "(",
    "    const " ++ cType ++ " *__restrict__ x, const " ++ cType ++ " *__restrict__ y, " ++
      cType ++ " *__restrict__ out, const size_t n) \x7b",
    "    for (size_t i = blockIdx.x * blockDim.x + threadIdx.x; i < n; i += gridDim.x * blockDim.x)",
    "        out[i] = x[i] + y[i];",
    "\x7d"] ++ "\n"

def source? (t : Dtype) : Option String := (names? t).map fun n => sourceOf n.1 n.2

/-- A kernel on host memory. All buffers have to hold as many values as the scalar says; the sum
is the one of tensors, and has to fill the output. -/
def hostKernel [TensorLibrary] (entry : String) : HostKernel := fun _ args => do
  let (buffers, scalars) ← Act.ofOutcome (Argument.split entry args 3 1)
  let n ← Act.ofOutcome (Argument.countAt entry scalars 0)
  Act.forEach buffers fun b => do
    let held ← Act.ofOutcome b.count
    Act.ensure (held = n) (.invalidArguments entry (.valueCount n))
  match buffers with
  | [x, y, out] => do
    let left ← Tensor.ofBuffer x
    let right ← Tensor.ofBuffer y
    let sum : Tensor ← Act.ofOutcome ((TensorLibrary.add left right).mapError .tensor)
    let content ← Act.ofOutcome sum.bytes
    Heap.setBytes out content
  | _ => Act.fault none

def hostKernels [TensorLibrary] : List (String × HostKernel) :=
  (variants.filterMap entry?).map fun name => (name, hostKernel name)

end Add

/-- The kernels, registered with an invoker, by element type. -/
structure AddKernels where
  handles : List (Dtype × KernelHandle)
  deriving Repr, DecidableEq

namespace AddKernels

variable {S : Service} {σ F E : Type}

def installEach (P : Platform S σ F E) :
    List Dtype → Act S (σ × Invoker S σ F) KernelError (List (Dtype × KernelHandle))
  | [] => pure []
  | t :: rest =>
    match Add.source? t with
    | none => installEach P rest
    | some source =>
      Act.bind (Invoker.inject P source) fun handle =>
      Act.bind (installEach P rest) fun handles => pure ((t, handle) :: handles)

def install (P : Platform S σ F E) : Act S (σ × Invoker S σ F) KernelError AddKernels :=
  Act.bind (installEach P Add.variants) fun handles => pure ⟨handles⟩

def handle? (k : AddKernels) (t : Dtype) : Option KernelHandle :=
  (k.handles.find? fun h => h.1 = t).map (·.2)

/-- Blocks for `n` elements: 256 elements each, but not more than 65535 blocks. -/
def blocksFor (n : Nat) : Nat := min ((n + 255) / 256) 65535

/-- `x + y` in a fresh buffer, on the compute stream of the device of `x`. -/
def add (k : AddKernels) (P : Platform S σ F E) (x y : Buffer) :
    OperatorAct S σ F Buffer := do
  Act.ensure (x.dtype = y.dtype) (.dtypeMismatch "x_add_y" x.dtype y.dtype)
  Act.ensure (x.shape = y.shape) (.shapeMismatch "x_add_y" x.shape y.shape)
  match k.handle? x.dtype with
  | none => Act.fail (.unsupportedDtype "x_add_y" x.dtype)
  | some handle => do
    let stream ← Operator.onPlatform (P.stream x.device .compute)
    let out ← Operator.onPlatform (P.alloc x.dtype x.shape stream)
    let n ← Act.ofOutcome x.count
    if n = 0 then pure out
    else
      let launched := Invoker.invokeOn P stream handle [x, y, out] [.u64 n]
        (.ofBlocks [blocksFor n])
      Act.bind ((launched.mapError .kernel).orElseClean (Operator.onPlatform (P.release out)))
        fun _ => pure out

end AddKernels

end ExpertExchange
