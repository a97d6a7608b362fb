import ExpertExchange.Host.Platform
import ExpertExchange.Kernel.Invoker
import ExpertExchange.Operator.Basic

/-!
# Running locations

For a mask of `samples` rows and `batch` columns, entry `(i, c)` of the result is the sum of the
first `i + 1` entries of column `c`, less one: for a column of zeros and ones, the slot that
sample `i` takes within its expert. Sums wrap around at 64 bits.
-/

namespace ExpertExchange

namespace RunningLocation

def entry : String := "cumsum_i64"

def source : String :=
  "\n" ++ "\n".intercalate [
    "// [thread_extent] threadIdx.x = 1024",
    "extern \"C\" __global__ void __launch_bounds__(1024) cumsum_i64(",
    "    const long long *input, long long *output, const int num_samples) \x7b",
    "    #define thread_num 1024",
    "    #define batch_num ((int)gridDim.x)",
    "",
    "    __shared__ long long temp[thread_num + 1];",
    "    const int thid = threadIdx.x, bid = blockIdx.x;",
    "    long long last_sum = -1;",
    "",
    "    for (int S = 0; S < num_samples;",
    "         S += thread_num, output += thread_num * batch_num, input += thread_num * batch_num) \x7b",
    "        int offset = 1;",
    "        temp[thid] = (S + thid < num_samples) ? input[thid * batch_num + bid] : 0;",
    "        for (int d = thread_num >> 1; d > 0; d >>= 1) \x7b",
    "            __syncthreads();",
    "            if (thid < d)",
    "                temp[offset * (2 * thid + 2) - 1] += temp[offset * (2 * thid + 1) - 1];",
    "            offset *= 2;",
    "        \x7d",
    "        if (thid == 0)",
    "            temp[thread_num] = temp[thread_num - 1], temp[thread_num - 1] = 0;",
    "        for (int d = 1; d < thread_num; d *= 2) \x7b",
    "            offset >>= 1;",
    "            __syncthreads();",
    "            if (thid < d) \x7b",
    "                const int ai = offset * (2 * thid + 1) - 1;",
    "                const int bi = offset * (2 * thid + 2) - 1;",
    "                const long long t = temp[ai];",
    "                temp[ai] = temp[bi];",
    "                temp[bi] += t;",
    "            \x7d",
    "        \x7d",
    "        __syncthreads();",
    "        if (S + thid < num_samples)",
    "            output[thid * batch_num + bid] = temp[thid + 1] + last_sum;",
    "        __syncthreads();",
    "        last_sum += temp[thread_num];",
    "    \x7d",
    "\x7d"] ++ "\n"

def wrappingAdd (a b : Int) : Int := Int.bmod (a + b) Word.bound

def nextRow (before row : List Int) : List Int := List.zipWith wrappingAdd before row

/-- Rows of locations, given the locations before the first row and the entries of the mask in
rows of `batch`. -/
def rowsFrom (batch : Nat) : (samples : Nat) → List Int → List Int → List Int
  | 0, _, _ => []
  | n + 1, before, entries =>
    let row := nextRow before (entries.take batch)
    row ++ rowsFrom batch n row (entries.drop batch)

/-- Running locations of a mask given row by row. A fault if the mask has fewer entries than the
grid, or the grid more than an allocation can hold. -/
def run {ε : Type} (mask : List Int) (samples batch : Nat) : Outcome ε (List Int) :=
  (Word.mul samples batch).bind fun cells =>
  (Outcome.ensureOrFault (8 * cells ≤ Word.allocationBound) none).bind fun _ =>
  (Outcome.ensureOrFault (cells ≤ mask.length) none).bind fun _ =>
  .ok (rowsFrom batch samples (List.replicate batch (-1)) mask)

/-- The kernel on host memory; the blocks of the launch are the columns. -/
def hostKernel : HostKernel := fun geometry args => do
  let (buffers, scalars) ← Act.ofOutcome (Argument.split entry args 2 1)
  let samples ← Act.ofOutcome (Argument.countAt entry scalars 0)
  let batch := geometry.blocks.x
  Act.forEach buffers fun b => do
    let held ← Act.ofOutcome b.count
    let cells ← Act.ofOutcome (Word.mul samples batch)
    Act.ensure (held = cells) (.invalidArguments entry (.scanSize held samples batch))
  match buffers with
  | [input, output] => do
    let mask ← Heap.words input .i64
    let locations ← Act.ofOutcome (run (mask.map Word.toSigned64) samples batch)
    Heap.setWords output .i64 (locations.map Word.ofInt)
  | _ => Act.fault none

end RunningLocation

structure RunningLocationKernel where
  handle : KernelHandle
  deriving Repr, DecidableEq

namespace RunningLocationKernel

variable {S : Service} {σ F E : Type}

def install (P : Platform S σ F E) : Act S (σ × Invoker S σ F) KernelError RunningLocationKernel :=
  Act.bind (Invoker.inject P RunningLocation.source) fun handle => pure ⟨handle⟩

/-- The largest count of samples that the kernel takes, a signed number of 32 bits. -/
def maxSamples : Nat := 0x7fffffff

/-- Running locations of a mask, in a fresh buffer, on the compute stream of the mask's device. -/
def run (k : RunningLocationKernel) (P : Platform S σ F E) (input : Buffer) :
    OperatorAct S σ F Buffer := do
  Act.ensure (input.dtype = .i64) (.dtypeMismatch "cumsum" .i64 input.dtype)
  match input.shape with
  | [samples, batch] => do
    Act.ensure (samples ≤ maxSamples ∧ batch < Word.bound32)
      (.shapeMismatch "cumsum" [maxSamples, Word.bound32 - 1] input.shape)
    let stream ← Operator.onPlatform (P.stream input.device .compute)
    let output ← Operator.onPlatform (P.alloc .i64 input.shape stream)
    if samples = 0 ∨ batch = 0 then pure output
    else
      let launched := Invoker.invokeOn P stream k.handle [input, output] [.i32 samples]
        (.ofBlocks [batch])
      Act.bind ((launched.mapError .kernel).orElseClean (Operator.onPlatform (P.release output)))
        fun _ => pure output
  | shape => Act.fail (.shapeMismatch "cumsum" [0, 0] shape)

end RunningLocationKernel

end ExpertExchange
