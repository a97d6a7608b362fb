import ExpertExchange.Host.Platform
import ExpertExchange.Kernel.Invoker

/-!
# Regrouping chunks

A buffer of `height * width` chunks is read as a grid, chunk `i` in row `i / height` and column
`i % height`, and written transposed. The two-level exchange regroups its chunks this way, by
destination device and then by destination node. One kernel moves single bytes, another moves
vectors of 16 bytes.
-/

namespace ExpertExchange

/-- What a regrouping kernel moves at a time. -/
inductive RegroupUnit where
  | byte | vector
  deriving Repr, DecidableEq

namespace RegroupUnit

/-- Vectors where a chunk is a positive number of them. -/
def forChunk (chunk : Nat) : RegroupUnit :=
  if 0 < chunk ∧ chunk % 16 = 0 then .vector else .byte

def bytes : RegroupUnit → Nat
  | .byte => 1
  | .vector => 16

def suffix : RegroupUnit → String
  | .byte => "u8"
  | .vector => "u128"

def entry (unit : RegroupUnit) : String := "stride_copy_" ++ unit.suffix

def cType : RegroupUnit → String
  | .byte => "char"
  | .vector => "uint4"

def source (unit : RegroupUnit) : String :=
  "\n" ++ "\n".intercalate [
    "extern \"C\" __global__ void stride_copy_" ++ unit.suffix ++ "(",
    "    " ++ unit.cType ++ " *__restrict__ out, const " ++ unit.cType ++ " *__restrict__ in,",
    "    const size_t size, const int height, const int width) \x7b",
    "    const size_t tid = blockIdx.x * blockDim.x + threadIdx.x;",
    "    for (size_t i = tid; i < size * height * width; i += gridDim.x * blockDim.x) \x7b",
    "        const size_t index = i / size, offset = i % size;",
    "        const size_t j = (width * (index % height) + (index / height)) * size + offset;",
    "        out[j] = in[i];",
    "    \x7d",
    "\x7d"] ++ "\n"

end RegroupUnit

namespace Regroup

variable {ε : Type}

/-- Where chunk `index` goes. -/
def target (height width index : Nat) : Nat := width * (index % height) + index / height

/-- The output after moving one chunk, or `none` where a position is not a word or lies outside
the input or the output. -/
def moveChunk? (input : Bytes) (chunk height width index : Nat) (out : Bytes) : Option Bytes := do
  let src ← Word.mul? index chunk
  let row ← Word.mul? width (index % height)
  let position ← Word.add? row (index / height)
  let dst ← Word.mul? position chunk
  let dstStop ← Word.add? dst chunk
  let srcStop ← Word.add? src chunk
  if dstStop ≤ out.length ∧ srcStop ≤ input.length then
    some (out.overwrite dst (input.slice ⟨src, srcStop⟩))
  else none

/-- Move `count` chunks from `index` on, in order, up to the first that cannot be moved. -/
def moveFrom (input : Bytes) (chunk height width : Nat) :
    (count index : Nat) → Bytes → Outcome ε Unit × Bytes
  | 0, _, out => (.ok (), out)
  | n + 1, index, out =>
    match moveChunk? input chunk height width index out with
    | some out' => moveFrom input chunk height width n (index + 1) out'
    | none => (.fault none, out)

/-- Move all chunks of the grid from `input` to `out`. A fault keeps what was moved before. -/
def run (out input : Bytes) (chunk height width : Nat) : Outcome ε Unit × Bytes :=
  match Word.mul? height width with
  | some count => moveFrom input chunk height width count 0 out
  | none => (.fault none, out)

def hostKernel (unit : RegroupUnit) : HostKernel := fun _ args => do
  let (buffers, scalars) ← Act.ofOutcome (Argument.split unit.entry args 2 3)
  let size ← Act.ofOutcome (Argument.countAt unit.entry scalars 0)
  let height ← Act.ofOutcome (Argument.countAt unit.entry scalars 1)
  let width ← Act.ofOutcome (Argument.countAt unit.entry scalars 2)
  let chunk ← Act.ofOutcome (Word.mul size unit.bytes)
  let column ← Act.ofOutcome (Word.mul chunk height)
  let needed ← Act.ofOutcome (Word.mul column width)
  Act.forEach buffers fun b => do
    let held ← Act.ofOutcome b.byteCount
    Act.ensure (needed ≤ held) (.invalidArguments unit.entry (.tooFewBytes needed))
  match buffers with
  | [out, input] => do
    let content ← Heap.bytes input
    let before ← Heap.bytes out
    let (outcome, after) := run before content chunk height width
    Heap.setBytes out after
    Act.ofOutcome outcome
  | _ => Act.fault none

def hostKernels : List (String × HostKernel) :=
  [RegroupUnit.byte, RegroupUnit.vector].map fun unit => (unit.entry, hostKernel unit)

end Regroup

/-- Both regrouping kernels, registered with an invoker, and the geometry they are launched with. -/
structure RegroupKernels where
  byte : KernelHandle
  vector : KernelHandle
  blocks : Nat
  threads : Nat
  deriving Repr, DecidableEq

namespace RegroupKernels

variable {S : Service} {σ F E : Type}

/-- Register both kernels; the vector kernel is built at once, to find the geometry that occupies
the device best. -/
def install (P : Platform S σ F E) (device : Nat) :
    Act S (σ × Invoker S σ F) KernelError RegroupKernels := do
  let byte ← Invoker.inject P RegroupUnit.byte.source
  let vector ← Invoker.inject P RegroupUnit.vector.source
  let f ← Invoker.function P vector device
  let (blocks, threads) ← Invoker.onPlatform (P.occupancy f)
  (P.log .debug .stride "stride copy kernels ready"
    [("device", .number device), ("blocks", .number blocks),
      ("threads", .number threads)]).within Part.first
  pure ⟨byte, vector, max blocks 1, max threads 1⟩

def handleFor (k : RegroupKernels) (chunk : Nat) : KernelHandle :=
  match RegroupUnit.forChunk chunk with
  | .byte => k.byte
  | .vector => k.vector

/-- Enqueue the regrouping of `height * width` chunks from `input` into `out`. -/
def launch (k : RegroupKernels) (P : Platform S σ F E) (stream : Stream) (out input : Buffer)
    (chunk height width : Nat) : Act S (σ × Invoker S σ F) KernelError Unit :=
  Invoker.invokeOn P stream (k.handleFor chunk) [out, input]
    [.u64 (chunk / (RegroupUnit.forChunk chunk).bytes), .i32 (Word.toSigned32 height),
      .i32 (Word.toSigned32 width)]
    ⟨some (.ofWidth k.blocks), some (.ofWidth k.threads)⟩

end RegroupKernels

end ExpertExchange
