import ExpertExchange.Exchange.Regroup
import ExpertExchange.Operator.Add
import ExpertExchange.Operator.RunningLocation

/-!
# Kernels of the host platform

A fresh host platform has the library's own kernels registered. A few small kernels more, to try out
launches, show what a launch passes to a kernel.
-/

namespace ExpertExchange

namespace Host

def ownKernels [TensorLibrary] : List (String × HostKernel) :=
  Regroup.hostKernels ++ [(RunningLocation.entry, RunningLocation.hostKernel)] ++ Add.hostKernels

/-- The state of a fresh platform. A fault without a device. -/
def start [TensorLibrary] {ε : Type} (devices : Nat) : Outcome ε HostState :=
  (Outcome.ensureOrFault (0 < devices) (some "host runtime needs at least one device")).bind
    fun _ => .ok ⟨[], ownKernels, [], []⟩

end Host

inductive SampleKernel where
  /-- Writes the geometry of the launch. -/
  | geometry
  /-- Writes the parameter slots of three scalars. -/
  | bits
  /-- Writes `a * x + y`. -/
  | axpy
  /-- Writes one byte to the first places. -/
  | fill
  /-- Writes one everywhere. -/
  | probe
  deriving Repr, DecidableEq

namespace SampleKernel

/-- Write the geometry of the launch to a buffer of six words. -/
def runGeometry (entry : String) : HostKernel := fun g args => do
  let (buffers, _) ← Act.ofOutcome (Argument.split entry args 1 0)
  match buffers with
  | [out] =>
    Heap.setWords out .u32
      [g.blocks.x, g.blocks.y, g.blocks.z, g.threads.x, g.threads.y, g.threads.z]
  | _ => pure ()

/-- Write the slots of three scalars to a buffer of three words. -/
def runBits (entry : String) : HostKernel := fun _ args => do
  let (buffers, scalars) ← Act.ofOutcome (Argument.split entry args 1 3)
  match buffers with
  | [out] => Heap.setWords out .i64 (scalars.map Scalar.bits)
  | _ => pure ()

/-- `a * x + y` in single precision, for the first values. A fault if there are fewer. -/
def runAxpy (entry : String) : HostKernel := fun _ args => do
  let (buffers, scalars) ← Act.ofOutcome (Argument.split entry args 3 2)
  match buffers, scalars with
  | [out, x, y], [.f32 a, _] => do
    let n ← Act.ofOutcome (Argument.countAt entry scalars 1)
    let xs ← Heap.words x .f32
    let ys ← Heap.words y .f32
    if xs.length < n ∨ ys.length < n then Act.fault none
    else Heap.setWords out .f32 (((xs.zip ys).take n).map fun p =>
      Number.addSingle (Number.mulSingle a p.1) p.2)
  | _, _ => Act.fail (.invalidArguments entry (.notSingle 0))

/-- The first `n` bytes replaced by one byte. A fault if there are fewer. -/
def fillBytes (b : Buffer) (n byte : Nat) : Act Silence Heap DeviceError Unit := do
  let content ← Heap.bytes b
  if content.length < n then Act.fault none
  else Heap.setBytes b (content.overwrite 0 (List.replicate n (UInt8.ofNat byte)))

/-- Fill the first bytes of a buffer; both scalars are counts. -/
def runFill (entry : String) : HostKernel := fun _ args => do
  let (buffers, scalars) ← Act.ofOutcome (Argument.split entry args 1 2)
  let n ← Act.ofOutcome (Argument.countAt entry scalars 0)
  let byte ← Act.ofOutcome (Argument.countAt entry scalars 1)
  match buffers with
  | [out] => fillBytes out n byte
  | _ => pure ()

def runProbe : HostKernel := fun _ args =>
  Act.forEach args fun
    | .buffer b => do
      let content ← Heap.bytes b
      fillBytes b content.length 1
    | .scalar _ => pure ()

def kernel (k : SampleKernel) (entry : String) : HostKernel :=
  match k with
  | .geometry => runGeometry entry
  | .bits => runBits entry
  | .axpy => runAxpy entry
  | .fill => runFill entry
  | .probe => runProbe

end SampleKernel

end ExpertExchange
