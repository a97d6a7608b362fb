import ExpertExchange.Cuda.Compilers
import ExpertExchange.Cuda.Platform
import ExpertExchange.Session.Reply
import ExpertExchange.StandIn.Vendor

/-!
# Compiling by itself

One source compiled again and again by a list of compilers on a machine without an accelerator,
where the policy on notices of fallbacks sees all runs.
-/

namespace ExpertExchange

inductive CompilerStage where
  | host | nvcc | nvrtc
  /-- A compiler that always fails with this log. -/
  | failing (name log : String)
  deriving Repr, DecidableEq

/-- A list of compilers. -/
inductive CompilerChain where
  /-- The ones for a device. -/
  | forDevice
  | stages (ss : List CompilerStage)
  deriving Repr, DecidableEq

structure Compiling where
  text : String
  chain : CompilerChain
  settings : Settings
  target : CompileTarget
  device : Nat
  times : Nat
  deriving Repr, DecidableEq

namespace Compiling

open StandIn

def stage : CompilerStage → Compiler Machine CudaState
  | .host => Compiler.host
  | .nvcc => Cuda.nvcc
  | .nvrtc => Cuda.nvrtc
  | .failing name log => Compiler.failing name log

def compilers (c : Compiling) : List (Compiler Machine CudaState) :=
  match c.chain with
  | .forDevice => Cuda.compilers c.settings
  | .stages ss => ss.map stage

/-- What is between two runs: the gate for notices, and the machine. -/
abbrev Bench := Notice × Vendor

def once (c : Compiling) (source : KernelSource) (b : Bench) : Answered × Bench :=
  let ((o, s), v) := (Compiler.compileWith (Cuda.platform 1) c.compilers source c.target c.device
    (CudaState.empty, b.1)).runWith Vendor.answer b.2
  (⟨(o.mapError .kernel).bind fun i => .ok (.image i), s.1.log⟩, (s.2, v))

def repeatedly (c : Compiling) (source : KernelSource) : (times : Nat) → Bench → List Answered
  | 0, _ => []
  | times + 1, b =>
    let (answer, b') := once c source b
    answer :: repeatedly c source times b'

/-- The names of the compilers, and all runs. The list of compilers must not be empty, and the
source has to be well formed. -/
def run (c : Compiling) (installation : Installation) :
    Outcome SessionError (List String × List Answered) := do
  Outcome.ensureOrFault (c.compilers ≠ []) (some Compiler.emptyChain)
  let source ← match KernelSource.parse c.text with
    | .ok source => .ok source
    | .error why => .error (.kernel (.malformed why))
  .ok (c.compilers.map (·.name), c.repeatedly source c.times
    (.ofPolicy c.settings.fallbackLogOrDefault, .start installation .ordinary))

end Compiling

end ExpertExchange
