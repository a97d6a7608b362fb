import ExpertExchange.Cuda.Compilers
import ExpertExchange.Session.Kernels
import ExpertExchange.StandIn.Recorder
import ExpertExchange.StandIn.Vendor

/-!
# Kernels on a recording platform

Commands on kernels, run on a platform that only records what it is asked to do, with the compilers
of a real one.
-/

namespace ExpertExchange

inductive RecordingStep where
  | kernel (c : KernelCommand)
  /-- A buffer of so many elements, kept under a name. -/
  | buffer (name : String) (dtype : Dtype) (shape : List Nat) (device : Nat)
  /-- Refuse images from now on, or accept them. -/
  | refuse (on : Bool)
  deriving Repr, DecidableEq

/-- How a step ended, what was recorded, and the calls to the platform. -/
structure Recorded where
  outcome : Outcome SessionError Reply
  records : List LogRecord
  calls : List String

/-- A platform that records, and the machine that the compilers run on. -/
structure Recording where
  archs : List String
  potential : Nat × Nat
  bench : Bench Machine StandIn.Recorder StandIn.RecordedFunction
  vendor : StandIn.Vendor

namespace Recording

open StandIn

/-- No kernel is registered. -/
def start (archs : List String) (potential : Nat × Nat) (installation : Installation)
    (settings : Settings) : Recording where
  archs := archs
  potential := potential
  bench := ⟨.empty, .create archs.length (Cuda.compilers settings) settings, .none, []⟩
  vendor := .start installation .ordinary

def site (r : Recording) : Site Machine Recorder RecordedFunction Unit where
  platform := Recorder.platform r.archs r.potential
  memory := Recorder.memory
  entryOf f := f.entry

def act (r : Recording) : RecordingStep → Act Machine (Bench Machine Recorder RecordedFunction)
    SessionError Reply
  | .kernel c => c.run r.site
  | .buffer name dtype shape device => do
    let b ← Bench.onInvoker .device
      ((Recorder.zeros dtype shape (Heap.hostOwner device)).within Part.first)
    Bench.store r.site.platform b (some name)
  | .refuse on => do
    Act.modify fun b => { b with state := { b.state with refusing := on } }
    pure .nothing

def step (r : Recording) (s : RecordingStep) : Recorded × Recording :=
  let fresh := { r.bench with state := { r.bench.state with calls := [], log := [] } }
  let ((o, b), v) := (r.act s fresh).runWith Vendor.answer r.vendor
  (⟨o, b.state.log, b.state.calls.reverse⟩, { r with bench := b, vendor := v })

def steps (r : Recording) : List RecordingStep → List Recorded
  | [] => []
  | s :: rest =>
    let (answer, r') := step r s
    answer :: steps r' rest

end Recording

end ExpertExchange
