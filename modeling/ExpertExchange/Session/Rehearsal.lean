import ExpertExchange.Session.Cuda
import ExpertExchange.StandIn.Vendor

/-!
# Rehearsals

Sessions on the CUDA platform, run on a stand-in machine that records the calls to the vendor.
-/

namespace ExpertExchange

/-- A step of a rehearsal: a command, or a failure that a later call will meet. -/
inductive RehearsalStep where
  | command (c : CudaCommand)
  | fail (f : StandIn.Failing)
  deriving Repr, DecidableEq

/-- How a step of a rehearsal ended: the outcome, what was recorded, the calls to the vendor, and
the buffers, of which a reply may show the addresses. -/
structure Rehearsed where
  outcome : Outcome SessionError Reply
  records : List LogRecord
  calls : List String
  heap : Heap

/-- A session on the CUDA platform on a stand-in machine. -/
structure Rehearsal where
  session : CudaSession
  vendor : StandIn.Vendor

namespace Rehearsal

def start (installation : StandIn.Installation) (equipment : StandIn.Equipment) : Rehearsal :=
  ⟨.empty, .start installation equipment⟩

def command (c : CudaCommand) (r : Rehearsal) : Rehearsed × Rehearsal :=
  let inner := r.session.session
  let fresh := { inner with state := { inner.state with log := [] } }
  let ((o, s), v) := (c.run r.session.devices { r.session with session := fresh }).runWith
    StandIn.Vendor.answer { r.vendor with calls := [] }
  (⟨o, s.session.state.log, v.calls.reverse, s.session.state.heap⟩, ⟨s, v⟩)

def step (r : Rehearsal) : RehearsalStep → Rehearsed × Rehearsal
  | .command c => command c r
  | .fail f =>
    (⟨.ok .nothing, [], [], r.session.session.state.heap⟩,
      { r with vendor := { r.vendor with failing := r.vendor.failing ++ [f] } })

def steps (r : Rehearsal) : List RehearsalStep → List Rehearsed
  | [] => []
  | s :: rest =>
    let (answer, r') := step r s
    answer :: steps r' rest

end Rehearsal

end ExpertExchange
