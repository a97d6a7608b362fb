import ExpertExchange.Group.Crowd
import ExpertExchange.Group.Simulated
import ExpertExchange.Host.Kernels
import ExpertExchange.Operator.Dispatch
import ExpertExchange.Session.Groups

/-!
# Participants in one process

Each participant has a session of its own on simulated devices; all of them share one simulated
network. A step of the whole runs a call of one participant, or calls of several of them at once.
-/

namespace ExpertExchange

open StandIn

abbrev HostSession := Session Net HostState HostFunction HostEvent SimulatedLink

/-- A call of a participant: a command, or one that only simulated devices know. -/
inductive HostCommand where
  | common (c : Command)
  /-- Running locations by the registered kernel, or else by the context's own. -/
  | runningLocations (mask result : String)
  | register (entry : String) (kernel : SampleKernel)
  | hasKernel (entry : String)
  | compileCount (entry : String)
  /-- The trace, which is cleared unless it is kept. -/
  | trace (kept : Bool)
  | dispatch (kernel : DispatchKernel) (gates experts slots input dispatched : String)
      (shape : DispatchShape)
  deriving Repr, DecidableEq

/-- What all participants have in common. -/
structure Setup where
  devices : Nat
  /-- How long a receive waits, in milliseconds. -/
  patience : Nat
  settings : Settings
  deriving Repr, DecidableEq

namespace Setup

def site (u : Setup) : Site Net HostState HostFunction HostEvent where
  platform := Host.platform u.devices
  memory := HostState.memory
  entryOf f := f.entry

def backend (u : Setup) : Backend Net HostState SimulatedLink := SimulatedLink.backend u.patience

end Setup

namespace HostCommand

open Session

abbrev HostAct (α : Type) := Act Net HostSession SessionError α

/-- A trace, and the slots released and acquired in it. -/
def traceReply (t : Trace) : Reply :=
  .fields [("events", .list (t.map fun e => .text e.text)),
    ("released_comm", .numbers (t.released .comm)),
    ("released_compute", .numbers (t.released .compute)),
    ("acquired_comm", .numbers (t.acquired .comm)),
    ("acquired_compute", .numbers (t.acquired .compute))]

def run (u : Setup) : HostCommand → HostAct Reply
  | .common c => c.run u.site u.backend
  | .runningLocations mask result => do
    let s ← Act.get
    if s.installed.runningLocation.isSome then
      onBench ((KernelCommand.runningLocations mask (some result)).run u.site)
    else (ExchangeCommand.runningLocations mask result).run u.site u.backend
  | .register entry kernel => do
    onState .device (Act.modify (·.register entry (kernel.kernel entry)))
    pure .nothing
  | .hasKernel entry => Act.view fun s => .flag (s.state.kernel? entry).isSome
  | .compileCount entry => Act.view fun s => .count (s.state.trace.compileCount entry)
  | .trace kept => do
    let t ← Act.view fun s => s.state.trace
    if kept then pure ()
    else Act.modify fun s => { s with state := { s.state with trace := [] } }
    pure (traceReply t)
  | .dispatch kernel gates experts slots input dispatched shape => do
    let gates ← find gates
    let experts ← find experts
    let slots ← find slots
    let input ← find input
    let dispatched ← find dispatched
    onState .operator (Host.onHeap
      (Dispatch.run kernel ⟨gates, experts, slots, input, dispatched⟩ shape))
    pure .nothing

end HostCommand

structure World where
  participants : List HostSession
  network : Network

/-- A step of the whole: a call of one participant, or calls of several at once. -/
inductive WorldStep where
  | alone (rank : Nat) (c : HostCommand)
  | together (calls : List (Nat × HostCommand))
  deriving Repr, DecidableEq

namespace World

def participant (u : Setup) : Outcome SessionError HostSession :=
  (Host.start u.devices).bind fun state =>
    let made := (Context.create u.site.platform u.backend [Compiler.host] u.settings state).runWith
      Network.answer .empty
    (made.1.1.mapError .exchange).bind fun context =>
      let fresh : HostSession := Session.start made.1.2
      .ok { fresh with context := some context }

def start (u : Setup) (count : Nat) : Outcome SessionError World :=
  match count with
  | 0 => .ok ⟨[], .empty⟩
  | count + 1 => (participant u).bind fun p => .ok ⟨List.replicate (count + 1) p, .empty⟩

/-- A call of a participant, with the records made meanwhile. -/
def call (u : Setup) (c : HostCommand) (p : HostSession) : Program Net (Answered × HostSession) :=
  (c.run u { p with state := { p.state with log := [] } }).bind fun r =>
    .done (⟨r.1, r.2.state.log⟩, r.2)

/-- The participants after some of them have changed. -/
def update (participants : List HostSession) (changed : List (Nat × HostSession)) :
    List HostSession := changed.foldl (fun ps c => ps.set c.1 c.2) participants

/-- Calls of existing participants, as programs that end in the participant's rank as well. -/
def programs (u : Setup) (w : World) (calls : List (Nat × HostCommand)) :
    List (Program Net (Answered × (Nat × HostSession))) :=
  calls.filterMap fun c => (w.participants[c.1]?).map fun p =>
    (call u c.2 p).bind fun r => .done (r.1, (c.1, r.2))

/-- Take a step; the answers are in the order of the calls. -/
def step (u : Setup) (w : World) : WorldStep → List Answered × World
  | .alone rank c =>
    match programs u w [(rank, c)] with
    | p :: _ =>
      let r := p.runWith Network.answer w.network
      ([r.1.1], ⟨update w.participants [r.1.2], r.2⟩)
    | [] => ([], w)
  | .together calls =>
    let r := Crowd.run (programs u w calls) w.network
    let results := Crowd.values r.1
    (results.map (·.1), ⟨update w.participants (results.map (·.2)), r.2⟩)

def steps (u : Setup) (w : World) : List WorldStep → List (List Answered) × World
  | [] => ([], w)
  | s :: rest =>
    let (answers, w') := step u w s
    let (others, w'') := steps u w' rest
    (answers :: others, w'')

/-- What is recorded when all participants leave their groups, in rank order. -/
def farewell (u : Setup) (w : World) : List LogRecord :=
  w.participants.flatMap fun p =>
    (((call u (.common (.group .shutdown)) p).runWith Network.answer w.network).1.1).records

end World

end ExpertExchange
