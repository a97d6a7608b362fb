import ExpertExchange.Proofs.Exchange.Registered
import ExpertExchange.Proofs.Exchange.Vetted
import ExpertExchange.StandIn.Tensors

/-!
# Exchanges of a process, behind their checks

A process creates a context, joins and leaves groups and takes calls, and its communicators keep the
places that they were formed with. So in every state that it gets to, the checks of an exchange come
first and are complete: an exchange that is rejected has done nothing, and one that is not rejected
gives no rank, range or slot to an operation that the operation would refuse.
-/

namespace ExpertExchange

open SimulatedLink

variable {devices patience : Nat} {α β : Type}

abbrev AnyError (_ : ExchangeError) : Prop := True

namespace Communicator

variable {c : Communicator SimulatedLink} {q : HostState × Communicator SimulatedLink}
  {place : Topology} {m' m : Act Net (HostState × Communicator SimulatedLink) ExchangeError α}

/-- The place of the communicator is a valid one, in a group as large as its link's. -/
structure Formed (c : Communicator SimulatedLink) : Prop where
  worldSize : c.link.worldSize = c.topology.worldSize
  valid : c.topology.Valid

lemma Formed.seated (h : Formed q.2) : Seated q.2.topology q := ⟨h.worldSize, rfl⟩

lemma Seated.formed (h : Seated place q) (hplace : place.Valid) : Formed q.2 where
  worldSize := by rw [h.worldSize, h.topology]
  valid := h.topology ▸ hplace

end Communicator

namespace Scheduler

variable {e : HostEngine} {place : Topology} {capacity : Nat}
  {m' m : Act Net HostEngine ExchangeError α}

/-- The communicator of the engine is formed. -/
abbrev Formed (e : HostEngine) : Prop := e.2.2.comm.Formed

lemma Formed.posted (h : Formed e) :
    Posted e.2.2.comm.topology e.2.2.slots.capacity e :=
  ⟨Communicator.Formed.seated (q := commPart.get e) h, rfl⟩

lemma Posted.formed (h : Posted place capacity e) (hplace : place.Valid) : Formed e :=
  h.seated.formed hplace

end Scheduler

namespace Context

variable {s : HostState × HostContext} {late : ExchangeError → Prop}

abbrev HostCall (α : Type) : Type := ContextAct Net HostState HostFunction HostEvent SimulatedLink α

/-- Both communicators, where they are there, are formed. -/
structure Formed (s : HostState × HostContext) : Prop where
  global : ∀ scheduler, s.2.global = some scheduler → scheduler.comm.Formed
  shared : ∀ comm, s.2.shared = some comm → comm.Formed

/-- Errors that may come late, and the one of a call over a group that is not there. -/
def LateIn (group : GroupKind) (late : ExchangeError → Prop) (e : ExchangeError) : Prop :=
  late e ∨ e = .notInitialized group

def enginePart (scheduler : Scheduler HostEvent SimulatedLink) :
    Part (HostState × HostContext) HostEngine :=
  ⟨fun s => (s.1, (s.2.invoker, scheduler)),
    fun s e => (e.1, { s.2 with invoker := e.2.1, global := some e.2.2 })⟩

def sharedPart (comm : Communicator SimulatedLink) :
    Part (HostState × HostContext) (HostState × Communicator SimulatedLink) :=
  ⟨fun s => (s.1, comm), fun s q => (q.1, { s.2 with shared := some q.2 })⟩

lemma guarded_onGlobal {m' m : Act Net HostEngine ExchangeError α} (hs : Formed s)
    (h : ∀ e, Scheduler.Formed e →
      m'.Guarded ExchangeError.IsRejection late Scheduler.Formed m e) :
    (onGlobal m').Guarded ExchangeError.IsRejection (LateIn .global late) Formed
      (onGlobal m) s := by
  obtain ⟨q, settings, invoker, add, running, _ | scheduler, shared⟩ := s
  · have hfail : (Act.fail (.notInitialized .global) : HostCall α).Steady Formed
        (LateIn .global late) := .fail (.inr rfl)
    exact (Act.Guarded.of_agrees hfail hs).congr rfl rfl
  · have hpart := (h (q, (invoker, scheduler)) (hs.global scheduler rfl)).mono
      (fun _ he => (Or.inl he : LateIn .global late _)) fun _ he => he
    refine (hpart.within (p := enginePart scheduler) rfl ?_).congr rfl rfl
    intro e he
    refine ⟨?_, hs.shared⟩
    rintro _ ⟨⟩
    exact he

lemma guarded_onShared
    {m' m : Act Net (HostState × Communicator SimulatedLink) ExchangeError α} (hs : Formed s)
    (h : ∀ q, q.2.Formed →
      m'.Guarded ExchangeError.IsRejection late (fun q' => q'.2.Formed) m q) :
    (onShared m').Guarded ExchangeError.IsRejection (LateIn .shared late) Formed
      (onShared m) s := by
  obtain ⟨q, settings, invoker, add, running, global, _ | comm⟩ := s
  · have hfail : (Act.fail (.notInitialized .shared) : HostCall α).Steady Formed
        (LateIn .shared late) := .fail (.inr rfl)
    exact (Act.Guarded.of_agrees hfail hs).congr rfl rfl
  · have hpart := (h (q, comm) (hs.shared comm rfl)).mono
      (fun _ he => (Or.inl he : LateIn .shared late _)) fun _ hq => hq
    refine (hpart.within (p := sharedPart comm) rfl ?_).congr rfl rfl
    intro q' hq'
    refine ⟨hs.global, ?_⟩
    rintro _ ⟨⟩
    exact hq'

/-- A call of the communicator of a group, which keeps its place. -/
lemma guarded_onComm (group : GroupKind)
    {m' m : Act Net (HostState × Communicator SimulatedLink) ExchangeError α} (hs : Formed s)
    (h : ∀ q : HostState × Communicator SimulatedLink, Communicator.Seated q.2.topology q →
      m'.Guarded ExchangeError.IsRejection late (Communicator.Seated q.2.topology) m q) :
    (onComm group m').Guarded ExchangeError.IsRejection (LateIn group late) Formed
      (onComm group m) s := by
  have hformed : ∀ q : HostState × Communicator SimulatedLink, q.2.Formed →
      m'.Guarded ExchangeError.IsRejection late (fun q' => q'.2.Formed) m q := by
    intro q hq
    exact (h q hq.seated).mono (fun _ he => he) fun _ hseated => hseated.formed hq.valid
  cases group with
  | global => exact guarded_onGlobal hs fun e he => (hformed _ he).within rfl fun _ hq => hq
  | shared => exact guarded_onShared hs hformed

/-- A call of the scheduler, which keeps its place and its slots. -/
lemma guarded_onScheduler {m' m : Act Net HostEngine ExchangeError α} (hs : Formed s)
    (h : ∀ e, Scheduler.Formed e → m'.Guarded ExchangeError.IsRejection late
      (Scheduler.Posted e.2.2.comm.topology e.2.2.slots.capacity) m e) :
    (onGlobal m').Guarded ExchangeError.IsRejection (LateIn .global late) Formed (onGlobal m) s :=
  guarded_onGlobal hs fun e he =>
    (h e he).mono (fun _ he => he) fun _ hposted => hposted.formed he.valid

/-- A call that leaves communicators formed, whatever it ends with. -/
abbrev KeepsFormed (m : HostCall α) : Prop := m.Steady Formed AnyError

lemma keepsFormed_of_guarded {m' m : HostCall α}
    (h : ∀ s, Formed s → m'.Guarded ExchangeError.IsRejection late Formed m s) : KeepsFormed m := by
  refine .of_ensures ?_
  intro s hs
  refine (h s hs).2.mono ?_
  rintro o s' ⟨hs', -⟩
  exact ⟨hs', fun _ _ => trivial⟩

lemma keepsFormed_onInvoker
    (m : Act Net (HostState × Invoker Net HostState HostFunction) ExchangeError α) :
    KeepsFormed (onInvoker m) := by
  refine .of_ensures ?_
  intro s hs
  refine .within ?_
  intro o q _
  exact ⟨⟨hs.global, hs.shared⟩, fun _ _ => trivial⟩

lemma keepsFormed_onPlatform (m : Act Net HostState ExchangeError α) :
    KeepsFormed (onPlatform m) := by
  refine .of_ensures ?_
  intro s hs
  refine .within ?_
  intro o q _
  exact ⟨⟨hs.global, hs.shared⟩, fun _ _ => trivial⟩

lemma keepsFormed_onSlots (m : Act Net (HostState × Slots HostEvent) ExchangeError α) :
    KeepsFormed (onSlots m) := by
  have hslots : ∀ e, Scheduler.Formed e → (Scheduler.onSlots m).Ensures e fun _ e' =>
      Scheduler.Formed e' := by
    intro e he
    refine .within ?_
    intro o q _
    exact he
  have hsteady : (Scheduler.onSlots m).Steady Scheduler.Formed AnyError :=
    .of_ensures fun e he => (hslots e he).mono fun _ _ h => ⟨h, fun _ _ => trivial⟩
  exact keepsFormed_of_guarded fun s hs =>
    guarded_onGlobal hs fun e he => .of_agrees hsteady he

/-- What happens at the link of a communicator, outside of all calls. -/
lemma keepsFormed_onLink (group : GroupKind) {m : LinkAct Unit}
    (h : ∀ W, m.Steady (Among W) AnyError) :
    KeepsFormed (onComm group (Communicator.onLink m)) :=
  keepsFormed_of_guarded fun _ hs => guarded_onComm group hs fun _ hseated =>
    .of_agrees (Communicator.agrees_onLink (h _)) hseated

lemma keepsFormed_checkAbsent (group : GroupKind) : KeepsFormed (checkAbsent group) := by
  refine .bind (.view _) ?_
  intro formed
  exact .ensure _ fun _ => trivial

lemma keepsFormed_connect [TensorLibrary] (id : Bytes) (worldSize rank device : Nat) :
    KeepsFormed (connect (Host.platform devices) (backend patience) id worldSize rank device) := by
  refine .bind (.view _) ?_
  intro settings
  refine .bind (keepsFormed_onPlatform _) ?_
  intro link
  refine .bind (.orElseClean (.ofOutcome fun _ _ => trivial) (keepsFormed_onPlatform _)) ?_
  intro topology
  exact .pure _

/-- What joins a group is formed. -/
lemma gives_connect [TensorLibrary] (id : Bytes) (worldSize rank device : Nat)
    (s : HostState × HostContext) :
    (connect (Host.platform devices) (backend patience) id worldSize rank device).Gives s
      fun comm _ => comm.Formed := by
  refine .afterAny ?_
  intro settings s₁
  refine .afterAny ?_
  intro link s₂
  refine .bind (G := fun topology _ =>
    Topology.create link.worldSize link.rank (localSize _ settings worldSize) = .ok topology)
    (.orElseClean (.ofOutcome fun _ h => h)) ?_
  intro topology s₃ h
  obtain ⟨hvalid, hworld⟩ := Topology.valid_of_create h
  exact .of_done rfl ⟨hworld.symm, hvalid⟩

/-- A scheduler has the communicator that it was created for. -/
lemma gives_scheduler [TensorLibrary] (settings : Settings) (comm : Communicator SimulatedLink)
    (q : HostState × Invoker Net HostState HostFunction) :
    (Scheduler.create (Host.platform devices : Platform Net _ _ HostEvent)
      (backend patience).transport settings comm).Gives q fun scheduler _ =>
        scheduler.comm = comm := by
  refine .orElseClean ?_
  refine .afterAny ?_
  intro slots q₁
  refine .afterAny ?_
  intro regroup q₂
  refine .afterAny ?_
  intro _ q₃
  exact .of_done rfl rfl

lemma keepsFormed_init [TensorLibrary] (group : GroupKind) (id : Bytes)
    (worldSize rank device : Nat) :
    KeepsFormed (init (Host.platform devices) (backend patience) group id worldSize rank
      device) := by
  cases group with
  | global =>
    refine .bind (keepsFormed_checkAbsent _) ?_
    intro _
    refine .bindGives (keepsFormed_connect _ _ _ _) (fun s _ => gives_connect _ _ _ _ s) ?_
    intro comm hcomm
    refine .bind (.view _) ?_
    intro settings
    refine .bindGives (keepsFormed_onInvoker _)
      (fun s _ => .within (gives_scheduler settings comm _)) ?_
    rintro scheduler rfl
    refine .bind (keepsFormed_onPlatform _) ?_
    intro _
    refine .modify ?_
    intro s hs
    refine ⟨?_, hs.shared⟩
    rintro _ ⟨⟩
    exact hcomm
  | shared =>
    refine .bind (keepsFormed_checkAbsent _) ?_
    intro _
    refine .bindGives (keepsFormed_connect _ _ _ _) (fun s _ => gives_connect _ _ _ _ s) ?_
    intro comm hcomm
    refine .bind (keepsFormed_onPlatform _) ?_
    intro _
    refine .modify ?_
    intro s hs
    refine ⟨hs.global, ?_⟩
    rintro _ ⟨⟩
    exact hcomm

lemma keepsFormed_initFrom [TensorLibrary] (group : GroupKind) (launch : Launch) :
    KeepsFormed (initFrom (Host.platform devices) (backend patience) group launch) := by
  refine .bind (keepsFormed_checkAbsent _) ?_
  intro _
  refine .bind (keepsFormed_onPlatform _) ?_
  intro id
  exact keepsFormed_init _ _ _ _ _

lemma keepsFormed_shutdown [TensorLibrary] :
    KeepsFormed (shutdown (Host.platform devices) (backend patience)) := by
  have hleave : ∀ comm : Communicator SimulatedLink, KeepsFormed (do
      onPlatform ((Host.platform devices : Platform Net _ _ HostEvent).log .info .context
        "shared communicator shut down" [("rank", .number comm.topology.rank)])
      onPlatform ((Communicator.close (backend patience).transport).alongside comm)
      Act.modify fun s => (s.1, { s.2 with shared := none }) : HostCall Unit) := by
    intro comm
    refine .bind (keepsFormed_onPlatform _) ?_
    intro _
    refine .bind (keepsFormed_onPlatform _) ?_
    intro _
    exact .modify fun s hs => ⟨hs.global, nofun⟩
  refine .bind (.view _) ?_
  rintro (_ | scheduler)
  · refine .bind (.view _) ?_
    rintro (_ | comm)
    · exact .pure ()
    · exact hleave comm
  · refine .bind (keepsFormed_onPlatform _) ?_
    intro _
    refine .bind (.of_ensures ?_) ?_
    · intro s hs o s' hend
      obtain ⟨⟨o₁, e₁⟩, -, h₂⟩ := Program.canEnd_bind_iff.1 hend
      cases Program.canEnd_done_iff.1 h₂
      exact ⟨⟨nofun, hs.shared⟩, fun _ _ => trivial⟩
    intro _
    refine .bind (.view _) ?_
    rintro (_ | comm)
    · exact .pure ()
    · exact hleave comm

lemma keepsFormed_chore [TensorLibrary] (chore : Chore) :
    KeepsFormed (chore.run (Host.platform devices) (backend patience)) := by
  cases chore with
  | alloc dtype shape owner => exact .bind (keepsFormed_onPlatform _) fun _ => .pure ()
  | write b content => exact keepsFormed_onPlatform _
  | recordStream b stream => exact keepsFormed_onPlatform _
  | inject text => exact .bind (keepsFormed_onInvoker _) fun _ => .pure ()
  | setSdkHome path => exact keepsFormed_onInvoker _
  | releaseSlot kind b index => exact .bind (keepsFormed_onSlots _) fun _ => .pure ()
  | acquireSlot kind b index => exact .bind (keepsFormed_onSlots _) fun _ => .pure ()
  | startRound group => exact keepsFormed_onLink group fun _ => steady_groupStart
  | endRound group => exact keepsFormed_onLink group fun _ => steady_groupEnd fun _ _ => trivial
  | send group b range peer stream =>
    exact keepsFormed_onLink group fun _ => steady_send fun _ => trivial
  | recv group b range peer stream =>
    exact keepsFormed_onLink group fun _ => steady_recv fun _ => trivial
  | init group id worldSize rank device => exact keepsFormed_init group id worldSize rank device
  | initFrom group launch => exact keepsFormed_initFrom group launch
  | shutdown => exact keepsFormed_shutdown

/-- A call of a process that exchanges, over the global group, or over the communicator of either
group. -/
inductive Exchange where
  | scatter (input : Buffer) (shape : List Nat) (stages slices : Nat) (direction : Direction)
  | gather (inputs : List Buffer) (shape : List Nat) (stages slices : Nat) (direction : Direction)
  | exchangeAll (input : Buffer)
  | allToAll (group : GroupKind) (inputs outputs : List Buffer) (inSizes outSizes : List Nat)
  | allGather (group : GroupKind) (inputs outputs : List Buffer) (sizes : List Nat)
  | broadcast (group : GroupKind) (b : Buffer) (root : Nat)
  | allReduce (group : GroupKind) (b : Buffer)

namespace Exchange

def group : Exchange → GroupKind
  | .allToAll group .. => group
  | .allGather group .. => group
  | .broadcast group .. => group
  | .allReduce group _ => group
  | _ => .global

/-- The call; it gives the buffers that it returns. -/
def run {S : Service} {σ F E T : Type} (P : Platform S σ F E) (B : Backend S σ T) :
    Exchange → ContextAct S σ F E T (List Buffer)
  | .scatter input shape stages slices direction =>
    Context.scatter P B input shape stages slices direction
  | .gather inputs shape stages slices direction =>
    Act.bind (Context.gather P B inputs shape stages slices direction) fun b => pure [b]
  | .exchangeAll input => Act.bind (Context.exchangeAll P B input) fun b => pure [b]
  | .allToAll group inputs outputs inSizes outSizes =>
    Act.bind (onComm group (Communicator.allToAll P B.transport inputs outputs inSizes outSizes))
      fun _ => pure []
  | .allGather group inputs outputs sizes =>
    Act.bind (onComm group (Communicator.allGather P B.transport inputs outputs sizes))
      fun _ => pure []
  | .broadcast group b root =>
    Act.bind (onComm group (Communicator.broadcast P B.transport b root)) fun _ => pure []
  | .allReduce group b =>
    Act.bind (onComm group (Communicator.allReduce P B.transport b)) fun _ => pure []

/-- With formed communicators, every exchange is behind its checks, and leaves them formed. -/
theorem guarded_run [TensorLibrary] (hs : Formed s) (x : Exchange) :
    (x.run (Host.platform devices) (uncheckedBackend patience)).Guarded ExchangeError.IsRejection
      (LateIn x.group ExchangeError.IsLate) Formed
      (x.run (Host.platform devices) (backend patience)) s := by
  cases x with
  | scatter input shape stages slices direction =>
    exact guarded_onScheduler hs fun e he => Scheduler.vetted_scatter he.posted
  | gather inputs shape stages slices direction =>
    exact .returns (guarded_onScheduler hs fun e he => Scheduler.vetted_gather he.posted) _
  | exchangeAll input =>
    exact .returns
      (guarded_onScheduler hs fun e he => Scheduler.vetted_exchangeAll he.valid he.posted) _
  | allToAll group inputs outputs inSizes outSizes =>
    exact .returns (guarded_onComm group hs fun _ => Communicator.vetted_allToAll) _
  | allGather group inputs outputs sizes =>
    exact .returns (guarded_onComm group hs fun _ => Communicator.vetted_allGather) _
  | broadcast group b root =>
    exact .returns (guarded_onComm group hs fun _ => Communicator.vetted_broadcast) _
  | allReduce group b =>
    exact .returns (guarded_onComm group hs fun _ => Communicator.vetted_allReduce) _

lemma keepsFormed_run [TensorLibrary] (x : Exchange) :
    KeepsFormed (x.run (Host.platform devices) (backend patience)) :=
  keepsFormed_of_guarded fun _ hs => x.guarded_run hs

end Exchange

lemma keepsFormed_call [TensorLibrary] (call : Call) :
    KeepsFormed (call.run (Host.platform devices) (backend patience)) := by
  cases call with
  | scatter input shape stages slices direction =>
    exact (Exchange.scatter input shape stages slices direction).keepsFormed_run
  | gather inputs shape stages slices direction =>
    exact (Exchange.gather inputs shape stages slices direction).keepsFormed_run
  | exchangeAll input => exact (Exchange.exchangeAll input).keepsFormed_run
  | allToAll inputs outputs inSizes outSizes =>
    exact (Exchange.allToAll .shared inputs outputs inSizes outSizes).keepsFormed_run
  | allGather inputs outputs sizes =>
    exact (Exchange.allGather .shared inputs outputs sizes).keepsFormed_run
  | broadcast b root => exact (Exchange.broadcast .shared b root).keepsFormed_run
  | allReduce b => exact (Exchange.allReduce .shared b).keepsFormed_run
  | allReduceAdd x t =>
    have hsum : KeepsFormed (Context.allReduce (Host.platform devices) (backend patience) t) :=
      keepsFormed_of_guarded fun _ hs => guarded_onComm .shared hs fun _ =>
        Communicator.vetted_allReduce
    refine .bind (.bind hsum ?_) fun _ => .pure _
    intro _
    exact .bind (.view _) fun kernels => keepsFormed_onInvoker _
  | runningLocations mask =>
    exact .bind (.bind (.view _) fun kernel => keepsFormed_onInvoker _) fun _ => .pure _
  | invoke handle device buffers scalars geometry =>
    exact .bind (keepsFormed_onInvoker _) fun _ => .pure _
  | invokeOn stream handle buffers scalars geometry =>
    exact .bind (keepsFormed_onInvoker _) fun _ => .pure _

/-- The states that a context on the host platform gets to. It is created by any compilers, does
chores, takes calls and exchanges, whatever they end with, and at any time anything may happen on
the platform apart from it. -/
inductive Attained [TensorLibrary] (devices patience : Nat) : HostState × HostContext → Prop where
  | created {q q' : HostState} {ctx : HostContext} {compilers : List (Compiler Net HostState)}
      {settings : Settings} (hend : (create (Host.platform devices) (backend patience) compilers
        settings q).CanEnd (.ok ctx, q')) : Attained devices patience (q', ctx)
  | elsewhere {s : HostState × HostContext} (h : Attained devices patience s) (q : HostState) :
      Attained devices patience (q, s.2)
  | chore {s s' : HostState × HostContext} {o : Outcome ExchangeError Unit}
      (h : Attained devices patience s) (chore : Chore)
      (hend : (chore.run (Host.platform devices) (backend patience) s).CanEnd (o, s')) :
      Attained devices patience s'
  | call {s s' : HostState × HostContext} {o : Outcome ExchangeError (List Buffer)}
      (h : Attained devices patience s) (call : Call)
      (hend : (call.run (Host.platform devices) (backend patience) s).CanEnd (o, s')) :
      Attained devices patience s'
  | exchange {s s' : HostState × HostContext} {o : Outcome ExchangeError (List Buffer)}
      (h : Attained devices patience s) (x : Exchange)
      (hend : (x.run (Host.platform devices) (backend patience) s).CanEnd (o, s')) :
      Attained devices patience s'

/-- In every attained state the communicators are formed. -/
theorem Attained.formed [TensorLibrary] (h : Attained devices patience s) : Formed s := by
  induction h with
  | created hend =>
    obtain ⟨-, hglobal, hshared⟩ := gives_ungrouped _ _ _ _ _ _ _ hend
    constructor
    · intro scheduler hsome
      cases hglobal.symm.trans hsome
    · intro comm hsome
      cases hshared.symm.trans hsome
  | elsewhere h q ih => exact ⟨ih.global, ih.shared⟩
  | chore h chore hend ih => exact ((keepsFormed_chore chore _ ih).2 _ _ hend).1
  | call h call hend ih => exact ((keepsFormed_call call _ ih).2 _ _ hend).1
  | exchange h x hend ih => exact ((x.keepsFormed_run _ ih).2 _ _ hend).1

lemma Reached.attained [TensorLibrary] (h : Reached devices patience s) :
    Attained devices patience s := by
  induction h with
  | created hcompilers hkernels hend => exact .created hend
  | registered h entry hkernel ih => exact ih.elsewhere _
  | chore h chore hend ih => exact ih.chore chore hend
  | call h call hheld hend ih => exact ih.call call hend

/-- What holds for a call of the exchange in the state `s`. -/
structure Exchange.Checked [TensorLibrary] (devices patience : Nat) (x : Exchange)
    (s : HostState × HostContext) :
    Prop where
  /-- A call that ends with a rejection is over at once: it has asked the network for nothing, and
  the platform with its memory, trace and log, and the context with its slots and links, are as
  before. -/
  rejected : ∀ e s', (x.run (Host.platform devices) (backend patience) s).CanEnd (.error e, s') →
    e.IsRejection → x.run (Host.platform devices) (backend patience) s = .done (.error e, s)
  /-- A call that fails in another way lacks its group, or fails with an error that no check can
  foresee. No slot is out of range, and no peer or byte range is refused. -/
  late : ∀ e s', (x.run (Host.platform devices) (backend patience) s).CanEnd (.error e, s') →
    ¬ e.IsRejection → e.IsLate ∨ e = .notInitialized x.group
  /-- The checks of the transport make no difference: each one passes. -/
  unchecked : x.run (Host.platform devices) (uncheckedBackend patience) s =
    x.run (Host.platform devices) (backend patience) s

/-- In every attained state, and with any arguments, the checks of an exchange come first and are
complete. -/
theorem exchanges_checked [TensorLibrary] (h : Attained devices patience s) (x : Exchange) :
    x.Checked devices patience s := by
  obtain ⟨hunchecked, hends⟩ := x.guarded_run h.formed
  refine ⟨?_, ?_, hunchecked⟩
  · intro e s' hend hrejected
    rcases (hends _ _ hend).2 e rfl with ⟨-, hdone⟩ | hlate | rfl
    · exact hdone
    · exact absurd hrejected (ExchangeError.not_isRejection_of_isLate hlate)
    · exact hrejected.elim
  · intro e s' hend hother
    rcases (hends _ _ hend).2 e rfl with ⟨hrejected, -⟩ | hlate
    · exact absurd hrejected hother
    · exact hlate

open StandIn in
/-- A process alone in its group broadcasts from a rank that is not there. -/
theorem exchanges_checked_alone :
    ∃ s, Attained 1 0 s ∧ (Exchange.broadcast .shared ⟨.f32, [2], 0, 0⟩ 5).Checked 1 0 s ∧
      ((Exchange.broadcast .shared ⟨.f32, [2], 0, 0⟩ 5).run (Host.platform 1) (backend 0)
        s).CanEnd (.error (.invalidRank 5 1), s) := by
  obtain ⟨s, hs⟩ := exists_alone
  refine ⟨s, hs.reached.attained, exchanges_checked hs.reached.attained _, ?_⟩
  obtain ⟨⟨heap, kernels, trace, log⟩, settings, invoker, add, running, global, shared⟩ := s
  have hshared := hs.shared
  dsimp only at hshared
  subst hshared
  exact .done _

end Context

end ExpertExchange
