import ExpertExchange.Proofs.Exchange.Mirrored
import ExpertExchange.Proofs.Exchange.Touched
import ExpertExchange.Proofs.Operator.Touched

/-!
# Reached contexts

A context on the host platform is created, joins and leaves groups, registers kernels and takes
calls. Through all of this its compilers stay what they were, and every kernel that is registered
or loaded forgets no user of a buffer.
-/

namespace ExpertExchange

open HostState

variable {devices patience : Nat} {kind : StreamKind} {A : Touch → Prop}

namespace Host

structure Workshop.Careful (w : Workshop) : Prop where
  leaves : ∀ c ∈ w.compilers, c.Leaves account
  registered : ∀ k ∈ w.watched.1.kernels, k.2.Careful
  loaded : w.cache.AllSound fun f => f.kernel.Careful

namespace Workshop

lemma Careful.ready {w : Workshop} (h : w.Careful) : (settling kind A).Ready w :=
  ⟨h.leaves, h.registered, h.loaded⟩

def Stays (w : Workshop) (_ : Ending) (w' : Workshop) : Prop := w.Careful → w'.Careful

lemma stays_self (w : Workshop) (ending : Ending) : w.Stays ending w := fun h => h

lemma chains_stays : Chains Stays := by
  constructor
  · intro w
    exact stays_self w .ok
  · intro w₀ w₁ w₂ ending h₁ h₂ h₀
    exact h₂ (h₁ h₀)

end Workshop

open Workshop

/-- A call that settles its account, except for some touches, leaves things in order. -/
lemma Settling.stays {w w' : Workshop} {ending : Ending} (h : Settling kind A w ending w') :
    w.Stays ending w' := by
  intro hcareful
  obtain ⟨hready, -⟩ := h.2 hcareful.ready
  exact ⟨hready.leaves, hready.inOrder, hready.sound⟩

variable {ε α β : Type}

/-- An act on the host platform and an invoker, with touches noted. -/
abbrev NotedInvoker (ε α : Type) : Type := Act Net (Noted × Invoker Net Noted HostFunction) ε α

lemma stays_invoker {m : NotedInvoker ε α}
    (hm : m.Changes workshopOf (Settling kind A)) :
    m.Changes workshopOf Stays := by
  intro q
  refine (hm q).mono ?_
  intro o q' h
  exact h.stays

/-- After acts that change nothing of it. -/
lemma stays_after {m : NotedInvoker ε α} {f : α → NotedInvoker ε β} (hm : m.Spares workshopOf)
    (hf : ∀ a, (f a).Changes workshopOf Stays) : (m.bind f).Changes workshopOf Stays :=
  .bind chains_stays (hm.changes stays_self) hf

/-- Acts on the platform that spare the account. -/
lemma workshop_within {m : Act Net Noted ε α} (hm : m.Spares account) :
    (m.within Part.first : NotedInvoker ε α).Spares workshopOf :=
  Regime.Governs.spares_within (K := settling .comm fun _ => False) hm

lemma account_log (level : LogLevel) (origin : LogOrigin) (message : String)
    (fields : List (String × LogValue)) :
    ((Host.platform devices : Platform Net _ _ HostEvent).noted.log level origin message fields :
      Act Net Noted ε Unit).Spares account := .modify fun _ => rfl

lemma stays_inject (text : String) :
    (Invoker.inject (Host.platform devices).noted text).Changes workshopOf Stays :=
  stays_invoker ((settling_governs devices .comm fun _ => False).works_inject text)

lemma stays_installEach (types : List Dtype) :
    (AddKernels.installEach (Host.platform devices).noted types).Changes workshopOf Stays := by
  induction types with
  | nil => exact .pure chains_stays _
  | cons t rest ih =>
    rw [AddKernels.installEach]
    cases Add.source? t with
    | none => exact ih
    | some source =>
      refine .bind chains_stays (stays_inject source) ?_
      intro handle
      refine .bind chains_stays ih ?_
      intro handles
      exact .pure chains_stays _

lemma stays_regroup (device : Nat) :
    (RegroupKernels.install (Host.platform devices).noted device).Changes workshopOf Stays :=
  stays_invoker ((settling_governs devices .comm fun _ => False).works_regroup device
    fun _ => spares_account (.pure (1, 1024)))

/-- Leaving a group. -/
lemma account_leave [TensorLibrary] (comm : Communicator SimulatedLink) :
    ((Communicator.close SimulatedLink.transport.noted).alongside comm :
      Act Net Noted ExchangeError Unit).Spares account :=
  .alongside (Act.Changes.within (SimulatedLink.spares_unnoted (.pure ())) (fun _ => rfl)
    fun _ _ => rfl)

lemma account_destroyAll (events : List HostEvent) :
    (Slots.destroyAll (Host.platform devices).noted events : Act Net Noted _ _).Spares account :=
  .forEach fun _ _ => spares_account (.pure ())

lemma slotsAccount_close :
    (Slots.close (Host.platform devices).noted :
      Act Net (Noted × Slots HostEvent) ExchangeError Unit).Spares Slots.slotsAccount := by
  refine .bind (.view _) ?_
  intro events
  exact Act.Changes.within (.mapError (account_destroyAll events)) (fun _ => rfl) fun _ _ => rfl

lemma account_createFrom (device first count : Nat) (made : List HostEvent) :
    (Slots.createFrom (Host.platform devices).noted device first count made :
      Act Net Noted _ _).Spares account := by
  induction count generalizing first made with
  | zero => exact .pure made
  | succ count ih =>
    refine .bind (Act.Changes.orElseClean (spares_account ?_) (account_destroyAll made)) ?_
    · refine .bind (.ensure _ _) ?_
      intro _
      exact .pure _
    · intro e
      exact ih _ _

lemma stays_scheduler [TensorLibrary] (settings : Settings) (comm : Communicator SimulatedLink) :
    (Scheduler.create (Host.platform devices).noted SimulatedLink.transport.noted settings
      comm).Changes workshopOf Stays := by
  refine .orElseClean ?_ (workshop_within (account_leave comm))
  refine stays_after (workshop_within ?_) ?_
  · refine .bind (Act.Changes.mapError (account_createFrom _ _ _ _)) ?_
    intro events
    refine .bind (account_log _ _ _ _) ?_
    intro _
    exact .pure _
  intro slots
  refine .bind chains_stays (.orElseClean (.mapError (stays_regroup _)) ?_) ?_
  · exact workshop_within (.alongside slotsAccount_close)
  intro regroup
  refine stays_after (workshop_within (account_log _ _ _ _)) ?_
  intro _
  exact .pure chains_stays _

end Host

namespace Context

section Groups

variable {S : Service} {σ F E T α : Type} {s : σ × Context S σ F E T}
  {Q : Outcome ExchangeError α → σ × Context S σ F E T → Prop}

/-- A call on the global group: what holds of the scheduler's part, and of the refusal. -/
lemma ensures_onGlobal {m : Act S (Engine S σ F E T) ExchangeError α}
    (hnone : Q (.error (.notInitialized .global)) s)
    (hsome : ∀ scheduler, m.Ensures (s.1, (s.2.invoker, scheduler)) fun o e =>
      Q o (e.1, { s.2 with invoker := e.2.1, global := some e.2.2 })) :
    (onGlobal m).Ensures s Q := by
  intro o s' hend
  unfold onGlobal at hend
  cases hglobal : s.2.global with
  | none =>
    rw [hglobal] at hend
    cases Program.canEnd_done_iff.1 hend
    exact hnone
  | some scheduler =>
    rw [hglobal] at hend
    obtain ⟨⟨o₁, e₁⟩, h₁, h₂⟩ := Program.canEnd_bind_iff.1 hend
    cases Program.canEnd_done_iff.1 h₂
    exact hsome scheduler o₁ e₁ h₁

/-- A call on the shared group: what holds of the communicator's part, and of the refusal. -/
lemma ensures_onShared {m : Act S (σ × Communicator T) ExchangeError α}
    (hnone : Q (.error (.notInitialized .shared)) s)
    (hsome : ∀ comm, m.Ensures (s.1, comm) fun o q =>
      Q o (q.1, { s.2 with shared := some q.2 })) : (onShared m).Ensures s Q := by
  intro o s' hend
  unfold onShared at hend
  cases hshared : s.2.shared with
  | none =>
    rw [hshared] at hend
    cases Program.canEnd_done_iff.1 hend
    exact hnone
  | some comm =>
    rw [hshared] at hend
    obtain ⟨⟨o₁, q₁⟩, h₁, h₂⟩ := Program.canEnd_bind_iff.1 hend
    cases Program.canEnd_done_iff.1 h₂
    exact hsome comm o₁ q₁ h₁

end Groups

open Host Host.Workshop

variable {α β ε : Type}

/-- A context on the host platform in simulated groups, with touches noted. -/
abbrev NotedContext := Context Net Noted HostFunction HostEvent SimulatedLink

abbrev NotedCall (α : Type) : Type := ContextAct Net Noted HostFunction HostEvent SimulatedLink α

/-- What is watched of a context: its account, its compilers and its cache. -/
def ledger (s : Noted × NotedContext) : Workshop := workshopOf (s.1, s.2.invoker)

lemma ledger_onPlatform {m : Act Net Noted ε α} (hm : m.Spares account) :
    (onPlatform m : Act Net (Noted × NotedContext) ε α).Spares ledger :=
  Act.Changes.part hm fun s _ _ h =>
    congrArg (Workbench.mk · s.2.invoker.compilers s.2.invoker.cache) h

lemma stays_onPlatform {m : Act Net HostState DeviceError α} (hm : m.Changes roll Roll.Keeps) :
    (onPlatform ((m.within Part.first).mapError .device) : NotedCall α).Changes ledger Stays := by
  have hsettles : (m.within Part.first : Act Net Noted _ _).Changes account
      (Account.Settles .comm fun _ => False) := settles_within hm
  refine .part hsettles.mapError ?_
  intro s ending q h
  have hsettling : Settling .comm (fun _ => False) (ledger s) ending
      (ledger (Part.first.put s q)) := .of_account rfl rfl h
  exact hsettling.stays

lemma changes_onInvoker {R : Workshop → Ending → Workshop → Prop} {m : NotedInvoker ε α}
    (hm : m.Changes workshopOf R) :
    (onInvoker m : Act Net (Noted × NotedContext) ε α).Changes ledger R :=
  .within hm (fun _ => rfl) fun _ _ => rfl

lemma settling_onGlobal {s : Noted × NotedContext}
    {m : Act Net Scheduler.NotedEngine ExchangeError α}
    (hm : ∀ e : Scheduler.NotedEngine, e.1 = s.1 →
      m.Ensures e fun o e' =>
        Settling kind A (Scheduler.workshop e) o.ending (Scheduler.workshop e')) :
    (onGlobal m : NotedCall α).Ensures s fun o s' =>
      Settling kind A (ledger s) o.ending (ledger s') :=
  ensures_onGlobal (settling_self _ _) fun _ => hm _ rfl

lemma settling_onShared {m : Act Net (Noted × Communicator SimulatedLink) ExchangeError α}
    (hm : m.Changes Communicator.commAccount (Account.Settles kind A)) :
    (onShared m : NotedCall α).Changes ledger (Settling kind A) := by
  intro s
  refine ensures_onShared (settling_self _ _) ?_
  intro comm
  refine (hm (s.1, comm)).mono ?_
  intro o q h
  exact .of_account rfl rfl h

lemma stays_onComm (group : GroupKind)
    {m : Act Net (Noted × Communicator SimulatedLink) ExchangeError α}
    (hm : m.Changes Communicator.commAccount (Account.Settles kind A)) :
    (onComm group m : NotedCall α).Changes ledger Stays := by
  intro s
  cases group with
  | global =>
    refine (settling_onGlobal fun e _ => Scheduler.settling_onComm hm e).mono ?_
    intro o s' h
    exact h.stays
  | shared =>
    refine (settling_onShared hm s).mono ?_
    intro o s' h
    exact h.stays

/-- A transfer outside of all calls. -/
lemma stays_transfer (group : GroupKind) {b : Buffer} {stream : Stream}
    {m : Act Net (Noted × SimulatedLink) ExchangeError Unit}
    (hm : m.Changes SimulatedLink.linkAccount (Account.Touches (Touch.On stream [b]))) :
    (onComm group (Communicator.onLink m) : NotedCall Unit).Changes ledger Stays := by
  have hsettles : (Communicator.onLink m).Changes Communicator.commAccount
      (Account.Settles stream.kind (Touch.On stream [b])) := by
    intro q
    refine (Communicator.touches_onLink hm q).mono ?_
    intro o q' h
    refine h.settles ?_
    intro t ht
    exact ⟨congrArg Stream.kind ht.1, ht⟩
  exact stays_onComm group hsettles

/-- The start or end of a round outside of all calls. -/
lemma stays_round (group : GroupKind) {m : SimulatedLink.LinkAct Unit}
    (hm : m.Spares (SimulatedLink.beside roll)) :
    (onComm group (Communicator.onLink (m.within Transport.unnoted)) :
      NotedCall Unit).Changes ledger Stays := by
  have hlink : (Communicator.onLink (m.within Transport.unnoted) :
      Act Net (Noted × Communicator SimulatedLink) ExchangeError Unit).Spares
        Communicator.commAccount :=
    Act.Changes.within (SimulatedLink.spares_unnoted hm) (fun _ => rfl) fun _ _ => rfl
  exact stays_onComm group (hlink.changes (Account.settles_self .comm fun _ => False))

lemma stays_onSlots {m : Act Net (Noted × Slots HostEvent) ExchangeError α}
    (hm : m.Changes Slots.slotsAccount (Account.Settles .comm fun _ => False)) :
    (onSlots m : NotedCall α).Changes ledger Stays := by
  intro s
  refine (settling_onGlobal fun e _ => Scheduler.settling_onSlots hm e).mono ?_
  intro o s' h
  exact h.stays

/-- After acts that change nothing of it. -/
lemma ledger_after {m : NotedCall α} {f : α → NotedCall β} (hm : m.Spares ledger)
    (hf : ∀ a, (f a).Changes ledger Stays) : (m.bind f).Changes ledger Stays :=
  .bind chains_stays (hm.changes stays_self) hf

/-- A new context is in order, when the compilers and the kernels of the platform are. -/
lemma careful_create [TensorLibrary] {compilers : List (Compiler Net Noted)} {settings : Settings}
    {q : Noted} (hcompilers : ∀ c ∈ compilers, c.Leaves account)
    (hkernels : ∀ k ∈ q.1.kernels, k.2.Careful) :
    (create (Host.platform devices).noted (SimulatedLink.backend patience).noted compilers
      settings).Gives q fun ctx q' => (ledger (q', ctx)).Careful := by
  have hinstall : (Act.bind ((AddKernels.install (Host.platform devices).noted).mapError .kernel)
      fun add => Act.bind ((RunningLocationKernel.install
        (Host.platform devices).noted).mapError .kernel) fun runningLocation =>
      Act.bind (((Host.platform devices : Platform Net _ _ HostEvent).noted.log .debug .context
        "exchange context created" [("platform", .text "host"), ("backend", .text "sim"),
          ("devices", .number devices)]).within Part.first) fun _ =>
      (pure (add, runningLocation) : NotedInvoker ExchangeError _)).Changes workshopOf Stays := by
    refine .bind chains_stays (.mapError ?_) ?_
    · refine .bind chains_stays (stays_installEach _) ?_
      intro handles
      exact .pure chains_stays _
    intro add
    refine .bind chains_stays (.mapError ?_) ?_
    · refine .bind chains_stays (stays_inject _) ?_
      intro handle
      exact .pure chains_stays _
    intro runningLocation
    refine stays_after (workshop_within (account_log _ _ _ _)) ?_
    intro _
    exact .pure chains_stays _
  intro ctx q' hend
  obtain ⟨⟨o, q₁, invoker⟩, h₁, h₂⟩ := Program.canEnd_bind_iff.1 hend
  have hstays := hinstall _ _ _ h₁
  cases o with
  | ok kernels =>
    cases Program.canEnd_done_iff.1 h₂
    exact hstays ⟨hcompilers, hkernels, .empty _⟩
  | error e => cases Program.canEnd_done_iff.1 h₂
  | fault w => cases Program.canEnd_done_iff.1 h₂

lemma account_connect [TensorLibrary] (id : Bytes) (worldSize rank device timeout : Nat) :
    ((SimulatedLink.backend patience).noted.connect id worldSize rank device timeout :
      Act Net Noted ExchangeError SimulatedLink).Spares account := by
  refine spares_account ?_
  refine .bind (.ensure _ _) ?_
  intro _
  refine .bind (.request _) ?_
  intro answer
  cases answer with
  | tooLarge => exact .ofOutcome (.fault none)
  | otherSize formed => exact .fail _
  | joined =>
    refine .bind (.request _) ?_
    intro complete
    refine .ite ?_ ?_
    · refine .bind (.modify fun _ => rfl) ?_
      intro _
      exact .pure _
    · refine .bind (.modify fun _ => rfl) ?_
      intro _
      exact .fail _

lemma ledger_connect [TensorLibrary] (id : Bytes) (worldSize rank device : Nat) :
    (connect (Host.platform devices).noted (SimulatedLink.backend patience).noted id worldSize rank
      device : NotedCall (Communicator SimulatedLink)).Spares ledger := by
  refine .bind (.view _) ?_
  intro settings
  refine .bind (ledger_onPlatform (account_connect _ _ _ _ _)) ?_
  intro link
  refine .bind (Act.Changes.orElseClean (Act.Spares.ofOutcome _) (ledger_onPlatform ?_)) ?_
  · exact .alongside (SimulatedLink.spares_unnoted (.pure ()))
  · intro topology
    exact .pure _

lemma ledger_checkAbsent (group : GroupKind) :
    (checkAbsent group : NotedCall Unit).Spares ledger := by
  refine .bind (.view _) ?_
  intro formed
  exact .ensure _ _

lemma stays_init [TensorLibrary] (group : GroupKind) (id : Bytes) (worldSize rank device : Nat) :
    (init (Host.platform devices).noted (SimulatedLink.backend patience).noted group id worldSize
      rank device : NotedCall Unit).Changes ledger Stays := by
  cases group with
  | global =>
    refine ledger_after (ledger_checkAbsent _) ?_
    intro _
    refine ledger_after (ledger_connect _ _ _ _) ?_
    intro comm
    refine ledger_after (.view _) ?_
    intro settings
    refine .bind chains_stays (changes_onInvoker (stays_scheduler settings comm)) ?_
    intro scheduler
    refine ledger_after (ledger_onPlatform (account_log _ _ _ _)) ?_
    intro _
    exact Act.Spares.changes (.modify fun _ => rfl) stays_self
  | shared =>
    refine ledger_after (ledger_checkAbsent _) ?_
    intro _
    refine ledger_after (ledger_connect _ _ _ _) ?_
    intro comm
    refine ledger_after (ledger_onPlatform (account_log _ _ _ _)) ?_
    intro _
    exact Act.Spares.changes (.modify fun _ => rfl) stays_self

lemma stays_initFrom [TensorLibrary] (group : GroupKind) (launch : Launch) :
    (initFrom (Host.platform devices).noted (SimulatedLink.backend patience).noted group launch :
      NotedCall Unit).Changes ledger Stays := by
  have hid : (launch.groupId (SimulatedLink.backend patience).noted :
      Act Net Noted ExchangeError Bytes).Spares account := by
    refine .bind (.ensure _ _) ?_
    intro _
    refine .ite ?_ (.fail _)
    refine .bind (spares_account (.request _)) ?_
    intro id
    exact .ite (.fail _) (.pure id)
  refine ledger_after (ledger_checkAbsent _) ?_
  intro _
  refine ledger_after (ledger_onPlatform hid) ?_
  intro id
  exact stays_init _ _ _ _ _

lemma workshop_close [TensorLibrary] :
    (Scheduler.close (Host.platform devices).noted (SimulatedLink.backend patience).noted.transport :
      Act Net Scheduler.NotedEngine ExchangeError Unit).Spares Scheduler.workshop := by
  have hlink : (Communicator.close SimulatedLink.transport.noted).Spares
      Communicator.commAccount :=
    Act.Changes.within (SimulatedLink.spares_unnoted (.pure ())) (fun _ => rfl) fun _ _ => rfl
  refine .bind ?_ ?_
  · refine Act.Changes.part hlink ?_
    intro e ending q h
    exact congrArg (Workbench.mk · e.2.1.compilers e.2.1.cache) h
  · intro _
    refine Act.Changes.part slotsAccount_close ?_
    intro e ending q h
    exact congrArg (Workbench.mk · e.2.1.compilers e.2.1.cache) h

lemma ledger_shutdown [TensorLibrary] :
    (shutdown (Host.platform devices).noted (SimulatedLink.backend patience).noted :
      NotedCall Unit).Spares ledger := by
  have hleave : ∀ comm : Communicator SimulatedLink, Act.Spares ledger (do
      onPlatform ((Host.platform devices : Platform Net _ _ HostEvent).noted.log .info .context
        "shared communicator shut down" [("rank", .number comm.topology.rank)])
      onPlatform ((Communicator.close
        (SimulatedLink.backend patience).noted.transport).alongside comm)
      Act.modify fun s => (s.1, { s.2 with shared := none }) : NotedCall Unit) := by
    intro comm
    refine .bind (ledger_onPlatform (account_log _ _ _ _)) ?_
    intro _
    refine .bind (ledger_onPlatform (account_leave comm)) ?_
    intro _
    exact .modify fun _ => rfl
  have hclose : ∀ scheduler : Scheduler HostEvent SimulatedLink, Act.Spares ledger
      (fun s => (Scheduler.close (Host.platform devices).noted
          (SimulatedLink.backend patience).noted.transport (s.1, (s.2.invoker, scheduler))).bind
        fun r => .done (r.1, (r.2.1, { s.2 with invoker := r.2.2.1, global := none })) :
        NotedCall Unit) := by
    intro scheduler s o s' hend
    obtain ⟨⟨o₁, e₁⟩, h₁, h₂⟩ := Program.canEnd_bind_iff.1 hend
    cases Program.canEnd_done_iff.1 h₂
    exact workshop_close (s.1, (s.2.invoker, scheduler)) o₁ e₁ h₁
  refine .bind (.view _) ?_
  rintro (_ | scheduler)
  · refine .bind (.view _) ?_
    rintro (_ | comm)
    · exact .pure ()
    · exact hleave comm
  · refine .bind (ledger_onPlatform (account_log _ _ _ _)) ?_
    intro _
    refine .bind (hclose scheduler) ?_
    intro _
    refine .bind (.view _) ?_
    rintro (_ | comm)
    · exact .pure ()
    · exact hleave comm

/-- Whatever a process does with its context and platform between the calls that exchange and
compute. -/
inductive Chore where
  | alloc (dtype : Dtype) (shape : List Nat) (owner : Stream)
  | write (b : Buffer) (content : Bytes)
  | recordStream (b : Buffer) (stream : Stream)
  | inject (text : String)
  | setSdkHome (path : String)
  | releaseSlot (kind : StreamKind) (b : Buffer) (index : Nat)
  | acquireSlot (kind : StreamKind) (b : Buffer) (index : Nat)
  | startRound (group : GroupKind)
  | endRound (group : GroupKind)
  | send (group : GroupKind) (b : Buffer) (range : ByteRange) (peer : Nat) (stream : Stream)
  | recv (group : GroupKind) (b : Buffer) (range : ByteRange) (peer : Nat) (stream : Stream)
  | init (group : GroupKind) (id : Bytes) (worldSize rank device : Nat)
  | initFrom (group : GroupKind) (launch : Launch)
  | shutdown

namespace Chore

def run {S : Service} {σ F E T : Type} (P : Platform S σ F E) (B : Backend S σ T) (chore : Chore) :
    ContextAct S σ F E T Unit :=
  let X := B.transport
  match chore with
  | .alloc dtype shape owner =>
    Act.bind (onPlatform ((P.alloc dtype shape owner).mapError .device)) fun _ => pure ()
  | .write b content => onPlatform ((P.write b content).mapError .device)
  | .recordStream b stream => onPlatform ((P.recordStream b stream).mapError .device)
  | .inject text => Act.bind (Context.inject P text) fun _ => pure ()
  | .setSdkHome path => onInvoker ((Invoker.setSdkHome P path).mapError .kernel)
  | .releaseSlot kind b index =>
    Act.bind (onSlots (Slots.releaseOn P kind b index)) fun _ => pure ()
  | .acquireSlot kind b index =>
    Act.bind (onSlots (Slots.acquireOn P kind b index)) fun _ => pure ()
  | .startRound group => onComm group (Communicator.onLink X.groupStart)
  | .endRound group => onComm group (Communicator.onLink X.groupEnd)
  | .send group b range peer stream =>
    onComm group (Communicator.onLink (X.send b range peer stream))
  | .recv group b range peer stream =>
    onComm group (Communicator.onLink (X.recv b range peer stream))
  | .init group id worldSize rank device => Context.init P B group id worldSize rank device
  | .initFrom group launch => Context.initFrom P B group launch
  | .shutdown => Context.shutdown P B

lemma mirrors_run {S : Service} {σ τ F E T : Type} {R : τ → σ → Prop} {P' : Platform S τ F E}
    {P : Platform S σ F E} {B' : Backend S τ T} {B : Backend S σ T}
    {compilers' : List (Compiler S τ)} {compilers : List (Compiler S σ)} (hP : P'.Mirrors R P)
    (hB : B'.Mirrors R B) (hcompilers : List.Forall₂ (Compiler.Mirrors R) compilers' compilers)
    (chore : Chore) : (chore.run P' B').Mirrors (Twins R compilers' compilers) (chore.run P B) := by
  have hX := hB.transport
  cases chore with
  | alloc dtype shape owner =>
    refine .bind (mirrors_onPlatform (.mapError hP.alloc)) ?_
    intro _
    exact .pure ()
  | write b content => exact mirrors_onPlatform (.mapError hP.write)
  | recordStream b stream => exact mirrors_onPlatform (.mapError hP.recordStream)
  | inject text =>
    refine .bind (mirrors_onInvoker (.mapError (Invoker.mirrors_inject hP text))) ?_
    intro _
    exact .pure ()
  | setSdkHome path => exact mirrors_onInvoker (.mapError (Invoker.mirrors_setSdkHome hP path))
  | releaseSlot kind b index =>
    refine .bind (mirrors_onGlobal (Scheduler.mirrors_onSlots (Slots.mirrors_releaseOn hP))) ?_
    intro _
    exact .pure ()
  | acquireSlot kind b index =>
    refine .bind (mirrors_onGlobal (Scheduler.mirrors_onSlots (Slots.mirrors_acquireOn hP))) ?_
    intro _
    exact .pure ()
  | startRound group => exact mirrors_onComm (Communicator.mirrors_onLink hX.groupStart)
  | endRound group => exact mirrors_onComm (Communicator.mirrors_onLink hX.groupEnd)
  | send group b range peer stream => exact mirrors_onComm (Communicator.mirrors_onLink hX.send)
  | recv group b range peer stream => exact mirrors_onComm (Communicator.mirrors_onLink hX.recv)
  | init group id worldSize rank device => exact mirrors_init hP hB hcompilers
  | initFrom group launch => exact mirrors_initFrom hP hB hcompilers
  | shutdown => exact mirrors_shutdown hP hB

/-- Through every chore, things stay in order. -/
theorem stays [TensorLibrary] (chore : Chore) :
    (chore.run (Host.platform devices).noted (SimulatedLink.backend patience).noted).Changes ledger
      Stays := by
  cases chore with
  | alloc dtype shape owner =>
    refine .bind chains_stays (stays_onPlatform (keeps_alloc dtype shape owner)) ?_
    intro _
    exact .pure chains_stays ()
  | write b content =>
    refine (ledger_onPlatform (.mapError (spares_account ?_))).changes stays_self
    exact spares_onHeap (Heap.spares_copyIn content)
  | recordStream b stream => exact stays_onPlatform keeps_recordStream
  | inject text =>
    refine .bind chains_stays (changes_onInvoker (.mapError (stays_inject text))) ?_
    intro _
    exact .pure chains_stays ()
  | setSdkHome path =>
    refine changes_onInvoker (.mapError ?_)
    refine stays_after (.modify fun _ => rfl) ?_
    intro _
    exact (workshop_within (account_log _ _ _ _)).changes stays_self
  | releaseSlot kind b index =>
    refine .bind chains_stays (stays_onSlots (Slots.settles_releaseOn kind)) ?_
    intro _
    exact .pure chains_stays ()
  | acquireSlot kind b index =>
    refine .bind chains_stays (stays_onSlots (Slots.settles_acquireOn kind)) ?_
    intro _
    exact .pure chains_stays ()
  | startRound group => exact stays_round group (SimulatedLink.spares_groupStart traceless_roll)
  | endRound group =>
    exact stays_round group (SimulatedLink.spares_groupEnd contentless_roll traceless_roll)
  | send group b range peer stream =>
    exact stays_transfer group (SimulatedLink.touches_send ⟨rfl, List.mem_singleton_self b⟩)
  | recv group b range peer stream =>
    exact stays_transfer group (SimulatedLink.touches_recv ⟨rfl, List.mem_singleton_self b⟩)
  | init group id worldSize rank device => exact stays_init group id worldSize rank device
  | initFrom group launch => exact stays_initFrom group launch
  | shutdown => exact ledger_shutdown.changes stays_self

end Chore

end Context

end ExpertExchange
