import ExpertExchange.Proofs.Exchange.Chores
import ExpertExchange.Proofs.Exchange.SumAdded
import ExpertExchange.StandIn.Tensors

/-!
# Registration of the streams that touch a buffer

Freeing a buffer waits for the streams that are registered with it, so every stream on which a call
enqueues something that touches the buffer should be among them when the call returns. The
exchanges see to that themselves. The collectives and the launches of kernels do not: they run on
the compute stream and register it with no buffer, so that it is registered with what they allocate
themselves, and otherwise only where it was before.
-/

namespace ExpertExchange

namespace Context

open Host HostState

/-- A call that exchanges or computes. -/
inductive Call where
  | scatter (input : Buffer) (shape : List Nat) (stages slices : Nat) (direction : Direction)
  | gather (inputs : List Buffer) (shape : List Nat) (stages slices : Nat) (direction : Direction)
  | exchangeAll (input : Buffer)
  | allToAll (inputs outputs : List Buffer) (inSizes outSizes : List Nat)
  | allGather (inputs outputs : List Buffer) (sizes : List Nat)
  | broadcast (b : Buffer) (root : Nat)
  | allReduce (b : Buffer)
  | allReduceAdd (x t : Buffer)
  | runningLocations (mask : Buffer)
  | invoke (handle : KernelHandle) (device : Nat) (buffers : List Buffer) (scalars : List Scalar)
      (geometry : GeometryOverride)
  | invokeOn (stream : Stream) (handle : KernelHandle) (buffers : List Buffer)
      (scalars : List Scalar) (geometry : GeometryOverride)

namespace Call

/-- The call; it gives the buffers that it returns. -/
def run {S : Service} {σ F E T : Type} (P : Platform S σ F E) (B : Backend S σ T) (call : Call) :
    ContextAct S σ F E T (List Buffer) :=
  let one (m : ContextAct S σ F E T Buffer) : ContextAct S σ F E T (List Buffer) :=
    Act.bind m fun b => pure [b]
  let none (m : ContextAct S σ F E T Unit) : ContextAct S σ F E T (List Buffer) :=
    Act.bind m fun _ => pure []
  match call with
  | .scatter input shape stages slices direction =>
    Context.scatter P B input shape stages slices direction
  | .gather inputs shape stages slices direction =>
    one (Context.gather P B inputs shape stages slices direction)
  | .exchangeAll input => one (Context.exchangeAll P B input)
  | .allToAll inputs outputs inSizes outSizes =>
    none (Context.allToAll P B inputs outputs inSizes outSizes)
  | .allGather inputs outputs sizes => none (Context.allGather P B inputs outputs sizes)
  | .broadcast b root => none (Context.broadcast P B b root)
  | .allReduce b => none (Context.allReduce P B b)
  | .allReduceAdd x t => one (Context.allReduceAdd P B x t)
  | .runningLocations mask => one (Context.runningLocations P mask)
  | .invoke handle device buffers scalars geometry =>
    none (Context.invoke P handle device buffers scalars geometry)
  | .invokeOn stream handle buffers scalars geometry =>
    none (onInvoker ((Invoker.invokeOn P stream handle buffers scalars geometry).mapError .kernel))

def buffers : Call → List Buffer
  | .scatter input .. => [input]
  | .gather inputs .. => inputs
  | .exchangeAll input => [input]
  | .allToAll inputs outputs .. => inputs ++ outputs
  | .allGather inputs outputs _ => inputs ++ outputs
  | .broadcast b _ => [b]
  | .allReduce b => [b]
  | .allReduceAdd x t => [x, t]
  | .runningLocations mask => [mask]
  | .invoke _ _ buffers .. => buffers
  | .invokeOn _ _ buffers .. => buffers

/-- The kind of the stream that the call enqueues on. -/
def streamKind : Call → StreamKind
  | .scatter .. => .comm
  | .gather .. => .comm
  | .exchangeAll .. => .comm
  | .invokeOn stream .. => stream.kind
  | _ => .compute

/-- An exchange of the global group. -/
def isExchange : Call → Bool
  | .scatter .. => true
  | .gather .. => true
  | .exchangeAll .. => true
  | _ => false

def isCollective : Call → Bool
  | .allToAll .. => true
  | .allGather .. => true
  | .broadcast .. => true
  | .allReduce .. => true
  | _ => false

/-- All buffers among the arguments have been allocated. -/
def Held (call : Call) (heap : Heap) : Prop := ∀ b ∈ call.buffers, b.cell < heap.length

/-- The touch is of an argument of a call that is no exchange. -/
def LeavesOpen (call : Call) (t : Touch) : Prop :=
  call.isExchange = false ∧ t.buffer ∈ call.buffers

variable {devices patience : Nat} {call : Call} {s s' : Noted × NotedContext} {α : Type}

lemma mirrors_run {S : Service} {σ τ F E T : Type} {R : τ → σ → Prop} {P' : Platform S τ F E}
    {P : Platform S σ F E} {B' : Backend S τ T} {B : Backend S σ T}
    {compilers' : List (Compiler S τ)} {compilers : List (Compiler S σ)} (hP : P'.Mirrors R P)
    (hB : B'.Mirrors R B) (hcompilers : List.Forall₂ (Compiler.Mirrors R) compilers' compilers)
    (call : Call) : (call.run P' B').Mirrors (Twins R compilers' compilers) (call.run P B) := by
  have hX := hB.transport
  cases call with
  | scatter input shape stages slices direction =>
    exact mirrors_onGlobal (Scheduler.mirrors_scatter hP hX)
  | gather inputs shape stages slices direction =>
    exact .bind (mirrors_onGlobal (Scheduler.mirrors_gather hP hX)) fun _ => .pure _
  | exchangeAll input =>
    exact .bind (mirrors_onGlobal (Scheduler.mirrors_exchangeAll hP hX hcompilers)) fun _ => .pure _
  | allToAll inputs outputs inSizes outSizes =>
    exact .bind (mirrors_onShared (Communicator.mirrors_allToAll hP hX)) fun _ => .pure _
  | allGather inputs outputs sizes =>
    exact .bind (mirrors_onShared (Communicator.mirrors_allGather hP hX)) fun _ => .pure _
  | broadcast b root =>
    exact .bind (mirrors_onShared (Communicator.mirrors_broadcast hP hX)) fun _ => .pure _
  | allReduce b =>
    exact .bind (mirrors_onShared (Communicator.mirrors_allReduce hP hX)) fun _ => .pure _
  | allReduceAdd x t =>
    refine .bind (.bind (mirrors_onShared (Communicator.mirrors_allReduce hP hX)) ?_)
      fun _ => .pure _
    intro _
    refine .viewing ?_
    rintro ⟨t, _⟩ ⟨s, c⟩ ⟨-, -, rfl⟩
    exact mirrors_onInvoker (.mapError (c.add.mirrors_add hP hcompilers))
  | runningLocations mask =>
    refine .bind (.viewing ?_) fun _ => .pure _
    rintro ⟨t, _⟩ ⟨s, c⟩ ⟨-, -, rfl⟩
    exact mirrors_onInvoker (.mapError (c.runningLocation.mirrors_run hP hcompilers))
  | invoke handle device buffers scalars geometry =>
    exact .bind (mirrors_onInvoker (.mapError (Invoker.mirrors_invoke hP hcompilers)))
      fun _ => .pure _
  | invokeOn stream handle buffers scalars geometry =>
    exact .bind (mirrors_onInvoker (.mapError (Invoker.mirrors_invokeOn hP hcompilers)))
      fun _ => .pure _

/-- An exchange leaves nothing open. -/
lemma settling_exchange {m : Act Net Scheduler.NotedEngine ExchangeError α}
    (hm : ∀ e : Scheduler.NotedEngine, e.1 = s.1 → m.Ensures e fun o e' =>
      Settling .comm (fun _ => False) (Scheduler.workshop e) o.ending (Scheduler.workshop e')) :
    (onGlobal m : NotedCall α).Ensures s fun o s' =>
      Settling .comm call.LeavesOpen (ledger s) o.ending (ledger s') := by
  refine (settling_onGlobal hm).mono ?_
  intro o s' h
  exact h.settle nofun

/-- What is returned changes nothing. -/
lemma settling_returns {kind : StreamKind} {A : Touch → Prop} {m : NotedCall α}
    {f : α → List Buffer}
    (hm : m.Ensures s fun o s' => Settling kind A (ledger s) o.ending (ledger s')) :
    (Act.bind m fun a => pure (f a) : NotedCall (List Buffer)).Ensures s fun o s' =>
      Settling kind A (ledger s) o.ending (ledger s') :=
  Act.Changes.after chains_settling hm fun _ => .pure chains_settling _

/-- A collective leaves the touches of its buffers open. -/
lemma settling_collective {bs : List Buffer}
    {m : Act Net (Noted × Communicator SimulatedLink) ExchangeError α}
    (hm : m.Changes Communicator.commAccount
      (Account.Touches (Communicator.TouchesOn .compute bs))) :
    (onShared m : NotedCall α).Changes ledger (Settling .compute (·.buffer ∈ bs)) := by
  refine settling_onShared ?_
  intro q
  refine (hm q).mono ?_
  intro o q' h
  exact h.settles fun t ht => ht

/-- A sum over the group, and then one of two buffers. -/
lemma settling_allReduceAdd [TensorLibrary] (x t : Buffer) :
    (Context.allReduceAdd (Host.platform devices).noted (SimulatedLink.backend patience).noted x t :
      NotedCall Buffer).Changes ledger (Settling .compute (·.buffer ∈ [x, t])) := by
  refine .bind chains_settling ?_ ?_
  · intro s
    refine (settling_collective Communicator.touches_allReduce s).mono ?_
    intro o s' h
    refine h.settle ?_
    intro touch htouch
    exact .inl (List.mem_cons_of_mem x htouch)
  · intro _
    refine .bind chains_settling ((Act.Spares.view _).changes settling_self) ?_
    intro kernels
    exact changes_onInvoker (.mapError (kernels.settling_add x t))

lemma settling_runningLocations (mask : Buffer) :
    (Context.runningLocations (Host.platform devices).noted mask : NotedCall Buffer).Changes ledger
      (Settling .compute (·.buffer ∈ [mask])) := by
  refine .bind chains_settling ((Act.Spares.view _).changes settling_self) ?_
  intro kernel
  exact changes_onInvoker (.mapError (kernel.settling_run mask))

/-- The calls that leave touches open, leave those of their arguments open. -/
lemma settling_open {kind : StreamKind} (hopen : call.isExchange = false)
    {m : NotedCall (List Buffer)} (hm : m.Ensures s fun o s' =>
      Settling kind (·.buffer ∈ call.buffers) (ledger s) o.ending (ledger s')) :
    m.Ensures s fun o s' => Settling kind call.LeavesOpen (ledger s) o.ending (ledger s') := by
  refine hm.mono ?_
  intro o s' h
  refine h.settle ?_
  intro t ht
  exact .inl ⟨hopen, ht⟩

/-- A call settles its account, up to what it leaves open. -/
theorem settling_run [TensorLibrary] (hheld : call.Held s.1.1.heap) :
    (call.run (Host.platform devices).noted (SimulatedLink.backend patience).noted).Ensures s
      fun o s' =>
      Settling call.streamKind call.LeavesOpen (ledger s) o.ending (ledger s') := by
  cases call with
  | scatter input shape stages slices direction =>
    refine settling_exchange ?_
    intro e he
    exact Scheduler.settling_scatter (he ▸ hheld input List.mem_cons_self)
  | gather inputs shape stages slices direction =>
    refine settling_returns (settling_exchange ?_)
    intro e he
    exact Scheduler.settling_gather (he ▸ hheld)
  | exchangeAll input =>
    refine settling_returns (settling_exchange ?_)
    intro e he
    exact Scheduler.settling_exchangeAll (he ▸ hheld input List.mem_cons_self)
  | allToAll inputs outputs inSizes outSizes =>
    exact settling_open rfl
      (settling_returns (settling_collective (Communicator.touches_allToAll _ _) s))
  | allGather inputs outputs sizes =>
    exact settling_open rfl
      (settling_returns (settling_collective (Communicator.touches_allGather _) s))
  | broadcast b root =>
    exact settling_open rfl
      (settling_returns (settling_collective (Communicator.touches_broadcast _) s))
  | allReduce b =>
    exact settling_open rfl
      (settling_returns (settling_collective Communicator.touches_allReduce s))
  | allReduceAdd x t => exact settling_open rfl (settling_returns (settling_allReduceAdd x t s))
  | runningLocations mask =>
    exact settling_open rfl (settling_returns (settling_runningLocations mask s))
  | invoke handle device buffers scalars geometry =>
    exact settling_open rfl (settling_returns
      (changes_onInvoker (.mapError (settling_invoke handle device buffers scalars geometry)) s))
  | invokeOn stream handle buffers scalars geometry =>
    exact settling_open rfl (settling_returns
      (changes_onInvoker (.mapError (settling_invokeOn rfl fun _ hb => hb)) s))

/-- A collective leaves the users of all buffers as they are. -/
lemma roll_run [TensorLibrary] (hcollective : call.isCollective = true) :
    (call.run (Host.platform devices).noted (SimulatedLink.backend patience).noted).Spares
      fun s => s.1.1.roll := by
  have hshared : ∀ {bs : List Buffer}
      {m : Act Net (Noted × Communicator SimulatedLink) ExchangeError Unit},
      m.Changes Communicator.commAccount
        (Account.Touches (Communicator.TouchesOn .compute bs)) →
      (Act.bind (onShared m) fun _ => pure [] : NotedCall (List Buffer)).Spares
        fun s => s.1.1.roll := by
    intro bs m hm
    refine .bind ?_ fun _ => .pure []
    intro s
    refine ensures_onShared rfl ?_
    intro comm
    refine (hm (s.1, comm)).mono ?_
    intro o q h
    exact h.1
  cases call with
  | allToAll inputs outputs inSizes outSizes => exact hshared (Communicator.touches_allToAll _ _)
  | allGather inputs outputs sizes => exact hshared (Communicator.touches_allGather _)
  | broadcast b root => exact hshared (Communicator.touches_broadcast _)
  | allReduce b => exact hshared Communicator.touches_allReduce
  | _ => cases hcollective

end Call

def noted (s : HostState × HostContext) (touches : List Touch) : Noted × NotedContext :=
  ((s.1, touches), s.2.withCompilers (s.2.invoker.compilers.map .noted))

/-- With touches noted, the act ends just as without. -/
lemma exists_noted {α : Type} {s s' : HostState × HostContext} {o : Outcome ExchangeError α}
    {m' : NotedCall α} {m : Act Net (HostState × HostContext) ExchangeError α}
    (hm : m'.Mirrors (Twins Unnoted (s.2.invoker.compilers.map .noted) s.2.invoker.compilers) m)
    (hend : (m s).CanEnd (o, s')) : ∃ touches, (m' (noted s [])).CanEnd (o, noted s' touches) := by
  obtain ⟨⟨o', ⟨state, touches⟩, ctx⟩, hend', ho, hstate, hkept, hctx⟩ :=
    (hm (noted s []) s ⟨rfl, rfl, rfl⟩).exists_end hend
  dsimp only at ho hstate hkept hctx
  obtain rfl : state = s'.1 := hstate
  subst ho hctx
  refine ⟨touches, ?_⟩
  have hnoted : noted s' touches =
      ((s'.1, touches), s'.2.withCompilers (s.2.invoker.compilers.map .noted)) := by
    rw [noted, hkept]
  rw [hnoted]
  exact hend'

/-- On the host platform the call can end so, and then has touched these buffers on these streams:
it ends so on the platform with touches noted. -/
def Call.EndsTouching [TensorLibrary] (devices patience : Nat) (call : Call)
    (s : HostState × HostContext) (o : Outcome ExchangeError (List Buffer))
    (s' : HostState × HostContext) (touches : List Touch) : Prop :=
  (call.run (Host.platform devices).noted (SimulatedLink.backend patience).noted
    (noted s [])).CanEnd (o, noted s' touches)

variable {devices patience : Nat} {s s' : HostState × HostContext}

/-- Noting touches takes nothing from what a call can end with. -/
lemma Call.exists_touching [TensorLibrary] {call : Call} {o : Outcome ExchangeError (List Buffer)}
    (hend : (call.run (Host.platform devices) (SimulatedLink.backend patience) s).CanEnd (o, s')) :
    ∃ touches, call.EndsTouching devices patience s o s' touches :=
  exists_noted (call.mirrors_run (Host.platform devices).mirrors_noted
    (SimulatedLink.backend patience).mirrors_noted (Compiler.mirrors_noted _)) hend

/-- The states that a context on the host platform gets to: it is created on a platform that has
careful kernels, by compilers that leave the platform's users alone, and then does chores and takes
calls, whatever they end with. Further kernels may be registered at any time. -/
inductive Reached [TensorLibrary] (devices patience : Nat) : HostState × HostContext → Prop where
  | created {q q' : HostState} {ctx : HostContext} {compilers : List (Compiler Net HostState)}
      {settings : Settings} (hcompilers : ∀ c ∈ compilers, c.Leaves roll)
      (hkernels : ∀ k ∈ q.kernels, k.2.Careful)
      (hend : (create (Host.platform devices) (SimulatedLink.backend patience) compilers settings
        q).CanEnd (.ok ctx, q')) : Reached devices patience (q', ctx)
  | registered {s : HostState × HostContext} (h : Reached devices patience s) (entry : String)
      {kernel : HostKernel} (hkernel : kernel.Careful) :
      Reached devices patience (s.1.register entry kernel, s.2)
  | chore {s s' : HostState × HostContext} {o : Outcome ExchangeError Unit}
      (h : Reached devices patience s) (chore : Chore)
      (hend : (chore.run (Host.platform devices) (SimulatedLink.backend patience) s).CanEnd
        (o, s')) :
      Reached devices patience s'
  | call {s s' : HostState × HostContext} {o : Outcome ExchangeError (List Buffer)}
      (h : Reached devices patience s) (call : Call) (hheld : call.Held s.1.heap)
      (hend : (call.run (Host.platform devices) (SimulatedLink.backend patience) s).CanEnd
        (o, s')) :
      Reached devices patience s'

/-- What is careful does not depend on the touches noted so far. -/
lemma careful_noted {touches : List Touch} (h : (ledger (noted s touches)).Careful) :
    (ledger (noted s [])).Careful :=
  ⟨h.leaves, h.registered, h.loaded⟩

/-- In every reached state the compilers leave the account alone, and all kernels are careful. -/
theorem Reached.careful [TensorLibrary] (h : Reached devices patience s) :
    (ledger (noted s [])).Careful := by
  induction h with
  | @created q q' ctx compilers settings hcompilers hkernels hend =>
    obtain ⟨⟨state, touches⟩, hend', hstate, rfl⟩ : ∃ t',
        (create (Host.platform devices).noted (SimulatedLink.backend patience).noted
          (compilers.map .noted) settings (q, [])).CanEnd
            (.ok (ctx.withCompilers (compilers.map .noted)), t') ∧
          Unnoted t' q' ∧ ctx.invoker.compilers = compilers :=
      exists_create (Host.platform devices).mirrors_noted
        (SimulatedLink.backend patience).mirrors_noted rfl hend
    obtain rfl : state = q' := hstate
    have hleaves : ∀ c ∈ ctx.invoker.compilers.map Compiler.noted, c.Leaves account := by
      intro c hc
      obtain ⟨c, hold, rfl⟩ := List.mem_map.1 hc
      intro source target
      exact spares_account (hcompilers c hold source target)
    exact careful_noted (s := (state, ctx)) (careful_create hleaves hkernels _ _ hend')
  | registered h entry hkernel ih =>
    refine ⟨ih.leaves, ?_, ih.loaded⟩
    intro k hk
    rcases List.mem_cons.1 hk with rfl | hold
    · exact hkernel
    · exact ih.registered k hold
  | chore h chore hend ih =>
    obtain ⟨touches, hend'⟩ := exists_noted (chore.mirrors_run (Host.platform devices).mirrors_noted
      (SimulatedLink.backend patience).mirrors_noted (Compiler.mirrors_noted _)) hend
    exact careful_noted (chore.stays _ _ _ hend' ih)
  | call h call hheld hend ih =>
    obtain ⟨touches, hend'⟩ := call.exists_touching hend
    exact careful_noted ((call.settling_run hheld _ _ hend').stays ih)

/-- The call has touched buffers on streams of one kind. Every such stream uses the buffer now,
unless the call is no exchange, the buffer is one of its arguments, and the stream did not use it
before. A collective leaves the users of all buffers as they were. -/
structure Call.Registers (call : Call) (s s' : HostState × HostContext) (touches : List Touch) :
    Prop where
  touches : ∀ t ∈ touches, t.stream.kind = call.streamKind ∧
    (t.stream ∈ s'.1.heap.usedBy t.buffer ∨
      (call.LeavesOpen t ∧ t.stream ∉ s.1.heap.usedBy t.buffer))
  users : call.isCollective = true → ∀ b, s'.1.heap.usedBy b = s.1.heap.usedBy b

/-- In every reached state, whatever streams its buffers were allocated on, a call that succeeds
leaves every stream that it enqueued on registered with the buffers that its operations on that
stream touch. The exception are buffers that are given to a collective, to a sum or running
locations, or to a launch: with these the compute stream is not registered by the call. -/
theorem run_registers [TensorLibrary] (h : Reached devices patience s) (call : Call)
    (hheld : call.Held s.1.heap) :
    (call.run (Host.platform devices) (SimulatedLink.backend patience)).Gives s fun results s' =>
      (∃ touches, call.EndsTouching devices patience s (.ok results) s' touches) ∧
        ∀ touches, call.EndsTouching devices patience s (.ok results) s' touches →
          call.Registers s s' touches := by
  intro results s' hend
  refine ⟨call.exists_touching hend, ?_⟩
  intro touches hnoted
  obtain ⟨-, hgoes⟩ := call.settling_run hheld _ _ hnoted
  obtain ⟨-, hkeeps, new, hnew, hsettled⟩ := hgoes h.careful.ready
  obtain rfl : touches = new := hnew
  constructor
  · intro t ht
    obtain ⟨hkind, hopen⟩ := hsettled t ht
    refine ⟨hkind, ?_⟩
    simp only [Heap.usedBy_eq]
    by_cases hbefore : t.stream ∈ s.1.roll.usedBy t.buffer
    · exact .inl (hkeeps.2.subset _ hbefore)
    · rcases hopen with hopen | hused
      · exact .inr ⟨hopen, hbefore⟩
      · exact .inl hused
  · intro hcollective b
    have hroll : s'.1.roll = s.1.roll := call.roll_run hcollective _ _ _ hnoted
    rw [Heap.usedBy_eq, Heap.usedBy_eq]
    exact congrArg (·.usedBy b) hroll

/-- A created context has no groups yet. -/
lemma gives_ungrouped {S : Service} {σ F E T : Type} (P : Platform S σ F E) (B : Backend S σ T)
    (compilers : List (Compiler S σ)) (settings : Settings) (s : σ) :
    (create P B compilers settings : Act S σ ExchangeError (Context S σ F E T)).Gives s
      fun ctx _ => ctx.settings = settings ∧ ctx.global = none ∧ ctx.shared = none := by
  intro ctx s' hend
  obtain ⟨⟨o, s₁, i⟩, -, h₂⟩ := Program.canEnd_bind_iff.1 hend
  cases o with
  | ok kernels =>
    cases Program.canEnd_done_iff.1 h₂
    exact ⟨rfl, rfl, rfl⟩
  | error e => cases Program.canEnd_done_iff.1 h₂
  | fault w => cases Program.canEnd_done_iff.1 h₂

/-- Two buffers of two numbers each, allocated on the compute stream and on the other one. -/
def twoOwners : Heap :=
  [⟨.host [0, 0, 0, 0, 0, 0, 0, 0], [⟨0, .compute, 0⟩], 1⟩,
    ⟨.host [0, 0, 0, 0, 0, 0, 0, 0], [⟨0, .comm, 0⟩], 1⟩]

/-- A process alone in its shared group, with two buffers. -/
structure Alone [TensorLibrary] (s : HostState × HostContext) : Prop where
  reached : Reached 1 0 s
  heap : s.1.heap = twoOwners
  shared : s.2.shared = some ⟨⟨[], 1, 0, 0, 0, 0, []⟩, ⟨1, 0, 1, 0⟩⟩

lemma exists_alone [TensorLibrary] : ∃ s, Alone s := by
  obtain ⟨ctx, state, hcreate, hheap, -⟩ := exists_created 0 .none 0 twoOwners Nat.zero_lt_one
  have hend : (create (Host.platform 1) (SimulatedLink.backend 0) [.host] .none
      ⟨twoOwners, Host.ownKernels, [], []⟩).CanEnd (.ok ctx, state) := by
    rw [hcreate]
    exact .done _
  obtain ⟨hsettings, hglobal, hshared⟩ := gives_ungrouped _ _ _ _ _ _ _ hend
  have hcompilers : ∀ c ∈ [(Compiler.host : Compiler Net HostState)], c.Leaves roll := by
    intro c hc source target
    rw [List.mem_singleton.1 hc]
    exact .pure _
  have hcreated := Reached.created hcompilers careful_own hend
  obtain ⟨settings, invoker, add, running, global, shared⟩ := ctx
  dsimp only at hsettings hglobal hshared
  subst hsettings hglobal hshared
  refine ⟨_, hcreated.chore (.init .shared [] 1 0 0) (.ask .joined (.ask true (.done _))), ?_, ?_⟩
  · exact hheap
  · rfl

open StandIn in
/-- A sum over the group of one process on a buffer that the compute stream owns. -/
theorem run_registers_alone :
    ∃ s, Alone s ∧ (Call.allReduce ⟨.f32, [2], 0, 0⟩).Held s.1.heap ∧
      ((Call.allReduce ⟨.f32, [2], 0, 0⟩).run (Host.platform 1) (SimulatedLink.backend 0)).Gives s
        fun results s' =>
          (∃ touches, (Call.allReduce ⟨.f32, [2], 0, 0⟩).EndsTouching 1 0 s (.ok results) s'
            touches) ∧
          ∀ touches, (Call.allReduce ⟨.f32, [2], 0, 0⟩).EndsTouching 1 0 s (.ok results) s'
            touches → (Call.allReduce ⟨.f32, [2], 0, 0⟩).Registers s s' touches := by
  obtain ⟨s, hs⟩ := exists_alone
  have hheld : (Call.allReduce ⟨.f32, [2], 0, 0⟩).Held s.1.heap := by
    intro b hb
    rw [List.mem_singleton.1 hb, hs.heap]
    decide
  exact ⟨s, hs, hheld, run_registers hs.reached _ hheld⟩

open StandIn in
/-- A sum over the group of one process, on a buffer that the communication stream owns, runs on
the compute stream and succeeds, and the buffer is not registered with the compute stream. -/
theorem allReduce_leaves_unregistered :
    ∃ s s', Alone s ∧ (Call.allReduce ⟨.f32, [2], 0, 1⟩).Held s.1.heap ∧
      ((Call.allReduce ⟨.f32, [2], 0, 1⟩).run (Host.platform 1) (SimulatedLink.backend 0)
        s).CanEnd (.ok [], s') ∧
      (Call.allReduce ⟨.f32, [2], 0, 1⟩).EndsTouching 1 0 s (.ok []) s'
        [⟨⟨.f32, [2], 0, 1⟩, ⟨0, .compute, 0⟩⟩] ∧
      s'.1.heap.usedBy ⟨.f32, [2], 0, 1⟩ = [⟨0, .comm, 0⟩] := by
  obtain ⟨⟨⟨heap, kernels, trace, log⟩, settings, invoker, add, running, global, shared⟩, hs⟩ :=
    exists_alone
  have hheap := hs.heap
  have hshared := hs.shared
  dsimp only at hheap hshared
  subst hheap hshared
  refine ⟨_, _, hs, ?_, .done _, .done _, rfl⟩
  intro b hb
  rw [List.mem_singleton.1 hb]
  exact Nat.one_lt_two

end Context

end ExpertExchange
