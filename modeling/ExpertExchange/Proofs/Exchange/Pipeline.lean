import ExpertExchange.Proofs.Exchange.Choreography
import ExpertExchange.Proofs.Host.CycleOrder
import ExpertExchange.StandIn.Tensors

/-!
# Split pipelines

A pipeline is a sequence of cycles of any widths and directions: a fused buffer is handed over,
scattered, worked on stage by stage, gathered and taken over again. The order of streams and events
keeps all of its work and transfers apart that must not run at the same time, and no slot is used
out of turn.
-/

namespace ExpertExchange

namespace Scheduler

open HostState

variable {devices : Nat} {out : Nat → Prop} {j : Journal} {e : HostEngine}

structure Launch where
  handle : KernelHandle
  device : Nat
  buffers : List Buffer
  scalars : List Scalar
  geometry : GeometryOverride

/-- The launch, by a caller that goes on whatever it ends with. -/
def Launch.run (devices : Nat) (l : Launch) : Act Net HostEngine ExchangeError Unit := do
  let _ ← ((Invoker.invoke (Host.platform devices) l.handle l.device l.buffers l.scalars
    l.geometry).attempt).within invokerPart
  pure ()

/-- One cycle of a pipeline, by a caller that visits each stage once. -/
structure Cycle where
  fused : Buffer
  stages : Nat
  /-- Launches before the fused buffer is handed over. -/
  before : List Launch
  stageShape : List Nat
  slices : Nat
  scatterDirection : Direction
  /-- The stages in the order in which they are worked on. -/
  visits : List Nat
  visits_perm : visits.Perm (List.range stages)
  /-- Launches for a stage, given its buffer. -/
  work : Nat → Buffer → List Launch
  shape : List Nat
  gatherSlices : Nat
  gatherDirection : Direction
  /-- Launches after the result is taken over, given the result. -/
  after : Buffer → List Launch

namespace Cycle

def moment : Act Net HostEngine ExchangeError Nat := Act.view (·.1.trace.length)

/-- Take a stage over, work on it and hand it over again. -/
def visit (devices : Nat) (c : Cycle) (parts : List Buffer) (s : Nat) :
    Act Net HostEngine ExchangeError Trace.Visit := do
  let part ← Act.ofOutcome (Outcome.orFault parts[s]?)
  let part ← onSlots (Slots.acquireOn (Host.platform devices) .compute part s)
  let acquired ← moment
  Act.forEach (c.work s part) (Launch.run devices)
  let released ← moment
  let _ ← onSlots (Slots.releaseOn (Host.platform devices) .compute part s)
  pure ⟨s, acquired, released⟩

/-- Visit some stages, one after the other. -/
def visitAll (devices : Nat) (c : Cycle) (parts : List Buffer) :
    List Nat → Act Net HostEngine ExchangeError (List Trace.Visit)
  | [] => pure []
  | s :: rest => do
    let v ← c.visit devices parts s
    let vs ← visitAll devices c parts rest
    pure (v :: vs)

/-- Run the cycle, and return the result and what can be seen of the trace. -/
def run [TensorLibrary] (devices : Nat) (c : Cycle) :
    Act Net HostEngine ExchangeError (Buffer × Trace.Moments) := do
  let P : Platform Net HostState HostFunction HostEvent := Host.platform devices
  Act.forEach c.before (Launch.run devices)
  let released ← moment
  let fused ← onSlots (Slots.releaseOn P .compute c.fused 0)
  let scatterStart ← moment
  let parts ← scatter P SimulatedLink.transport fused c.stageShape c.stages c.slices
    c.scatterDirection
  let scatterStop ← moment
  let visits ← c.visitAll devices parts c.visits
  let gatherStart ← moment
  let result ← gather P SimulatedLink.transport parts c.shape c.stages c.gatherSlices
    c.gatherDirection
  let gatherStop ← moment
  let result ← onSlots (Slots.acquireOn P .compute result 0)
  let taken ← moment
  Act.forEach (c.after result) (Launch.run devices)
  pure (result, {
    released := released
    scatter := ⟨c.scatterDirection.stageOrder c.stages, scatterStart, scatterStop⟩
    visits := visits
    gather := ⟨c.gatherDirection.stageOrder c.stages, gatherStart, gatherStop⟩
    taken := taken })

end Cycle

/-- A sequence of cycles; the next one may depend on the result. -/
inductive Pipeline where
  | done
  | cycle (c : Cycle) (next : Buffer → Pipeline)

def Pipeline.run [TensorLibrary] (devices : Nat) :
    Pipeline → Act Net HostEngine ExchangeError (List (Cycle × Trace.Moments))
  | .done => pure []
  | .cycle c next => do
    let (result, m) ← c.run devices
    let rest ← run devices (next result)
    pure ((c, m) :: rest)

/-- A launch leaves the slots alone. -/
lemma Stands.launch (h : Stands out j e) (l : Launch) :
    (l.run devices).Gives e fun _ e' => ∃ work : Trace, (∀ x ∈ work, x.IsKernel) ∧
      Stands out (j.write work) e' := by
  have hlaunch : (((Invoker.invoke (Host.platform devices) l.handle l.device l.buffers l.scalars
      l.geometry).attempt : Act Net _ ExchangeError _).within invokerPart).Gives e fun _ e' =>
        ∃ work : Trace, (∀ x ∈ work, x.IsKernel) ∧ Stands out (j.write work) e' := by
    refine .within (Act.Ensures.gives (Act.Ensures.attempt ?_))
    refine (Invoker.works_invoke _ _ _ _ _ (invokerPart.get e)).mono ?_
    rintro o q ⟨hcompilers, hadds⟩ _ ⟨⟩
    obtain ⟨work, hwork, hjournal⟩ := hadds h.quiet
    refine ⟨work, hwork, ?_, h.pool, ?_⟩
    · rw [← h.journal]
      exact hjournal
    · have hkept : q.2.compilers = e.2.1.compilers := hcompilers
      exact hkept ▸ h.quiet
  refine .bind hlaunch ?_
  intro _ e₁ h₁
  exact .of_done rfl h₁

lemma Stands.launches (h : Stands out j e) (ls : List Launch) :
    (Act.forEach ls (Launch.run devices)).Gives e fun _ e' => ∃ work : Trace,
      (∀ x ∈ work, x.IsKernel) ∧ Stands out (j.write work) e' := by
  induction ls generalizing j e with
  | nil =>
    refine .of_done rfl ⟨[], nofun, ?_⟩
    rw [Journal.write_nil]
    exact h
  | cons l ls ih =>
    refine .bind (h.launch l) ?_
    rintro _ e₁ ⟨first, hfirst, h₁⟩
    refine (ih h₁).mono ?_
    rintro _ e₂ ⟨rest, hrest, h₂⟩
    rw [Journal.write_write] at h₂
    refine ⟨first ++ rest, ?_, h₂⟩
    intro x hx
    rcases List.mem_append.1 hx with hx | hx
    · exact hfirst x hx
    · exact hrest x hx

/-- The compute stream takes over a buffer. -/
lemma Stands.take {b : Buffer} {slot : Nat} (h : Stands out j e) (hreleased : out slot) :
    (onSlots (Slots.acquireOn (Host.platform devices) .compute b slot)).Gives e fun _ e' =>
      Stands (fun k => k ≠ slot ∧ out k) (j.write (Trace.taking slot)) e' :=
  h.slots (Slots.gives_acquireOn h.pool hreleased)

namespace Cycle

variable {c : Cycle} {parts : List Buffer}

/-- What is seen of a run belongs to the cycle. -/
structure Marks (c : Cycle) (m : Trace.Moments) : Prop where
  scatter : m.scatter.order = c.scatterDirection.stageOrder c.stages
  visits : m.visits.map (·.stage) = c.visits
  gather : m.gather.order = c.gatherDirection.stageOrder c.stages

end Cycle

lemma Cycle.visits_nodup (c : Cycle) : c.visits.Nodup :=
  c.visits_perm.nodup_iff.2 List.nodup_range

/-- What a cycle leaves in the trace is ordered, however the trace goes on. -/
lemma Cycle.Marks.ordered {c : Cycle} {m : Trace.Moments} {t t' : Trace} (h : c.Marks m)
    (hleads : m.Leads t t') (d : Nat) (u : Trace) : m.Ordered d (t' ++ u) := by
  refine hleads.ordered ?_ ?_ d u
  · rw [h.scatter]
    exact c.scatterDirection.nodup_stageOrder
  · rw [h.visits]
    exact c.visits_nodup

/-- All slots are idle, and the compilers leave the journal alone. -/
structure Ready (e : HostEngine) : Prop where
  pool : Slots.Pool (fun _ => False) e.2.2.slots
  quiet : ∀ c ∈ e.2.1.compilers, c.Quiet

lemma Ready.stands (h : Ready e) : Stands (fun _ => False) e.1.journal e := ⟨rfl, h.pool, h.quiet⟩

/-- A new scheduler is ready. -/
theorem gives_create [TensorLibrary] {settings : Settings} {comm : Communicator SimulatedLink}
    {q : HostState × Invoker Net HostState HostFunction} (h : ∀ c ∈ q.2.compilers, c.Quiet) :
    (create (Host.platform devices) SimulatedLink.transport settings comm).Gives q fun s q' =>
      Ready (q'.1, (q'.2, s)) := by
  have hslots (count : Nat) : ((Slots.create (Host.platform devices : Platform Net _ _ _)
      (SimulatedLink.transport.device comm.link) count).within Part.first).Gives q fun p q₁ =>
        Slots.Pool (fun _ => False) p ∧ q₁.2 = q.2 :=
    .within ((Slots.gives_create _ count).mono fun _ _ hp => ⟨hp, rfl⟩)
  refine .orElseClean (.bind (hslots _) ?_)
  rintro p q₁ ⟨hp, hkept⟩
  have hinstall : (RegroupKernels.install (Host.platform devices : Platform Net _ _ _)
      (SimulatedLink.transport.device comm.link)).Gives q₁ fun _ q₂ =>
        q₂.2.compilers = q₁.2.compilers := (RegroupKernels.spares_install _).gives q₁
  refine .bind (.orElseClean (.mapError hinstall)) ?_
  intro regroup q₂ hkept'
  have hlog (r : LogRecord) : ((Act.modify ((Host.platform devices : Platform Net _ _ _).record r) :
      Act Net HostState ExchangeError Unit).within Part.first).Gives q₂ fun _ q₃ =>
        q₃.2 = q₂.2 := .of_done rfl rfl
  refine .bind (hlog _) ?_
  intro _ q₃ hkept''
  refine .of_done rfl ⟨hp, ?_⟩
  intro c hc
  have hcompilers : q₃.2.compilers = q.2.compilers := by
    rw [hkept'', hkept', hkept]
  exact h c (hcompilers ▸ hc)

def touch (b : Buffer) : Launch := ⟨⟨0⟩, 0, [b], [], ⟨none, none⟩⟩

end Scheduler

end ExpertExchange
