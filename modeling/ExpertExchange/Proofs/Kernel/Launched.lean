import ExpertExchange.Proofs.Host.Journal
import ExpertExchange.Proofs.Kernel.Sound

/-!
# Launches in the journal

A launch of a registered kernel on the host platform writes into the journal that kernels are loaded
and launched, and nothing else, however it ends. It relies on the compilers to leave the journal
alone.
-/

namespace ExpertExchange

variable {S : Service}

/-- The compiler leaves the journal alone. -/
def Compiler.Quiet (c : Compiler S HostState) : Prop :=
  ∀ source target, (c.compile source target).Spares HostState.journal

namespace Host

open HostState

variable {devices : Nat}

lemma adds_note {ε : Type} {e : TraceEvent} (he : e.IsKernel) :
    (note e : Act S HostState ε Unit).Changes journal (Journal.Adds (·.IsKernel)) := by
  intro s
  refine .of_done rfl ⟨[e], ?_, journal_note s e⟩
  intro x hx
  rw [List.mem_singleton.1 hx]
  exact he

lemma adds_load (device : Nat) (image : Image) (entry : String) :
    (load devices device image entry : Act S HostState DeviceError HostFunction).Changes journal
      (Journal.Adds (·.IsKernel)) := by
  have hself := Journal.adds_self TraceEvent.IsKernel
  have hchains := Journal.chains_adds TraceEvent.IsKernel
  refine Journal.adds_after (.ensure _ _) ?_
  intro _
  cases image with
  | host exported =>
    refine Journal.adds_after (.ensure _ _) ?_
    intro _
    refine Journal.adds_after (.view _) ?_
    intro s
    cases s.kernel? entry with
    | none => exact (Act.Spares.fail _).changes hself
    | some kernel =>
      refine .bind hchains (adds_note trivial) ?_
      intro _
      exact .pure hchains _
  | ptx text => exact (Act.Spares.fail _).changes hself
  | binary content => exact (Act.Spares.fail _).changes hself

lemma adds_launch (f : HostFunction) (geometry : Geometry) (args : List Argument)
    (stream : Stream) :
    (launch f geometry args stream : Act S HostState DeviceError Unit).Changes journal
      (Journal.Adds (·.IsKernel)) := by
  refine Journal.adds_after (spares_checkArguments args) ?_
  intro _
  refine .bind (Journal.chains_adds _) (adds_note trivial) ?_
  intro _
  exact (Act.Spares.within _ fun _ _ => rfl).changes (Journal.adds_self _)

end Host

/-- Calls write into the journal that kernels are loaded and launched; any kernel is sound. -/
def Host.journaling : Regime HostState HostFunction Journal where
  watch := HostState.journal
  Allows := Journal.Adds (·.IsKernel)
  InOrder _ := True
  Sound _ := True

lemma Host.journaling_governs (devices : Nat) :
    Host.journaling.Governs (Host.platform devices : Platform S _ _ HostEvent) where
  chains := Journal.chains_adds _
  self := Journal.adds_self _
  inOrder _ _ := trivial
  arch _ := .bind (.ensure _ _) fun _ => .pure _
  stream _ _ := .bind (.ensure _ _) fun _ => .pure _
  record _ s hplain := HostState.journal_report s (decide_eq_false hplain)
  load device image entry _ s := by
    refine (Host.adds_load device image entry s).mono ?_
    intro o s' hadds
    exact ⟨hadds, fun _ _ _ => trivial⟩

namespace Invoker

open HostState

variable {devices : Nat}

/-- What is watched of the platform and an invoker: the journal and the compilers. -/
def desk (q : HostState × Invoker S HostState HostFunction) :
    Journal × List (Compiler S HostState) := (q.1.journal, q.2.compilers)

def compilersOf (q : HostState × Invoker S HostState HostFunction) : List (Compiler S HostState) :=
  q.2.compilers

/-- The compilers stay, and if they are quiet, kernels are loaded and launched and nothing else
happens. -/
def Works (d : Journal × List (Compiler S HostState)) (ending : Ending)
    (d' : Journal × List (Compiler S HostState)) : Prop :=
  d'.2 = d.2 ∧ ((∀ c ∈ d.2, c.Quiet) → d.1.Adds (·.IsKernel) ending d'.1)

/-- A launch on the compute stream of a device. -/
theorem works_invoke (handle : KernelHandle) (device : Nat) (buffers : List Buffer)
    (scalars : List Scalar) (geometry : GeometryOverride) :
    (invoke (Host.platform devices : Platform S _ _ _) handle device buffers scalars
      geometry).Changes desk Works := by
  have hstream : ∀ s, ((Host.platform devices : Platform S _ _ HostEvent).stream device
      .compute).Gives s fun _ _ => True := fun _ _ _ _ => trivial
  intro q
  refine ((Host.journaling_governs devices).works_invoke handle device geometry hstream
    (fun f resolved stream _ _ => Host.adds_launch f resolved _ stream) q).mono ?_
  rintro o q' ⟨hcompilers, hgoes⟩
  refine ⟨hcompilers, ?_⟩
  intro hquiet
  obtain ⟨-, hadds⟩ := hgoes ⟨hquiet, trivial, fun _ _ _ _ => trivial⟩
  exact hadds

end Invoker

/-- Registering the regrouping kernels keeps the compilers. -/
lemma RegroupKernels.spares_install {devices : Nat} (device : Nat) :
    (install (Host.platform devices : Platform S _ _ _) device).Spares Invoker.compilersOf := by
  intro q
  refine ((Host.journaling_governs devices).works_regroup device (fun _ => .pure _) q).mono ?_
  intro o q' h
  exact h.1

end ExpertExchange
