import ExpertExchange.Operator.Add
import ExpertExchange.Operator.RunningLocation
import ExpertExchange.Proofs.Host.Account

/-!
# What operators touch

An operator allocates its result on the compute stream and launches a kernel on that stream. The
stream uses the result, since it owns it; with the operands the stream is not registered.
-/

namespace ExpertExchange

open Host HostState

variable {devices : Nat} {kind : StreamKind} {stream : Stream} {A : Touch → Prop}

abbrev NotedOperator (α : Type) : Type :=
  Act Net (Noted × Invoker Net Noted HostFunction) OperatorError α

/-- After a look at the platform or at the operands. -/
lemma settling_looked {α β : Type} {m : NotedOperator α}
    {f : α → NotedOperator β} (hm : m.Looks)
    (hf : ∀ a, (f a).Changes workshopOf (Settling kind A)) :
    (m.bind f).Changes workshopOf (Settling kind A) :=
  .bind chains_settling (hm.spares.changes settling_self) hf

/-- After a look for the compute stream of a device. -/
lemma settling_onCompute {device : Nat} {f : Stream → NotedOperator Buffer}
    (hf : ∀ stream, stream.kind = .compute →
      (f stream).Changes workshopOf (Settling .compute A)) :
    (Act.bind (Operator.onPlatform ((Host.platform devices).noted.stream device .compute))
      f).Changes workshopOf (Settling .compute A) := by
  have hlooks : (Operator.onPlatform ((Host.platform devices).noted.stream device .compute) :
      NotedOperator Stream).Looks :=
    .within (.mapError (looks_stream device .compute)) fun _ => rfl
  intro q
  refine hlooks.before settling_self ?_
  intro stream hend
  have hgives : (Operator.onPlatform ((Host.platform devices).noted.stream device .compute) :
      NotedOperator Stream).Gives q fun stream _ => stream.kind = .compute :=
    .within (.mapError (gives_kind device .compute q.1))
  exact hf stream (hgives stream q hend) q

/-- A buffer that is allocated on a stream needs no registration with that stream. -/
lemma settling_fresh {dtype : Dtype} {shape : List Nat} {f : Buffer → NotedOperator Buffer}
    (hf : ∀ out, (f out).Changes workshopOf (Settling kind fun t => A t ∨ t = ⟨out, stream⟩)) :
    (Act.bind (Operator.onPlatform ((Host.platform devices).noted.alloc dtype shape stream))
      f).Changes workshopOf (Settling kind A) := by
  intro q
  have halloc : (Operator.onPlatform ((Host.platform devices).noted.alloc dtype shape stream) :
      NotedOperator Buffer).Changes workshopOf (Settling kind A) :=
    settling_within (.mapError (settles_within (keeps_alloc dtype shape stream)))
  have howned : (Operator.onPlatform ((Host.platform devices).noted.alloc dtype shape stream) :
      NotedOperator Buffer).Gives q fun out q' => stream ∈ q'.1.1.roll.usedBy out :=
    .within (.mapError (.within (gives_alloc dtype shape stream q.1.1)))
  refine halloc.afterGives chains_settling howned ?_
  intro out q₁ h₁
  refine (hf out q₁).mono ?_
  intro o q₂ h₂
  refine h₂.settle ?_
  rintro t (hA | rfl)
  · exact .inl hA
  · exact .inr h₁

/-- The launch of a kernel that fills a fresh buffer. -/
lemma settling_launchInto {out : Buffer} {buffers : List Buffer} {scalars : List Scalar}
    {handle : KernelHandle} {geometry : GeometryOverride} (hkind : stream.kind = kind)
    (hA : ∀ b ∈ buffers, A ⟨b, stream⟩) :
    (Act.bind (((Invoker.invokeOn (Host.platform devices).noted stream handle buffers scalars
        geometry).mapError .kernel).orElseClean
      (Operator.onPlatform ((Host.platform devices : Platform Net _ _ HostEvent).noted.release
        out))) fun _ => (pure out : NotedOperator Buffer)).Changes workshopOf
      (Settling kind A) := by
  have hrelease : (Operator.onPlatform ((Host.platform devices :
      Platform Net _ _ HostEvent).noted.release out) : NotedOperator Unit).Spares workshopOf :=
    Regime.Governs.spares_within (K := settling kind A) (.mapError (spares_account (.pure ())))
  refine .bind chains_settling (.orElseClean (.mapError ?_) hrelease) ?_
  · exact settling_invokeOn hkind hA
  · intro _
    exact .pure chains_settling out

/-- A sum touches its operands and its result on the compute stream. -/
theorem AddKernels.settling_add (k : AddKernels) (x y : Buffer) :
    (k.add (Host.platform devices).noted x y).Changes workshopOf
      (Settling .compute (·.buffer ∈ [x, y])) := by
  refine settling_looked (.ensure _ _) ?_
  intro _
  refine settling_looked (.ensure _ _) ?_
  intro _
  cases k.handle? x.dtype with
  | none => exact (Act.Spares.fail _).changes settling_self
  | some handle =>
    refine settling_onCompute ?_
    intro stream hkind
    refine settling_fresh ?_
    intro out
    refine settling_looked (.ofOutcome _) ?_
    intro n
    by_cases hn : n = 0
    · rw [if_pos hn]
      exact .pure chains_settling out
    · rw [if_neg hn]
      refine settling_launchInto hkind ?_
      intro b hb
      simp only [List.mem_cons, List.not_mem_nil, or_false] at hb ⊢
      rcases hb with rfl | rfl | rfl <;> simp

/-- Running locations touch the mask and the result on the compute stream. -/
theorem RunningLocationKernel.settling_run (k : RunningLocationKernel) (mask : Buffer) :
    (k.run (Host.platform devices).noted mask).Changes workshopOf
      (Settling .compute (·.buffer ∈ [mask])) := by
  refine settling_looked (.ensure _ _) ?_
  intro _
  rcases mask.shape with _ | ⟨samples, _ | ⟨batch, _ | ⟨more, rest⟩⟩⟩
  · exact (Act.Spares.fail _).changes settling_self
  · exact (Act.Spares.fail _).changes settling_self
  · refine settling_looked (.ensure _ _) ?_
    intro _
    refine settling_onCompute ?_
    intro stream hkind
    refine settling_fresh ?_
    intro out
    by_cases hempty : samples = 0 ∨ batch = 0
    · rw [if_pos hempty]
      exact .pure chains_settling out
    · rw [if_neg hempty]
      refine settling_launchInto hkind ?_
      intro b hb
      simp only [List.mem_cons, List.not_mem_nil, or_false] at hb ⊢
      rcases hb with rfl | rfl <;> simp
  · exact (Act.Spares.fail _).changes settling_self

end ExpertExchange
