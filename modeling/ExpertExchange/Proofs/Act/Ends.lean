import ExpertExchange.Act
import Mathlib.Tactic.Lemma

/-!
# What an act can end with

`Program.CanEnd` says that some answers of the service lead a program to a value. `Act.Ensures`
says that an act ends only in outcomes and states with a given property, whatever the answers;
there is one rule for each way of putting acts together. `Act.Gives` speaks of successful ends
only, so that it needs no word on errors and faults.
-/

namespace ExpertExchange

namespace Program

variable {S : Service} {α β : Type}

/-- Some answers lead the program to this value. -/
inductive CanEnd : Program S α → α → Prop where
  | done (a : α) : CanEnd (.done a) a
  | ask {r : S.Request} {next : S.Answer r → Program S α} {a : α} (x : S.Answer r)
      (h : CanEnd (next x) a) : CanEnd (.ask r next) a

lemma canEnd_done_iff {a b : α} : (done a : Program S α).CanEnd b ↔ b = a := by
  constructor
  · intro h
    cases h
    rfl
  · rintro rfl
    exact .done b

lemma canEnd_bind_iff {p : Program S α} {f : α → Program S β} {b : β} :
    (p.bind f).CanEnd b ↔ ∃ a, p.CanEnd a ∧ (f a).CanEnd b := by
  induction p with
  | done a =>
    constructor
    · intro h
      exact ⟨a, .done a, h⟩
    · rintro ⟨a', ha, hb⟩
      rw [canEnd_done_iff] at ha
      exact ha ▸ hb
  | ask r next ih =>
    constructor
    · intro h
      cases h with
      | ask x h =>
        obtain ⟨a, ha, hb⟩ := (ih x).1 h
        exact ⟨a, .ask x ha, hb⟩
    · rintro ⟨a, ha, hb⟩
      cases ha with
      | ask x ha => exact .ask x ((ih x).2 ⟨a, ha, hb⟩)

/-- A program without a service is done. -/
lemma eq_done_value (p : Program Silence α) : p = .done p.value := by
  cases p with
  | done a => rfl
  | ask r next => exact nomatch r

lemma canEnd_value (p : Program Silence α) : p.CanEnd p.value := by
  cases p with
  | done a => exact canEnd_done_iff.2 rfl
  | ask r next => exact nomatch r

lemma eq_done_of_value {p : Program Silence α} {a : α} (h : p.value = a) : p = .done a :=
  h ▸ eq_done_value p

end Program

namespace Outcome

variable {ε ε' α β : Type}

/-- A call in two steps succeeds when both do. -/
lemma bind_eq_ok_iff {o : Outcome ε α} {f : α → Outcome ε β} {b : β} :
    o.bind f = .ok b ↔ ∃ a, o = .ok a ∧ f a = .ok b := by
  cases o with
  | ok a => simp [Outcome.bind]
  | error e => simp [Outcome.bind]
  | fault w => simp [Outcome.bind]

lemma ensure_eq_ok {c : Prop} [Decidable c] {e : ε} {u : Unit}
    (h : Outcome.ensure c e = .ok u) : c := by
  unfold Outcome.ensure at h
  by_cases hc : c
  · exact hc
  · rw [if_neg hc] at h
    cases h

lemma orFault_eq_ok {o : Option α} {a : α} (h : (orFault o : Outcome ε α) = .ok a) :
    o = some a := by
  cases o with
  | none => cases h
  | some a' =>
    cases h
    rfl

end Outcome

namespace Act

variable {S : Service} {σ τ ε ε' α β : Type}

section Steps

variable {m : Act S σ ε α} {f : α → Act S σ ε β} {s s' : σ} {a : α} {e : ε}
  {w : Option String}

lemma bind_done (h : m s = .done (.ok a, s')) : m.bind f s = f a s' := by
  rw [Act.bind, h, Program.bind]

/-- An error ends a row of acts. -/
lemma bind_error (h : m s = .done (.error e, s')) : m.bind f s = .done (.error e, s') := by
  rw [Act.bind, h, Program.bind]

/-- A fault ends a row of acts. -/
lemma bind_fault (h : m s = .done (.fault w, s')) : m.bind f s = .done (.fault w, s') := by
  rw [Act.bind, h, Program.bind]

lemma outcome_done {o : Outcome ε α} (h : o = .ok a) (s : σ) :
    (Program.done (o, s) : Program S (Outcome ε α × σ)) = .done (.ok a, s) := by
  rw [h]

lemma ensure_done {p : Prop} [Decidable p] (h : p) (e : ε) (s : σ) :
    (Act.ensure p e : Act S σ ε Unit) s = .done (.ok (), s) := by
  rw [Act.ensure, if_pos h]
  rfl

lemma ensure_error {p : Prop} [Decidable p] (h : ¬ p) (e : ε) (s : σ) :
    (Act.ensure p e : Act S σ ε Unit) s = .done (.error e, s) := by
  rw [Act.ensure, if_neg h]
  rfl

lemma mapError_done {o : Outcome ε α} {g : ε → ε'} (h : m s = .done (o, s')) :
    m.mapError g s = .done (o.mapError g, s') := by
  rw [Act.mapError, h, Program.bind]

lemma within_done {p : Part τ σ} {t : τ} {o : Outcome ε α} (h : m (p.get t) = .done (o, s)) :
    m.within p t = .done (o, p.put t s) := by
  rw [Act.within, h, Program.bind]

/-- After success there is nothing to clean up. -/
lemma orElseClean_done (h : m s = .done (.ok a, s')) (cleanup : Act S σ ε Unit) :
    m.orElseClean cleanup s = .done (.ok a, s') := by
  rw [Act.orElseClean, h, Program.bind]

/-- Checks that all pass. -/
lemma forEach_done {xs : List α} {f : α → Act S σ ε Unit}
    (h : ∀ x ∈ xs, f x s = .done (.ok (), s)) : Act.forEach xs f s = .done (.ok (), s) := by
  induction xs with
  | nil => rfl
  | cons x xs ih =>
    refine (bind_done (h x List.mem_cons_self)).trans (ih fun y hy => ?_)
    exact h y (List.mem_cons_of_mem x hy)

end Steps

/-- From the state `s` the act ends only in outcomes and states with the property `Q`. -/
def Ensures (m : Act S σ ε α) (s : σ) (Q : Outcome ε α → σ → Prop) : Prop :=
  ∀ o s', (m s).CanEnd (o, s') → Q o s'

variable {m : Act S σ ε α} {f : α → Act S σ ε β} {s s' : σ} {o : Outcome ε α}
  {Q Q' : Outcome ε α → σ → Prop} {R : Outcome ε β → σ → Prop}

lemma Ensures.of_done (h : m s = .done (o, s')) (hQ : Q o s') : m.Ensures s Q := by
  intro o' s'' hend
  rw [h, Program.canEnd_done_iff] at hend
  cases hend
  exact hQ

lemma Ensures.mono (h : m.Ensures s Q) (hQ : ∀ o s', Q o s' → Q' o s') : m.Ensures s Q' :=
  fun o s' hend => hQ o s' (h o s' hend)

lemma Ensures.bind (h : m.Ensures s Q) (ok : ∀ a s', Q (.ok a) s' → (f a).Ensures s' R)
    (error : ∀ e s', Q (.error e) s' → R (.error e) s')
    (fault : ∀ w s', Q (.fault w) s' → R (.fault w) s') : (m.bind f).Ensures s R := by
  intro o s' hend
  obtain ⟨⟨o₁, s₁⟩, h₁, h₂⟩ := Program.canEnd_bind_iff.1 hend
  have hQ := h o₁ s₁ h₁
  cases o₁ with
  | ok a => exact ok a s₁ hQ o s' h₂
  | error e =>
    cases Program.canEnd_done_iff.1 h₂
    exact error e _ hQ
  | fault w =>
    cases Program.canEnd_done_iff.1 h₂
    exact fault w _ hQ

/-- After a look at the state, with what was seen of it. -/
lemma Ensures.viewing {g : σ → α} (h : (f (g s)).Ensures s R) : ((Act.view g).bind f).Ensures s R :=
  h

lemma Ensures.mapError {f : ε → ε'} {Q : Outcome ε' α → σ → Prop}
    (h : m.Ensures s fun o s' => Q (o.mapError f) s') : (m.mapError f).Ensures s Q := by
  intro o s' hend
  obtain ⟨⟨o₁, s₁⟩, h₁, h₂⟩ := Program.canEnd_bind_iff.1 hend
  cases Program.canEnd_done_iff.1 h₂
  exact h _ _ h₁

lemma Ensures.within {p : Part τ σ} {t : τ} {Q : Outcome ε α → τ → Prop}
    (h : m.Ensures (p.get t) fun o s' => Q o (p.put t s')) : (m.within p).Ensures t Q := by
  intro o t' hend
  obtain ⟨⟨o₁, s₁⟩, h₁, h₂⟩ := Program.canEnd_bind_iff.1 hend
  cases Program.canEnd_done_iff.1 h₂
  exact h _ _ h₁

lemma Ensures.attempt {Q : Outcome ε' (Outcome ε α) → σ → Prop}
    (h : m.Ensures s fun o s' => Q (.ok o) s') :
    (m.attempt : Act S σ ε' (Outcome ε α)).Ensures s Q := by
  intro o s' hend
  obtain ⟨⟨o₁, s₁⟩, h₁, h₂⟩ := Program.canEnd_bind_iff.1 hend
  cases Program.canEnd_done_iff.1 h₂
  exact h _ _ h₁

/-- What is said of the act itself is kept by the cleanup, whatever that ends with. -/
lemma Ensures.orElseClean {cleanup : Act S σ ε Unit} (h : m.Ensures s Q)
    (hclean : ∀ o s', Q o s' → cleanup.Ensures s' fun _ => Q o) :
    (m.orElseClean cleanup).Ensures s Q := by
  intro o s' hend
  obtain ⟨⟨o₁, s₁⟩, h₁, h₂⟩ := Program.canEnd_bind_iff.1 hend
  have hQ := h o₁ s₁ h₁
  cases o₁ with
  | ok a =>
    cases Program.canEnd_done_iff.1 h₂
    exact hQ
  | error e =>
    obtain ⟨⟨o₂, s₂⟩, hc, h₃⟩ := Program.canEnd_bind_iff.1 h₂
    have hkept := hclean _ _ hQ o₂ s₂ hc
    cases Program.canEnd_done_iff.1 h₃
    exact hkept
  | fault w =>
    obtain ⟨⟨o₂, s₂⟩, hc, h₃⟩ := Program.canEnd_bind_iff.1 h₂
    have hkept := hclean _ _ hQ o₂ s₂ hc
    cases Program.canEnd_done_iff.1 h₃
    exact hkept

lemma Ensures.andFinally {cleanup : Act S σ ε Unit} (h : m.Ensures s Q)
    (hclean : ∀ o s', Q o s' → cleanup.Ensures s' fun _ => Q' o) :
    (m.andFinally cleanup).Ensures s Q' := by
  intro o s' hend
  obtain ⟨⟨o₁, s₁⟩, h₁, h₂⟩ := Program.canEnd_bind_iff.1 hend
  obtain ⟨⟨o₂, s₂⟩, hc, h₃⟩ := Program.canEnd_bind_iff.1 h₂
  have hkept := hclean _ _ (h o₁ s₁ h₁) o₂ s₂ hc
  cases Program.canEnd_done_iff.1 h₃
  exact hkept

/-- From the state `s` the act succeeds only with values and states with the property `Q`. -/
def Gives (m : Act S σ ε α) (s : σ) (Q : α → σ → Prop) : Prop :=
  ∀ a s', (m s).CanEnd (.ok a, s') → Q a s'

variable {a : α} {G G' : α → σ → Prop} {H : β → σ → Prop}

lemma Gives.of_done (h : m s = .done (.ok a, s')) (hG : G a s') : m.Gives s G := by
  intro a' s'' hend
  rw [h, Program.canEnd_done_iff] at hend
  cases hend
  exact hG

lemma Gives.ofOutcome (h : ∀ a, o = .ok a → G a s) :
    (Act.ofOutcome o : Act S σ ε α).Gives s G := by
  intro a s' hend
  cases Program.canEnd_done_iff.1 hend
  exact h a rfl

/-- What fails gives nothing. -/
lemma Gives.of_failed (h : m s = .done (o, s')) (ho : ∀ a, o ≠ .ok a) : m.Gives s G := by
  intro a s'' hend
  rw [h, Program.canEnd_done_iff] at hend
  cases hend
  exact absurd rfl (ho a)

/-- What is ensured holds, and nothing is changed. -/
lemma Gives.ensure (p : Prop) [Decidable p] (e : ε) :
    (Act.ensure p e : Act S σ ε Unit).Gives s fun _ s' => p ∧ s = s' := by
  intro a s' hend
  unfold Act.ensure at hend
  by_cases hp : p
  · rw [if_pos hp] at hend
    cases Program.canEnd_done_iff.1 hend
    exact ⟨hp, rfl⟩
  · rw [if_neg hp] at hend
    cases Program.canEnd_done_iff.1 hend

lemma Gives.mono (h : m.Gives s G) (hG : ∀ a s', G a s' → G' a s') : m.Gives s G' :=
  fun a s' hend => hG a s' (h a s' hend)

lemma Gives.and (h : m.Gives s G) (h' : m.Gives s G') : m.Gives s fun a s' => G a s' ∧ G' a s' :=
  fun a s' hend => ⟨h a s' hend, h' a s' hend⟩

lemma Ensures.gives (h : m.Ensures s fun o s' => ∀ a, o = .ok a → G a s') : m.Gives s G :=
  fun a s' hend => h (.ok a) s' hend a rfl

lemma Gives.bind (h : m.Gives s G) (hf : ∀ a s', G a s' → (f a).Gives s' H) :
    (m.bind f).Gives s H := by
  intro b s' hend
  obtain ⟨⟨o₁, s₁⟩, h₁, h₂⟩ := Program.canEnd_bind_iff.1 hend
  cases o₁ with
  | ok a => exact hf a s₁ (h a s₁ h₁) b s' h₂
  | error e => cases Program.canEnd_done_iff.1 h₂
  | fault w => cases Program.canEnd_done_iff.1 h₂

/-- Whatever the first act gives. -/
lemma Gives.afterAny (hf : ∀ a s', (f a).Gives s' H) : (m.bind f).Gives s H :=
  .bind (fun _ _ _ => trivial) fun a s' (_ : True) => hf a s'

lemma Gives.mapError {f : ε → ε'} (h : m.Gives s G) : (m.mapError f).Gives s G := by
  intro a s' hend
  obtain ⟨⟨o₁, s₁⟩, h₁, h₂⟩ := Program.canEnd_bind_iff.1 hend
  cases o₁ with
  | ok a₁ =>
    cases Program.canEnd_done_iff.1 h₂
    exact h _ _ h₁
  | error e => cases Program.canEnd_done_iff.1 h₂
  | fault w => cases Program.canEnd_done_iff.1 h₂

lemma Gives.within {p : Part τ σ} {t : τ} {G : α → τ → Prop}
    (h : m.Gives (p.get t) fun a s' => G a (p.put t s')) : (m.within p).Gives t G := by
  intro a t' hend
  obtain ⟨⟨o₁, s₁⟩, h₁, h₂⟩ := Program.canEnd_bind_iff.1 hend
  cases Program.canEnd_done_iff.1 h₂
  exact h _ _ h₁

lemma Gives.orElseClean {cleanup : Act S σ ε Unit} (h : m.Gives s G) :
    (m.orElseClean cleanup).Gives s G := by
  intro a s' hend
  obtain ⟨⟨o₁, s₁⟩, h₁, h₂⟩ := Program.canEnd_bind_iff.1 hend
  cases o₁ with
  | ok a₁ =>
    cases Program.canEnd_done_iff.1 h₂
    exact h _ _ h₁
  | error e =>
    obtain ⟨⟨o₂, s₂⟩, -, h₃⟩ := Program.canEnd_bind_iff.1 h₂
    cases Program.canEnd_done_iff.1 h₃
  | fault w =>
    obtain ⟨⟨o₂, s₂⟩, -, h₃⟩ := Program.canEnd_bind_iff.1 h₂
    cases Program.canEnd_done_iff.1 h₃

/-- The acts for all elements, one after the other; the invariant speaks of the elements that are
done. -/
lemma Gives.forEach {γ : Type} {xs : List γ} {f : γ → Act S σ ε Unit} {I : List γ → σ → Prop}
    (h₀ : I [] s)
    (hstep : ∀ done x rest, xs = done ++ x :: rest → ∀ s, I done s →
      (f x).Gives s fun _ s' => I (done ++ [x]) s') :
    (Act.forEach xs f).Gives s fun _ s' => I xs s' := by
  suffices h : ∀ rest done s, xs = done ++ rest → I done s →
      (Act.forEach rest f).Gives s fun _ s' => I xs s' from h xs [] s rfl h₀
  intro rest
  induction rest with
  | nil =>
    intro done s hxs hI
    rw [List.append_nil] at hxs
    exact .of_done rfl (hxs ▸ hI)
  | cons x rest ih =>
    intro done s hxs hI
    refine Gives.bind (hstep done x rest hxs s hI) ?_
    intro _ s' hI'
    exact ih (done ++ [x]) s' (by rw [hxs, List.append_assoc, List.singleton_append]) hI'

end Act

end ExpertExchange
