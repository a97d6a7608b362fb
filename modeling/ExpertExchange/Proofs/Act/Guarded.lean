import ExpertExchange.Proofs.Act.Ends

/-!
# Checks, and what they make safe

A guarded call starts with checks, which ask nothing and change nothing, and goes on with acts whose
own checks then always pass. So it does the same when those acts leave their checks out: with and
without them, the two agree.
-/

namespace ExpertExchange

namespace Outcome

variable {ε ε' α β : Type} {p p' : ε → Prop} {o : Outcome ε α}

/-- The errors of the computation are of the given kind. -/
def Refuses (p : ε → Prop) (o : Outcome ε α) : Prop := ∀ e, o = .error e → p e

namespace Refuses

lemma error {e : ε} (he : p e) : (Outcome.error e : Outcome ε α).Refuses p := by
  rintro _ ⟨⟩
  exact he

lemma ok (a : α) : (Outcome.ok a : Outcome ε α).Refuses p := by
  intro e h
  cases h

lemma fault (w : Option String) : (Outcome.fault w : Outcome ε α).Refuses p := by
  intro e h
  cases h

lemma mono (ho : o.Refuses p) (h : ∀ e, p e → p' e) : o.Refuses p' := fun e he => h e (ho e he)

lemma mapError {q : ε' → Prop} {g : ε → ε'} (ho : o.Refuses p) (hg : ∀ e, p e → q (g e)) :
    (o.mapError g).Refuses q := by
  intro e' h
  cases o with
  | ok a => cases h
  | error e =>
    cases h
    exact hg e (ho e rfl)
  | fault w => cases h

lemma bind {f : α → Outcome ε β} (ho : o.Refuses p) (hf : ∀ a, (f a).Refuses p) :
    (o.bind f).Refuses p := by
  intro e h
  cases o with
  | ok a => exact hf a e h
  | error e' =>
    cases h
    exact ho e rfl
  | fault w => cases h

lemma ensure (c : Prop) [Decidable c] {e : ε} (he : p e) : (Outcome.ensure c e).Refuses p := by
  intro e' h
  unfold Outcome.ensure at h
  by_cases hc : c
  · rw [if_pos hc] at h
    cases h
  · rw [if_neg hc] at h
    cases h
    exact he

end Refuses

end Outcome

namespace Program

variable {S : Service} {α β : Type}

/-- What continues a program matters for the values that the program can end with. -/
lemma bind_congr {p : Program S α} {f g : α → Program S β} (h : ∀ a, p.CanEnd a → f a = g a) :
    p.bind f = p.bind g := by
  induction p with
  | done a => exact h a (.done a)
  | ask r next ih =>
    have hnext : (fun x => (next x).bind f) = fun x => (next x).bind g := by
      funext x
      refine ih x ?_
      intro a ha
      exact h a (.ask x ha)
    rw [Program.bind, Program.bind, hnext]

end Program

namespace Act

variable {S : Service} {σ τ ε ε' α β : Type} {I : σ → Prop} {may late : ε → Prop}
  {m' m : Act S σ ε α} {f' f : α → Act S σ ε β} {s : σ}

/-- From states with the invariant the two acts are the same program. It leads to states with the
invariant, and ends with errors of the given kind only. -/
def Agrees (I : σ → Prop) (may : ε → Prop) (m' m : Act S σ ε α) : Prop :=
  ∀ s, I s → m' s = m s ∧ m.Ensures s fun o s' => I s' ∧ o.Refuses may

/-- From states with the invariant the act leads to such states, and ends with errors of the given
kind only. -/
abbrev Steady (I : σ → Prop) (may : ε → Prop) (m : Act S σ ε α) : Prop := m.Agrees I may m

namespace Agrees

/-- An act that is the other one from states with the invariant, and that one is steady. -/
lemma of_eq (heq : ∀ s, I s → m s = m' s) (hm : m'.Steady I may) : m'.Agrees I may m := by
  intro s hs
  refine ⟨(heq s hs).symm, ?_⟩
  unfold Ensures
  rw [heq s hs]
  exact (hm s hs).2

lemma of_ensures (h : ∀ s, I s → m.Ensures s fun o s' => I s' ∧ o.Refuses may) :
    m.Steady I may := fun s hs => ⟨rfl, h s hs⟩

lemma ofOutcome {o : Outcome ε α} (ho : o.Refuses may) :
    (Act.ofOutcome o : Act S σ ε α).Steady I may := by
  refine of_ensures ?_
  intro s hs
  exact .of_done rfl ⟨hs, ho⟩

lemma pure (a : α) : (Pure.pure a : Act S σ ε α).Steady I may := ofOutcome (.ok a)

lemma fault (w : Option String) : (Act.fault w : Act S σ ε α).Steady I may := ofOutcome (.fault w)

lemma fail {e : ε} (he : may e) : (Act.fail e : Act S σ ε α).Steady I may :=
  ofOutcome (.error he)

lemma view (g : σ → α) : (Act.view g : Act S σ ε α).Steady I may := by
  refine of_ensures ?_
  intro s hs
  exact .of_done rfl ⟨hs, .ok _⟩

lemma modify {g : σ → σ} (hg : ∀ s, I s → I (g s)) :
    (Act.modify g : Act S σ ε Unit).Steady I may := by
  refine of_ensures ?_
  intro s hs
  exact .of_done rfl ⟨hg s hs, .ok _⟩

lemma ensure (p : Prop) [Decidable p] {e : ε} (he : ¬ p → may e) :
    (Act.ensure p e : Act S σ ε Unit).Steady I may := by
  unfold Act.ensure
  by_cases hp : p
  · rw [if_pos hp]
    exact pure ()
  · rw [if_neg hp]
    exact fail (he hp)

lemma request (r : S.Request) : (Act.request r : Act S σ ε (S.Answer r)).Steady I may := by
  refine of_ensures ?_
  intro s hs o s' hend
  cases hend with
  | ask x h =>
    cases Program.canEnd_done_iff.1 h
    exact ⟨hs, .ok _⟩

/-- On a part of a larger state that the invariant does not depend on, with errors of the given kind
only, however they come about. -/
lemma part {p : Part σ τ} {g : ε' → ε} (m : Act S τ ε' α) (hput : ∀ s t, I s → I (p.put s t))
    (hg : ∀ e, may (g e)) : ((m.mapError g).within p).Steady I may := by
  refine of_ensures ?_
  intro s hs
  refine Ensures.within (Ensures.mapError ?_)
  intro o t _
  have hany : o.Refuses fun _ => True := fun _ _ => trivial
  exact ⟨hput s t hs, hany.mapError fun e _ => hg e⟩

/-- One after the other, where something is known of what the first gives. -/
lemma bindGives {G : α → Prop} (hm : m'.Agrees I may m) (hG : ∀ s, I s → m.Gives s fun a _ => G a)
    (hf : ∀ a, G a → (f' a).Agrees I may (f a)) : (m'.bind f').Agrees I may (m.bind f) := by
  intro s hs
  obtain ⟨heq, hends⟩ := hm s hs
  have hboth : m.Ensures s fun o s' =>
      (I s' ∧ o.Refuses may) ∧ ∀ a, o = .ok a → G a := by
    intro o s' hend
    refine ⟨hends o s' hend, ?_⟩
    rintro a rfl
    exact hG s hs a s' hend
  constructor
  · unfold Act.bind
    rw [heq]
    refine Program.bind_congr ?_
    rintro ⟨o, s₁⟩ hend
    obtain ⟨⟨h₁, -⟩, ha⟩ := hboth o s₁ hend
    cases o with
    | ok a => exact (hf a (ha a rfl) s₁ h₁).1
    | error e => rfl
    | fault w => rfl
  · refine Ensures.bind hboth ?_ ?_ ?_
    · rintro a s₁ ⟨⟨h₁, -⟩, ha⟩
      exact (hf a (ha a rfl) s₁ h₁).2
    · rintro e s₁ ⟨⟨h₁, he⟩, -⟩
      exact ⟨h₁, .error (he e rfl)⟩
    · rintro w s₁ ⟨⟨h₁, -⟩, -⟩
      exact ⟨h₁, .fault w⟩

lemma bind (hm : m'.Agrees I may m) (hf : ∀ a, (f' a).Agrees I may (f a)) :
    (m'.bind f').Agrees I may (m.bind f) :=
  bindGives hm (fun _ _ _ _ _ => trivial) fun a _ => hf a

/-- After a computation, with what is known of its value. -/
lemma after {o : Outcome ε α} (ho : o.Refuses may)
    (hf : ∀ a, o = .ok a → (f' a).Agrees I may (f a)) :
    ((Act.ofOutcome o).bind f').Agrees I may ((Act.ofOutcome o).bind f) :=
  bindGives (ofOutcome ho) (fun _ _ => .ofOutcome fun _ h => h) hf

lemma forEach {xs : List α} {f' f : α → Act S σ ε Unit}
    (hf : ∀ x ∈ xs, (f' x).Agrees I may (f x)) :
    (Act.forEach xs f').Agrees I may (Act.forEach xs f) := by
  induction xs with
  | nil => exact pure ()
  | cons x xs ih =>
    refine .bind (hf x List.mem_cons_self) ?_
    intro _
    exact ih fun y hy => hf y (List.mem_cons_of_mem x hy)

lemma ite {p : Prop} [Decidable p] {n' n : Act S σ ε α} (hm : p → m'.Agrees I may m)
    (hn : ¬ p → n'.Agrees I may n) : (if p then m' else n').Agrees I may (if p then m else n) := by
  by_cases hp : p
  · rw [if_pos hp, if_pos hp]
    exact hm hp
  · rw [if_neg hp, if_neg hp]
    exact hn hp

/-- With a weaker invariant of a larger state that the act works on a part of. -/
lemma within {p : Part τ σ} {J : τ → Prop} (hm : m'.Agrees I may m) (hget : ∀ t, J t → I (p.get t))
    (hput : ∀ t s, J t → I s → J (p.put t s)) : (m'.within p).Agrees J may (m.within p) := by
  intro t ht
  obtain ⟨heq, hends⟩ := hm (p.get t) (hget t ht)
  constructor
  · unfold Act.within
    rw [heq]
  · refine Ensures.within (hends.mono ?_)
    rintro o s' ⟨hs', he⟩
    exact ⟨hput t s' ht hs', he⟩

/-- What the cleanup ends with is dropped. -/
lemma orElseClean {cleanup : Act S σ ε Unit} {may' : ε → Prop} (hm : m'.Agrees I may m)
    (hc : cleanup.Steady I may') :
    (m'.orElseClean cleanup).Agrees I may (m.orElseClean cleanup) := by
  intro s hs
  obtain ⟨heq, hends⟩ := hm s hs
  constructor
  · unfold Act.orElseClean
    rw [heq]
  · refine Ensures.orElseClean hends ?_
    rintro o s₁ ⟨h₁, he⟩
    refine ((hc s₁ h₁).2).mono ?_
    rintro _ s₂ ⟨h₂, -⟩
    exact ⟨h₂, he⟩

lemma andFinally {cleanup : Act S σ ε Unit} {may' : ε → Prop} (hm : m'.Agrees I may m)
    (hc : cleanup.Steady I may') :
    (m'.andFinally cleanup).Agrees I may (m.andFinally cleanup) := by
  intro s hs
  obtain ⟨heq, hends⟩ := hm s hs
  constructor
  · unfold Act.andFinally
    rw [heq]
  · refine Ensures.andFinally hends ?_
    rintro o s₁ ⟨h₁, he⟩
    refine ((hc s₁ h₁).2).mono ?_
    rintro _ s₂ ⟨h₂, -⟩
    exact ⟨h₂, he⟩

end Agrees

/-- From the state `s` the act asks nothing and changes nothing. What it gives has the property `Q`,
and its errors are of the given kind. -/
def Checks (fails : ε → Prop) (Q : α → Prop) (m : Act S σ ε α) (s : σ) : Prop :=
  ∃ o, m s = .done (o, s) ∧ (∀ a, o = .ok a → Q a) ∧ o.Refuses fails

namespace Checks

variable {fails : ε → Prop} {Q : α → Prop}

lemma ofOutcome {o : Outcome ε α} (hok : ∀ a, o = .ok a → Q a) (he : o.Refuses fails) :
    (Act.ofOutcome o : Act S σ ε α).Checks fails Q s := ⟨o, rfl, hok, he⟩

lemma pure {a : α} (ha : Q a) : (Pure.pure a : Act S σ ε α).Checks fails Q s := by
  refine ofOutcome ?_ (.ok a)
  rintro _ ⟨⟩
  exact ha

lemma fail {e : ε} (he : fails e) : (Act.fail e : Act S σ ε α).Checks fails Q s :=
  ofOutcome nofun (.error he)

lemma view {g : σ → α} (h : Q (g s)) : (Act.view g : Act S σ ε α).Checks fails Q s := by
  refine ⟨.ok (g s), rfl, ?_, .ok _⟩
  rintro _ ⟨⟩
  exact h

lemma ensure (p : Prop) [Decidable p] {e : ε} (he : fails e) :
    (Act.ensure p e : Act S σ ε Unit).Checks fails (fun _ => p) s := by
  unfold Act.ensure
  by_cases hp : p
  · rw [if_pos hp]
    exact pure hp
  · rw [if_neg hp]
    exact fail he

lemma mono {Q' : α → Prop} (h : m.Checks fails Q s) (hQ : ∀ a, Q a → Q' a) :
    m.Checks fails Q' s := by
  obtain ⟨o, ho, hok, he⟩ := h
  exact ⟨o, ho, fun a ha => hQ a (hok a ha), he⟩

lemma bind {R : β → Prop} (hm : m.Checks fails Q s) (hf : ∀ a, Q a → (f a).Checks fails R s) :
    (m.bind f).Checks fails R s := by
  obtain ⟨o, ho, hok, he⟩ := hm
  unfold Checks Act.bind
  rw [ho]
  cases o with
  | ok a => exact hf a (hok a rfl)
  | error e => exact ⟨.error e, rfl, nofun, .error (he e rfl)⟩
  | fault w => exact ⟨.fault w, rfl, nofun, .fault w⟩

/-- What is checked of every element holds of every element. -/
lemma forEach {xs : List α} {f : α → Act S σ ε Unit} {Q : α → Prop}
    (hf : ∀ x, (f x).Checks fails (fun _ => Q x) s) :
    (Act.forEach xs f).Checks fails (fun _ => ∀ x ∈ xs, Q x) s := by
  induction xs with
  | nil => exact pure nofun
  | cons x xs ih =>
    refine .bind (hf x) ?_
    intro _ hx
    refine ih.mono ?_
    intro _ hxs
    exact List.forall_mem_cons.2 ⟨hx, hxs⟩

lemma within {p : Part τ σ} {t : τ} (hm : m.Checks fails Q (p.get t)) (hp : p.put t (p.get t) = t) :
    (m.within p).Checks fails Q t := by
  obtain ⟨o, ho, hok, he⟩ := hm
  refine ⟨o, ?_, hok, he⟩
  rw [Act.within, ho, Program.bind, hp]

lemma mapError {fails' : ε' → Prop} {g : ε → ε'} (hm : m.Checks fails Q s)
    (hg : ∀ e, fails e → fails' (g e)) : (m.mapError g).Checks fails' Q s := by
  obtain ⟨o, ho, hok, he⟩ := hm
  refine ⟨o.mapError g, ?_, ?_, he.mapError hg⟩
  · rw [Act.mapError, ho]
    rfl
  · intro a ha
    cases o with
    | ok a' =>
      cases ha
      exact hok a rfl
    | error e => cases ha
    | fault w => cases ha

end Checks

/-- From the state `s` the two acts are the same program, which leads to a state with the invariant.
An error with which it ends is either a refusal, and then nothing has been asked or changed, or one
of those that may come late. -/
def Guarded (refusal late : ε → Prop) (I : σ → Prop) (m' m : Act S σ ε α) (s : σ) : Prop :=
  m' s = m s ∧ m.Ensures s fun o s' =>
    I s' ∧ o.Refuses fun e => (refusal e ∧ m s = .done (.error e, s)) ∨ late e

namespace Guarded

variable {refusal : ε → Prop}

lemma of_agrees (h : m'.Agrees I late m) (hs : I s) : m'.Guarded refusal late I m s := by
  obtain ⟨heq, hends⟩ := h s hs
  refine ⟨heq, hends.mono ?_⟩
  rintro o s' ⟨hs', he⟩
  exact ⟨hs', he.mono fun _ => .inr⟩

/-- Only what the acts do in the state `s` matters. -/
lemma congr {n' n : Act S σ ε α} (h' : n' s = m' s) (h : n s = m s)
    (hm : m'.Guarded refusal late I m s) : n'.Guarded refusal late I n s := by
  unfold Guarded Ensures
  rw [h', h]
  exact hm

/-- More errors may come late, and less may be invariant. -/
lemma mono {late' : ε → Prop} {J : σ → Prop} (hm : m'.Guarded refusal late I m s)
    (hlate : ∀ e, late e → late' e) (hJ : ∀ s, I s → J s) :
    m'.Guarded refusal late' J m s := by
  refine ⟨hm.1, hm.2.mono ?_⟩
  rintro o s' ⟨hs', he⟩
  exact ⟨hJ s' hs', he.mono fun e => Or.imp id (hlate e)⟩

/-- What is refused at once. -/
lemma fail {e : ε} (hs : I s) (he : refusal e) :
    (Act.fail e : Act S σ ε α).Guarded refusal late I (Act.fail e) s := by
  exact ⟨rfl, .of_done rfl ⟨hs, .error (.inl ⟨he, rfl⟩)⟩⟩

/-- A check, and what may rely on it. -/
lemma check {Q : α → Prop} (hs : I s) (hm : m.Checks (fun e => refusal e ∨ late e) Q s)
    (hf : ∀ a, Q a → (f' a).Guarded refusal late I (f a) s) :
    (m.bind f').Guarded refusal late I (m.bind f) s := by
  obtain ⟨o, ho, hok, he⟩ := hm
  unfold Guarded Ensures Act.bind
  rw [ho]
  cases o with
  | ok a => exact hf a (hok a rfl)
  | error e =>
    refine ⟨rfl, ?_⟩
    intro o' s' hend
    cases Program.canEnd_done_iff.1 hend
    refine ⟨hs, .error ?_⟩
    rcases he e rfl with hrefused | hlate
    · exact .inl ⟨hrefused, rfl⟩
    · exact .inr hlate
  | fault w =>
    refine ⟨rfl, ?_⟩
    intro o' s' hend
    cases Program.canEnd_done_iff.1 hend
    exact ⟨hs, .fault w⟩

/-- On a part of a larger state. -/
lemma within {p : Part τ σ} {J : τ → Prop} {t : τ}
    (h : m'.Guarded refusal late I m (p.get t)) (hsame : p.put t (p.get t) = t)
    (hput : ∀ s, I s → J (p.put t s)) :
    (m'.within p).Guarded refusal late J (m.within p) t := by
  obtain ⟨heq, hends⟩ := h
  constructor
  · unfold Act.within
    rw [heq]
  · refine Ensures.within (hends.mono ?_)
    rintro o s' ⟨hs', he⟩
    refine ⟨hput s' hs', he.mono ?_⟩
    intro e
    refine Or.imp ?_ id
    rintro ⟨hrefused, hdone⟩
    refine ⟨hrefused, ?_⟩
    rw [Act.within, hdone, Program.bind, hsame]

/-- What is returned changes nothing. -/
lemma returns (hm : m'.Guarded refusal late I m s) (g : α → β) :
    (m'.bind fun a => Pure.pure (g a)).Guarded refusal late I
      (m.bind fun a => Pure.pure (g a)) s := by
  obtain ⟨heq, hends⟩ := hm
  constructor
  · unfold Act.bind
    rw [heq]
  · refine Ensures.bind hends ?_ ?_ ?_
    · rintro a s₁ ⟨h₁, -⟩
      exact .of_done rfl ⟨h₁, .ok _⟩
    · rintro e s₁ ⟨h₁, he⟩
      refine ⟨h₁, .error ((he e rfl).imp ?_ id)⟩
      rintro ⟨hrefused, hdone⟩
      refine ⟨hrefused, ?_⟩
      rw [Act.bind, hdone, Program.bind]
    · rintro w s₁ ⟨h₁, -⟩
      exact ⟨h₁, .fault w⟩

end Guarded

end Act

end ExpertExchange
