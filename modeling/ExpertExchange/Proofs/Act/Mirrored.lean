import ExpertExchange.Proofs.Act.Ends

/-!
# Acts that mirror each other

One act mirrors another, over a different state, when from related states the two ask the same
things, and on the same answers end alike and in related states. What is kept beside the state of a
platform for the sake of a proof is justified this way: with it and without it, programs are
mirrored.
-/

namespace ExpertExchange

variable {S : Service}

namespace Program

variable {α β α' β' : Type} {R : α → β → Prop} {R' : α' → β' → Prop}

/-- Both programs ask the same things, and the same answers lead them to related values. -/
inductive Aligned (R : α → β → Prop) : Program S α → Program S β → Prop where
  | done {a : α} {b : β} (h : R a b) : Aligned R (.done a) (.done b)
  | ask {r : S.Request} {next : S.Answer r → Program S α} {next' : S.Answer r → Program S β}
      (h : ∀ x, Aligned R (next x) (next' x)) : Aligned R (.ask r next) (.ask r next')

namespace Aligned

variable {p : Program S α} {q : Program S β}

lemma bind {f : α → Program S α'} {g : β → Program S β'} (h : Aligned R p q)
    (hfg : ∀ a b, R a b → Aligned R' (f a) (g b)) : Aligned R' (p.bind f) (q.bind g) := by
  induction h with
  | done h => exact hfg _ _ h
  | ask h ih => exact .ask ih

/-- With its value replaced by a related one, a program is aligned to itself. -/
lemma replaced (q : Program S β) {f : β → α} (hf : ∀ b, R (f b) b) :
    Aligned R (q.bind fun b => .done (f b)) q := by
  induction q with
  | done b => exact .done (hf b)
  | ask r next ih => exact .ask ih

/-- Every end of one program goes with an end of the other. -/
lemma exists_end {b : β} (h : Aligned R p q) (hend : q.CanEnd b) : ∃ a, p.CanEnd a ∧ R a b := by
  induction h with
  | done h =>
    cases canEnd_done_iff.1 hend
    exact ⟨_, .done _, h⟩
  | ask h ih =>
    cases hend with
    | ask x hend =>
      obtain ⟨a, ha, hab⟩ := ih x hend
      exact ⟨a, .ask x ha, hab⟩

end Aligned

end Program

/-- What a part is to one state, another part is to a related state. -/
structure Part.Mirrors {σ₁ σ₂ τ₁ τ₂ : Type} (R : τ₁ → σ₁ → Prop) (R₂ : τ₂ → σ₂ → Prop)
    (p' : Part τ₂ τ₁) (p : Part σ₂ σ₁) : Prop where
  get : ∀ {t s}, R₂ t s → R (p'.get t) (p.get s)
  put : ∀ {t s a b}, R₂ t s → R a b → R₂ (p'.put t a) (p.put s b)

namespace Act

variable {σ τ σ₂ τ₂ ε ε' α β : Type} {R : τ → σ → Prop} {R₂ : τ₂ → σ₂ → Prop}

/-- The same outcome, and related states. -/
def Alike (R : τ → σ → Prop) (x : Outcome ε α × τ) (y : Outcome ε α × σ) : Prop :=
  x.1 = y.1 ∧ R x.2 y.2

/-- From related states, the first act does what the second one does. -/
def Mirrors (R : τ → σ → Prop) (m' : Act S τ ε α) (m : Act S σ ε α) : Prop :=
  ∀ t s, R t s → (m' t).Aligned (Alike R) (m s)

namespace Mirrors

variable {m' : Act S τ ε α} {m : Act S σ ε α} {f' : α → Act S τ ε β} {f : α → Act S σ ε β}

lemma ofOutcome (o : Outcome ε α) :
    (Act.ofOutcome o : Act S τ ε α).Mirrors R (Act.ofOutcome o) :=
  fun _ _ h => .done ⟨rfl, h⟩

lemma pure (a : α) : (Pure.pure a : Act S τ ε α).Mirrors R (Pure.pure a) := ofOutcome (.ok a)

lemma fail (e : ε) : (Act.fail e : Act S τ ε α).Mirrors R (Act.fail e) := ofOutcome (.error e)

lemma fault (reason : Option String) :
    (Act.fault reason : Act S τ ε α).Mirrors R (Act.fault reason) := ofOutcome (.fault reason)

lemma bind (hm : m'.Mirrors R m) (hf : ∀ a, (f' a).Mirrors R (f a)) :
    (m'.bind f').Mirrors R (m.bind f) := by
  intro t s h
  refine (hm t s h).bind ?_
  rintro ⟨o, t₁⟩ ⟨_, s₁⟩ ⟨rfl, h₁⟩
  cases o with
  | ok a => exact hf a t₁ s₁ h₁
  | error e => exact .done ⟨rfl, h₁⟩
  | fault w => exact .done ⟨rfl, h₁⟩

/-- After a look at related states; what is seen of them need not be the same. -/
lemma viewing {γ γ' : Type} {g' : τ → γ'} {g : σ → γ} {f' : γ' → Act S τ ε β}
    {f : γ → Act S σ ε β} (h : ∀ t s, R t s → (f' (g' t)).Mirrors R (f (g s))) :
    (Act.view g' >>= f').Mirrors R (Act.view g >>= f) :=
  fun t s hts => h t s hts t s hts

lemma modify {f' : τ → τ} {f : σ → σ} (h : ∀ t s, R t s → R (f' t) (f s)) :
    (Act.modify f' : Act S τ ε Unit).Mirrors R (Act.modify f) :=
  fun t s hts => .done ⟨rfl, h t s hts⟩

lemma ite {p : Prop} [Decidable p] {n' : Act S τ ε α} {n : Act S σ ε α} (hm : m'.Mirrors R m)
    (hn : n'.Mirrors R n) : (if p then m' else n').Mirrors R (if p then m else n) := by
  by_cases hp : p
  · rw [if_pos hp, if_pos hp]
    exact hm
  · rw [if_neg hp, if_neg hp]
    exact hn

lemma ensure (p : Prop) [Decidable p] (e : ε) :
    (Act.ensure p e : Act S τ ε Unit).Mirrors R (Act.ensure p e) := ite (pure ()) (fail e)

lemma mapError {g : ε → ε'} (hm : m'.Mirrors R m) : (m'.mapError g).Mirrors R (m.mapError g) := by
  intro t s h
  refine (hm t s h).bind ?_
  rintro ⟨o, t₁⟩ ⟨_, s₁⟩ ⟨rfl, h₁⟩
  exact .done ⟨rfl, h₁⟩

lemma within {p' : Part τ₂ τ} {p : Part σ₂ σ} (hp : p'.Mirrors R R₂ p) (hm : m'.Mirrors R m) :
    (m'.within p').Mirrors R₂ (m.within p) := by
  intro t s h
  refine (hm _ _ (hp.get h)).bind ?_
  rintro ⟨o, t₁⟩ ⟨_, s₁⟩ ⟨rfl, h₁⟩
  exact .done ⟨rfl, hp.put h h₁⟩

lemma attempt (hm : m'.Mirrors R m) :
    (m'.attempt : Act S τ ε' (Outcome ε α)).Mirrors R m.attempt := by
  intro t s h
  refine (hm t s h).bind ?_
  rintro ⟨o, t₁⟩ ⟨_, s₁⟩ ⟨rfl, h₁⟩
  exact .done ⟨rfl, h₁⟩

lemma andFinally {c' : Act S τ ε Unit} {c : Act S σ ε Unit} (hm : m'.Mirrors R m)
    (hc : c'.Mirrors R c) : (m'.andFinally c').Mirrors R (m.andFinally c) := by
  intro t s h
  refine (hm t s h).bind ?_
  rintro ⟨o, t₁⟩ ⟨_, s₁⟩ ⟨rfl, h₁⟩
  refine (hc t₁ s₁ h₁).bind ?_
  rintro ⟨o₂, t₂⟩ ⟨_, s₂⟩ ⟨rfl, h₂⟩
  exact .done ⟨rfl, h₂⟩

lemma orElseClean {c' : Act S τ ε Unit} {c : Act S σ ε Unit} (hm : m'.Mirrors R m)
    (hc : c'.Mirrors R c) : (m'.orElseClean c').Mirrors R (m.orElseClean c) := by
  intro t s h
  refine (hm t s h).bind ?_
  rintro ⟨o, t₁⟩ ⟨_, s₁⟩ ⟨rfl, h₁⟩
  have hclean : ((c' t₁).bind fun r => .done (o, r.2)).Aligned (Alike R)
      ((c s₁).bind fun r => .done (o, r.2)) := by
    refine (hc t₁ s₁ h₁).bind ?_
    rintro ⟨o₂, t₂⟩ ⟨_, s₂⟩ ⟨rfl, h₂⟩
    exact .done ⟨rfl, h₂⟩
  cases o with
  | ok a => exact .done ⟨rfl, h₁⟩
  | error e => exact hclean
  | fault w => exact hclean

lemma forEach {xs : List α} {f' : α → Act S τ ε Unit} {f : α → Act S σ ε Unit}
    (hf : ∀ x, (f' x).Mirrors R (f x)) : (Act.forEach xs f').Mirrors R (Act.forEach xs f) := by
  induction xs with
  | nil => exact pure ()
  | cons x xs ih => exact bind (hf x) fun _ => ih

end Mirrors

/-- Related components. -/
def Both {ρ' ρ : Type} (R : τ → σ → Prop) (Q : ρ' → ρ → Prop) (t : τ × ρ') (s : σ × ρ) : Prop :=
  R t.1 s.1 ∧ Q t.2 s.2

lemma Mirrors.first {ρ' ρ : Type} {Q : ρ' → ρ → Prop} {m' : Act S τ ε α} {m : Act S σ ε α}
    (hm : m'.Mirrors R m) :
    (m'.within Part.first : Act S (τ × ρ') ε α).Mirrors (Both R Q) (m.within Part.first) :=
  .within ⟨fun h => h.1, fun h h₁ => ⟨h₁, h.2⟩⟩ hm

lemma Mirrors.alongside {ρ : Type} {r : ρ} {m' : Act S (τ × ρ) ε α} {m : Act S (σ × ρ) ε α}
    (hm : m'.Mirrors (Both R Eq) m) : (m'.alongside r).Mirrors R (m.alongside r) := by
  intro t s h
  refine (hm _ _ ⟨h, rfl⟩).bind ?_
  rintro ⟨o, t₁⟩ ⟨_, s₁⟩ ⟨rfl, h₁⟩
  exact .done ⟨rfl, h₁.1⟩

end Act

end ExpertExchange
