import ExpertExchange.Proofs.Act.Ends

/-!
# What an act does to a part that is watched

A relation between what is watched before an act, how the act ends, and what is watched after it.
Where the relation holds of a successful act and of the one that follows, it has to hold of the two
in a row; then it goes through every way of putting acts together.
-/

namespace ExpertExchange

/-- How a call ended, without what it ended with. -/
inductive Ending where
  | ok | error | fault
  deriving Repr, DecidableEq

def Outcome.ending {ε α : Type} : Outcome ε α → Ending
  | .ok _ => .ok
  | .error _ => .error
  | .fault _ => .fault

lemma Outcome.ending_mapError {ε ε' α : Type} (f : ε → ε') (o : Outcome ε α) :
    (o.mapError f).ending = o.ending := by
  cases o with
  | ok a => rfl
  | error e => rfl
  | fault w => rfl

/-- The call has no error to report: it succeeds, or breaks an arithmetic or indexing rule. -/
def Outcome.Errorless {ε α : Type} (o : Outcome ε α) : Prop := o.ending ≠ .error

namespace Outcome.Errorless

variable {ε α β : Type}

lemma ok (a : α) : (Outcome.ok a : Outcome ε α).Errorless := by
  intro h
  cases h

lemma orFault (a : Option α) : (Outcome.orFault a : Outcome ε α).Errorless := by
  intro h
  cases a with
  | none => cases h
  | some a => cases h

lemma bind {o : Outcome ε α} {f : α → Outcome ε β} (ho : o.Errorless)
    (hf : ∀ a, (f a).Errorless) : (o.bind f).Errorless := by
  cases o with
  | ok a => exact hf a
  | error e => exact absurd rfl ho
  | fault w =>
    intro h
    cases h

end Outcome.Errorless

/-- Acts in a row: what the relation says of a successful act and of the next one, it says of
both. -/
structure Chains {ω : Type} (R : ω → Ending → ω → Prop) : Prop where
  refl : ∀ w, R w .ok w
  trans : ∀ {w₀ w₁ w₂ e}, R w₀ .ok w₁ → R w₁ e w₂ → R w₀ e w₂

namespace Act

variable {S : Service} {σ τ ω ε ε' α β : Type} {watch : σ → ω} {R : ω → Ending → ω → Prop}
  {m : Act S σ ε α} {f : α → Act S σ ε β}

/-- From every state, what is watched before the act, the ending and what is watched after the act
are in the relation. -/
def Changes (watch : σ → ω) (R : ω → Ending → ω → Prop) (m : Act S σ ε α) : Prop :=
  ∀ s, m.Ensures s fun o s' => R (watch s) o.ending (watch s')

/-- What is watched stays as it is, however the act ends. -/
def Spares (watch : σ → ω) (m : Act S σ ε α) : Prop :=
  m.Changes watch fun w _ w' => w' = w

namespace Changes

/-- What the relation says of a successful end. -/
lemma gives (h : m.Changes watch R) (s : σ) :
    m.Gives s fun _ s' => R (watch s) .ok (watch s') :=
  fun a s' hend => h s (.ok a) s' hend

lemma ofOutcome {o : Outcome ε α} (h : ∀ w, R w o.ending w) :
    (Act.ofOutcome o : Act S σ ε α).Changes watch R := by
  intro s
  exact .of_done rfl (h (watch s))

lemma pure (hR : Chains R) (a : α) : (Pure.pure a : Act S σ ε α).Changes watch R := by
  intro s
  exact .of_done rfl (hR.refl (watch s))

/-- From one state, and then from whatever state that leads to. -/
lemma after {s : σ} (hR : Chains R)
    (hm : m.Ensures s fun o s' => R (watch s) o.ending (watch s'))
    (hf : ∀ a, (f a).Changes watch R) :
    (m.bind f).Ensures s fun o s' => R (watch s) o.ending (watch s') := by
  refine Ensures.bind hm ?_ ?_ ?_
  · intro a s₁ h₁
    exact (hf a s₁).mono fun o s₂ h₂ => hR.trans h₁ h₂
  · intro e s₁ h₁
    exact h₁
  · intro w s₁ h₁
    exact h₁

lemma bind (hR : Chains R) (hm : m.Changes watch R) (hf : ∀ a, (f a).Changes watch R) :
    (m.bind f).Changes watch R := fun s => after hR (hm s) hf

/-- From one state, and then from the states that success gives. -/
lemma afterGives {s : σ} {G : α → σ → Prop} (hR : Chains R) (hm : m.Changes watch R)
    (hgives : m.Gives s G)
    (hf : ∀ a s', G a s' → (f a).Ensures s' fun o s'' => R (watch s') o.ending (watch s'')) :
    (m.bind f).Ensures s fun o s' => R (watch s) o.ending (watch s') := by
  have hboth : m.Ensures s fun o s' =>
      R (watch s) o.ending (watch s') ∧ ∀ a, o = .ok a → G a s' := by
    intro o s' hend
    refine ⟨hm s o s' hend, ?_⟩
    rintro a rfl
    exact hgives a s' hend
  refine Ensures.bind hboth ?_ ?_ ?_
  · rintro a s₁ ⟨h₁, hG⟩
    exact (hf a s₁ (hG a rfl)).mono fun o s₂ h₂ => hR.trans h₁ h₂
  · rintro e s₁ ⟨h₁, -⟩
    exact h₁
  · rintro w s₁ ⟨h₁, -⟩
    exact h₁

lemma forEach {xs : List α} {f : α → Act S σ ε Unit} (hR : Chains R)
    (hf : ∀ x ∈ xs, (f x).Changes watch R) : (Act.forEach xs f).Changes watch R := by
  induction xs with
  | nil => exact .pure hR ()
  | cons x xs ih =>
    refine .bind hR (hf x List.mem_cons_self) ?_
    intro _
    exact ih fun y hy => hf y (List.mem_cons_of_mem x hy)

lemma mapError {f : ε → ε'} (hm : m.Changes watch R) : (m.mapError f).Changes watch R := by
  intro s
  refine Ensures.mapError ((hm s).mono ?_)
  intro o s' h
  rw [Outcome.ending_mapError]
  exact h

/-- On a part of a larger state, of which other things may be watched. -/
lemma part {ω' : Type} {p : Part τ σ} {watch' : τ → ω'} {R' : ω' → Ending → ω' → Prop}
    (hm : m.Changes watch R)
    (hput : ∀ t e s, R (watch (p.get t)) e (watch s) → R' (watch' t) e (watch' (p.put t s))) :
    (m.within p).Changes watch' R' := by
  intro t
  refine Ensures.within ((hm (p.get t)).mono ?_)
  intro o s' h
  exact hput t o.ending s' h

/-- On a part of a larger state, of which the same is watched. -/
lemma within {p : Part τ σ} {watch' : τ → ω} (hm : m.Changes watch R)
    (hget : ∀ t, watch (p.get t) = watch' t) (hput : ∀ t s, watch' (p.put t s) = watch s) :
    (m.within p).Changes watch' R := by
  refine hm.part ?_
  intro t e s h
  rw [hput, ← hget]
  exact h

lemma orElseClean {cleanup : Act S σ ε Unit} (hm : m.Changes watch R)
    (hc : cleanup.Spares watch) : (m.orElseClean cleanup).Changes watch R := by
  intro s
  refine Ensures.orElseClean (hm s) ?_
  intro o s₁ h₁
  refine (hc s₁).mono ?_
  intro _ s₂ h₂
  exact h₂.symm ▸ h₁

lemma andFinally {cleanup : Act S σ ε Unit} (hm : m.Changes watch R)
    (hc : cleanup.Spares watch) : (m.andFinally cleanup).Changes watch R := by
  intro s
  refine Ensures.andFinally (hm s) ?_
  intro o s₁ h₁
  refine (hc s₁).mono ?_
  intro _ s₂ h₂
  exact h₂.symm ▸ h₁

end Changes

namespace Spares

lemma changes (h : m.Spares watch) (hR : ∀ w e, R w e w) : m.Changes watch R := by
  intro s
  refine (h s).mono ?_
  intro o s' heq
  exact heq.symm ▸ hR (watch s) o.ending

lemma gives (h : m.Spares watch) (s : σ) : m.Gives s fun _ s' => watch s' = watch s :=
  Changes.gives h s

/-- What is seen of what stays. -/
lemma map {ω' : Type} (g : ω → ω') (hm : m.Spares watch) : m.Spares fun s => g (watch s) := by
  intro s
  exact (hm s).mono fun o s' heq => congrArg g heq

/-- On a part of a larger state that what is watched is no part of. -/
lemma within {p : Part τ σ} {watch : τ → ω} (m : Act S σ ε α)
    (hput : ∀ t s, watch (p.put t s) = watch t) : (m.within p).Spares watch := by
  intro t
  refine Ensures.within ?_
  intro o s' _
  exact hput t s'

/-- With a further state that is dropped afterwards. -/
lemma alongside {m : Act S (σ × τ) ε α} {t : τ} (hm : m.Spares fun q => watch q.1) :
    (m.alongside t).Spares watch := by
  intro s o s' hend
  obtain ⟨⟨o₁, q⟩, h₁, h₂⟩ := Program.canEnd_bind_iff.1 hend
  cases Program.canEnd_done_iff.1 h₂
  exact hm (s, t) o₁ q h₁

lemma ofOutcome (o : Outcome ε α) : (Act.ofOutcome o : Act S σ ε α).Spares watch := by
  intro s
  exact .of_done rfl rfl

lemma pure (a : α) : (Pure.pure a : Act S σ ε α).Spares watch := ofOutcome (.ok a)

lemma fail (e : ε) : (Act.fail e : Act S σ ε α).Spares watch := ofOutcome (.error e)

lemma view (g : σ → α) : (Act.view g : Act S σ ε α).Spares watch := by
  intro s
  exact .of_done rfl rfl

lemma request (r : S.Request) : (Act.request r : Act S σ ε (S.Answer r)).Spares watch := by
  intro s o s' hend
  cases hend with
  | ask x h =>
    cases Program.canEnd_done_iff.1 h
    rfl

lemma modify {g : σ → σ} (hg : ∀ s, watch (g s) = watch s) :
    (Act.modify g : Act S σ ε Unit).Spares watch := by
  intro s
  exact .of_done rfl (hg s)

lemma ite {p : Prop} [Decidable p] {m' : Act S σ ε α} (h : m.Spares watch)
    (h' : m'.Spares watch) : (if p then m else m').Spares watch := by
  by_cases hp : p
  · rw [if_pos hp]
    exact h
  · rw [if_neg hp]
    exact h'

lemma ensure (p : Prop) [Decidable p] (e : ε) : (Act.ensure p e : Act S σ ε Unit).Spares watch :=
  ite (pure ()) (fail e)

lemma chains : Chains fun (w : ω) (_ : Ending) w' => w' = w := by
  constructor
  · intro w
    rfl
  · intro w₀ w₁ w₂ e h₁ h₂
    exact h₂.trans h₁

lemma bind (hm : m.Spares watch) (hf : ∀ a, (f a).Spares watch) : (m.bind f).Spares watch :=
  Changes.bind chains hm hf

lemma forEach {xs : List α} {f : α → Act S σ ε Unit} (hf : ∀ x ∈ xs, (f x).Spares watch) :
    (Act.forEach xs f).Spares watch := Changes.forEach chains hf

lemma attempt (hm : m.Spares watch) : (m.attempt : Act S σ ε' (Outcome ε α)).Spares watch := by
  intro s
  exact Ensures.attempt ((hm s).mono fun o s' h => h)

end Spares

/-- The act asks nothing and changes nothing. -/
def Looks (m : Act S σ ε α) : Prop := ∀ s, ∃ o, m s = .done (o, s)

namespace Looks

lemma ofOutcome (o : Outcome ε α) : (Act.ofOutcome o : Act S σ ε α).Looks := by
  intro s
  exact ⟨o, rfl⟩

lemma pure (a : α) : (Pure.pure a : Act S σ ε α).Looks := ofOutcome (.ok a)

lemma fail (e : ε) : (Act.fail e : Act S σ ε α).Looks := ofOutcome (.error e)

lemma view (g : σ → α) : (Act.view g : Act S σ ε α).Looks := by
  intro s
  exact ⟨.ok (g s), rfl⟩

lemma ite {p : Prop} [Decidable p] {m' : Act S σ ε α} (h : m.Looks) (h' : m'.Looks) :
    (if p then m else m').Looks := by
  by_cases hp : p
  · rw [if_pos hp]
    exact h
  · rw [if_neg hp]
    exact h'

lemma ensure (p : Prop) [Decidable p] (e : ε) : (Act.ensure p e : Act S σ ε Unit).Looks :=
  ite (pure ()) (fail e)

lemma bind (hm : m.Looks) (hf : ∀ a, (f a).Looks) : (m.bind f).Looks := by
  intro s
  obtain ⟨o, ho⟩ := hm s
  unfold Act.bind
  rw [ho]
  cases o with
  | ok a => exact hf a s
  | error e => exact ⟨.error e, rfl⟩
  | fault w => exact ⟨.fault w, rfl⟩

lemma forEach {xs : List α} {f : α → Act S σ ε Unit} (hf : ∀ x, (f x).Looks) :
    (Act.forEach xs f).Looks := by
  induction xs with
  | nil => exact pure ()
  | cons x xs ih => exact bind (hf x) fun _ => ih

lemma mapError {g : ε → ε'} (hm : m.Looks) : (m.mapError g).Looks := by
  intro s
  obtain ⟨o, ho⟩ := hm s
  refine ⟨o.mapError g, ?_⟩
  rw [Act.mapError, ho]
  rfl

lemma within {p : Part τ σ} (hm : m.Looks) (hp : ∀ t, p.put t (p.get t) = t) :
    (m.within p).Looks := by
  intro t
  obtain ⟨o, ho⟩ := hm (p.get t)
  refine ⟨o, ?_⟩
  rw [Act.within, ho, Program.bind, hp]

/-- From one state, after a look at it. -/
lemma before {s : σ} (hm : m.Looks) (hself : ∀ w ending, R w ending w)
    (hf : ∀ a, (m s).CanEnd (.ok a, s) →
      (f a).Ensures s fun o s' => R (watch s) o.ending (watch s')) :
    (m.bind f).Ensures s fun o s' => R (watch s) o.ending (watch s') := by
  obtain ⟨o, ho⟩ := hm s
  have hdone : m.Ensures s fun o' s' => (m s).CanEnd (o', s) ∧ s' = s := by
    refine .of_done ho ⟨?_, rfl⟩
    rw [ho]
    exact .done _
  refine Ensures.bind hdone ?_ ?_ ?_
  · rintro a _ ⟨hend, rfl⟩
    exact hf a hend
  · rintro e _ ⟨-, rfl⟩
    exact hself _ _
  · rintro w _ ⟨-, rfl⟩
    exact hself _ _

/-- Whatever is watched, it stays as it is. -/
lemma spares (h : m.Looks) : m.Spares watch := by
  intro s
  obtain ⟨o, ho⟩ := h s
  exact .of_done ho rfl

end Looks

end Act

end ExpertExchange
