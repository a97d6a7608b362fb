import ExpertExchange.Proofs.Act.Watched

/-!
# Acts without faults

An act is faultless where something is known of what is watched: from such states it does not end in
a fault, whatever the answers, and it leaves what is watched as it is, so that the next act starts
from such a state too.
-/

namespace ExpertExchange

/-- The call does not break: it succeeds, or has an error to report. -/
def Outcome.Faultless {ε α : Type} (o : Outcome ε α) : Prop := o.ending ≠ .fault

namespace Outcome.Faultless

variable {ε α β : Type}

lemma ok (a : α) : (Outcome.ok a : Outcome ε α).Faultless := nofun

lemma error (e : ε) : (Outcome.error e : Outcome ε α).Faultless := nofun

lemma orError (e : ε) (a : Option α) : (Outcome.orError e a).Faultless := by
  cases a with
  | none => exact error e
  | some a => exact ok a

lemma ensure (p : Prop) [Decidable p] (e : ε) : (Outcome.ensure p e).Faultless := by
  unfold Outcome.ensure
  by_cases hp : p
  · rw [if_pos hp]
    exact ok ()
  · rw [if_neg hp]
    exact error e

lemma bind {o : Outcome ε α} {f : α → Outcome ε β} (ho : o.Faultless)
    (hf : ∀ a, (f a).Faultless) : (o.bind f).Faultless := by
  cases o with
  | ok a => exact hf a
  | error e => exact error e
  | fault w => exact absurd rfl ho

end Outcome.Faultless

namespace Act

variable {S : Service} {σ τ ω ε ε' α β : Type} {watch : σ → ω} {I J : ω → Prop}
  {m : Act S σ ε α} {f : α → Act S σ ε β}

/-- If this holds of what is watched, then the act ends in no fault and spares what is watched. -/
def Faultless (watch : σ → ω) (I : ω → Prop) (m : Act S σ ε α) : Prop :=
  m.Changes watch fun w ending w' => I w → ending ≠ .fault ∧ w' = w

namespace Faultless

lemma chains : Chains fun (w : ω) (ending : Ending) w' => I w → ending ≠ .fault ∧ w' = w := by
  constructor
  · intro w _
    exact ⟨nofun, rfl⟩
  · intro w w₁ w₂ ending h h' hw
    obtain ⟨-, rfl⟩ := h hw
    exact h' hw

lemma mono (hm : m.Faultless watch I) (h : ∀ w, J w → I w) : m.Faultless watch J := by
  intro s
  exact (hm s).mono fun o s' hsafe hJ => hsafe (h _ hJ)

/-- What is ensured in the states of interest. -/
lemma of_ensures (h : ∀ s, I (watch s) →
    m.Ensures s fun o s' => o.ending ≠ .fault ∧ watch s' = watch s) : m.Faultless watch I :=
  fun s o s' hend hI => h s hI o s' hend

lemma ensures (hm : m.Faultless watch I) {s : σ} (hI : I (watch s)) :
    m.Ensures s fun o s' => o.ending ≠ .fault ∧ watch s' = watch s :=
  fun o s' hend => hm s o s' hend hI

lemma pure (a : α) : (Pure.pure a : Act S σ ε α).Faultless watch I := Changes.pure chains a

lemma ofOutcome {o : Outcome ε α} (ho : o.ending ≠ .fault) :
    (Act.ofOutcome o : Act S σ ε α).Faultless watch I := by
  intro s
  exact .of_done rfl fun _ => ⟨ho, rfl⟩

lemma fail (e : ε) : (Act.fail e : Act S σ ε α).Faultless watch I := by
  intro s
  exact .of_done rfl fun _ => ⟨nofun, rfl⟩

lemma view (g : σ → α) : (Act.view g : Act S σ ε α).Faultless watch I := by
  intro s
  exact .of_done rfl fun _ => ⟨nofun, rfl⟩

lemma modify {g : σ → σ} (hg : ∀ s, watch (g s) = watch s) :
    (Act.modify g : Act S σ ε Unit).Faultless watch I := by
  intro s
  exact .of_done rfl fun _ => ⟨nofun, hg s⟩

lemma request (r : S.Request) :
    (Act.request r : Act S σ ε (S.Answer r)).Faultless watch I := by
  intro s o s' hend
  cases hend with
  | ask x h =>
    cases Program.canEnd_done_iff.1 h
    exact fun _ => ⟨nofun, rfl⟩

lemma ite {p : Prop} [Decidable p] {m' : Act S σ ε α} (h : m.Faultless watch I)
    (h' : m'.Faultless watch I) : (if p then m else m').Faultless watch I := by
  by_cases hp : p
  · rw [if_pos hp]
    exact h
  · rw [if_neg hp]
    exact h'

lemma ensure (p : Prop) [Decidable p] (e : ε) :
    (Act.ensure p e : Act S σ ε Unit).Faultless watch I := ite (pure ()) (fail e)

lemma bind (hm : m.Faultless watch I) (hf : ∀ a, (f a).Faultless watch I) :
    (m.bind f).Faultless watch I := Changes.bind chains hm hf

/-- After an act that gives what the next one needs. -/
lemma bindGives {G : α → Prop} (hm : m.Faultless watch I)
    (hgives : ∀ s, I (watch s) → m.Gives s fun a _ => G a)
    (hf : ∀ a, G a → (f a).Faultless watch I) : (m.bind f).Faultless watch I := by
  refine of_ensures ?_
  intro s hI
  have hlater : ∀ a s', G a → (f a).Ensures s' fun o s'' =>
      I (watch s') → o.ending ≠ .fault ∧ watch s'' = watch s' := fun a s' ha => hf a ha s'
  exact fun o s' hend => Changes.afterGives chains hm (hgives s hI) hlater o s' hend hI

lemma forEach {xs : List α} {f : α → Act S σ ε Unit} (hf : ∀ x ∈ xs, (f x).Faultless watch I) :
    (Act.forEach xs f).Faultless watch I := Changes.forEach chains hf

end Faultless

end Act

end ExpertExchange
