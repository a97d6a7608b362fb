import ExpertExchange.Proofs.Act.Faultless

/-!
# Atomic acts

An atomic act changes its state only by succeeding. `Act.Atomic` tells the states in which it may
succeed and the condition under which it faults: the condition is exact, and neither an error nor a
fault leaves a trace in the state. Checks before the act keep it atomic, as long as nothing that
they refuse could have broken it.
-/

namespace ExpertExchange

namespace Act

variable {S : Service} {σ ε ε' α γ : Type}

/-- From the state `s` the act succeeds in a state that it may reach, or it leaves the state as it
is. It faults exactly when it breaks. -/
inductive Atomic (m : Act S σ ε Unit) (s : σ) (reaches : σ → Prop) (breaks : Prop) : Prop where
  | succeeds (s' : σ) (runs : m s = .done (.ok (), s')) (reached : reaches s') (sound : ¬ breaks)
  | refuses (e : ε) (runs : m s = .done (.error e, s)) (sound : ¬ breaks)
  | faults (runs : m s = .done (.fault none, s)) (broken : breaks)

variable {m : Act S σ ε α} {f : α → Act S σ ε Unit} {s : σ} {reaches : σ → Prop} {breaks : Prop}

/-- Checks that do not all pass end with the error of the first that does not. -/
lemma exists_forEach_error {xs : List γ} {check : γ → Act S σ ε Unit} {p : γ → Prop}
    (hpass : ∀ x ∈ xs, p x → check x s = .done (.ok (), s))
    (hstop : ∀ x ∈ xs, ¬ p x → ∃ e, check x s = .done (.error e, s)) (hnot : ¬ ∀ x ∈ xs, p x) :
    ∃ e, Act.forEach xs check s = .done (.error e, s) := by
  induction xs with
  | nil => simp at hnot
  | cons x xs ih =>
    by_cases hx : p x
    · simp only [List.forall_mem_cons, hx, true_and] at hnot
      obtain ⟨e, he⟩ := ih (fun y hy => hpass y (List.mem_cons_of_mem x hy))
        (fun y hy => hstop y (List.mem_cons_of_mem x hy)) hnot
      exact ⟨e, (bind_done (hpass x List.mem_cons_self hx)).trans he⟩
    · obtain ⟨e, he⟩ := hstop x List.mem_cons_self hx
      exact ⟨e, bind_error he⟩

namespace Atomic

lemma mono {m : Act S σ ε Unit} {reaches' : σ → Prop} (hm : m.Atomic s reaches breaks)
    (h : ∀ s', reaches s' → reaches' s') : m.Atomic s reaches' breaks := by
  cases hm with
  | succeeds s' runs reached sound => exact .succeeds s' runs (h s' reached) sound
  | refuses e runs sound => exact .refuses e runs sound
  | faults runs broken => exact .faults runs broken

/-- After an act that only looks at the state. -/
lemma after {a : α} (hm : m s = .done (.ok a, s)) (hf : (f a).Atomic s reaches breaks) :
    (m.bind f).Atomic s reaches breaks := by
  have hbind := bind_done (f := f) hm
  cases hf with
  | succeeds s' runs reached sound => exact .succeeds s' (hbind.trans runs) reached sound
  | refuses e runs sound => exact .refuses e (hbind.trans runs) sound
  | faults runs broken => exact .faults (hbind.trans runs) broken

/-- After a look that may be refused. -/
lemma look {o : Outcome ε α} (ho : o.Faultless) (hsound : breaks → ∃ a, o = .ok a)
    (hf : ∀ a, o = .ok a → (f a).Atomic s reaches breaks) :
    ((Act.ofOutcome o).bind f).Atomic s reaches breaks := by
  cases o with
  | ok a => exact .after rfl (hf a rfl)
  | error e =>
    refine .refuses e rfl ?_
    intro hbreaks
    obtain ⟨a, ha⟩ := hsound hbreaks
    cases ha
  | fault w => exact absurd rfl ho

/-- After checks of several things, up to the first that does not pass. -/
lemma checkAll {xs : List γ} {check : γ → Act S σ ε Unit} {f : Unit → Act S σ ε Unit}
    {p : γ → Prop} (hpass : ∀ x ∈ xs, p x → check x s = .done (.ok (), s))
    (hstop : ∀ x ∈ xs, ¬ p x → ∃ e, check x s = .done (.error e, s))
    (hsound : breaks → ∀ x ∈ xs, p x)
    (hf : (∀ x ∈ xs, p x) → (f ()).Atomic s reaches breaks) :
    ((Act.forEach xs check).bind f).Atomic s reaches breaks := by
  by_cases hall : ∀ x ∈ xs, p x
  · exact .after (forEach_done fun x hx => hpass x hx (hall x hx)) (hf hall)
  · obtain ⟨e, he⟩ := exists_forEach_error hpass hstop hall
    exact .refuses e (bind_error he) fun hbreaks => hall (hsound hbreaks)

/-- After checks of one property each. -/
lemma ensureAll {xs : List γ} {p : γ → Prop} [DecidablePred p] {e : γ → ε}
    {f : Unit → Act S σ ε Unit} (hsound : breaks → ∀ x ∈ xs, p x)
    (hf : (∀ x ∈ xs, p x) → (f ()).Atomic s reaches breaks) :
    ((Act.forEach xs fun x => Act.ensure (p x) (e x)).bind f).Atomic s reaches breaks := by
  refine checkAll (p := p) ?_ ?_ hsound hf
  · intro x _ hp
    exact ensure_done hp (e x) s
  · intro x _ hp
    exact ⟨e x, ensure_error hp (e x) s⟩

/-- After a check of what is found for each of several things. -/
lemma checkEach {xs : List γ} {find : γ → Outcome ε Nat} {value : γ → Nat} {p : Nat → Prop}
    [DecidablePred p] {e : Nat → ε} {f : Unit → Act S σ ε Unit}
    (hfind : ∀ x ∈ xs, find x = .ok (value x)) (hsound : breaks → ∀ x ∈ xs, p (value x))
    (hf : (∀ x ∈ xs, p (value x)) → (f ()).Atomic s reaches breaks) :
    ((Act.forEach xs fun x => (Act.ofOutcome (find x)).bind fun found =>
      Act.ensure (p found) (e found)).bind f).Atomic s reaches breaks := by
  refine checkAll (p := fun x => p (value x)) ?_ ?_ hsound hf
  · intro x hx hp
    exact (bind_done (outcome_done (hfind x hx) s)).trans (ensure_done hp _ s)
  · intro x hx hp
    exact ⟨e (value x), (bind_done (outcome_done (hfind x hx) s)).trans (ensure_error hp _ s)⟩

end Atomic

end Act

end ExpertExchange
