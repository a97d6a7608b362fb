import ExpertExchange.Group.Crowd
import ExpertExchange.Proofs.Group.Mailbox
import Mathlib.Logic.Relation

/-!
# Interleavings of participants

`Settles` says of a crowd that every interleaving of its participants comes to an end, and what
holds then. No participant of a crowd that settles can wait forever.
-/

namespace ExpertExchange

namespace Crowd

variable {ρ : Type}

/-- Some interleaving leads from one crowd to the other. -/
def Reaches : Crowd ρ → Crowd ρ → Prop := Relation.ReflTransGen Step

/-- Whatever the interleaving, all participants come to an end, and then `Q` holds of their values,
in rank order, and of the network. -/
inductive Settles (Q : List ρ → Network → Prop) : Crowd ρ → Prop where
  | ended {vs : List ρ} {n : Network} (h : Q vs n) : Settles Q ⟨vs.map .done, n⟩
  | going {c : Crowd ρ} (possible : ∃ d, Step c d) (all : ∀ d, Step c d → Settles Q d) :
      Settles Q c

/-- All participants have come to an end, with these values. -/
def Ended (c : Crowd ρ) (vs : List ρ) : Prop := c.programs = vs.map .done

lemma Ended.not_step {c d : Crowd ρ} {vs : List ρ} (h : c.Ended vs) : ¬ Step c d := by
  rintro ⟨before, after, r, next, n, _⟩
  have hmem : Program.ask r next ∈ vs.map Program.done := by
    rw [← h]
    simp
  obtain ⟨v, _, hv⟩ := List.mem_map.1 hmem
  cases hv

lemma oneChild_of_step {c d : Crowd ρ} (h : Step c d) :
    Program.OneChild d.programs c.programs := by
  obtain ⟨before, after, r, next, n, _⟩ := h
  induction before with
  | nil => exact .here (.answered r next _)
  | cons p before ih => exact .later ih

lemma Settles.mono {Q Q' : List ρ → Network → Prop} {c : Crowd ρ} (h : c.Settles Q)
    (hQ : ∀ vs n, Q vs n → Q' vs n) : c.Settles Q' := by
  induction h with
  | ended h => exact .ended (hQ _ _ h)
  | going possible _ ih => exact .going possible ih

lemma Settles.of_reaches {Q : List ρ → Network → Prop} {c d : Crowd ρ} (h : c.Settles Q)
    (hd : c.Reaches d) : d.Settles Q := by
  induction hd with
  | refl => exact h
  | tail _ step ih =>
    cases ih with
    | ended _ => exact absurd step (Ended.not_step rfl)
    | going _ all => exact all _ step

/-- No reachable crowd is stuck: it has come to an end, or somebody can go on. -/
lemma Settles.progress {Q : List ρ → Network → Prop} {c d : Crowd ρ} (h : c.Settles Q)
    (hd : c.Reaches d) : (∃ vs, d.Ended vs) ∨ ∃ e, Step d e := by
  cases h.of_reaches hd with
  | ended _ => exact .inl ⟨_, rfl⟩
  | going possible _ => exact .inr possible

lemma Settles.of_ended {Q : List ρ → Network → Prop} {c d : Crowd ρ} {vs : List ρ}
    (h : c.Settles Q) (hd : c.Reaches d) (hvs : d.Ended vs) : Q vs d.network := by
  cases h.of_reaches hd with
  | ended h =>
    obtain rfl := (List.map_inj_right fun _ _ h => Program.done.inj h).1 hvs
    exact h
  | going possible _ =>
    obtain ⟨e, he⟩ := possible
    exact absurd he hvs.not_step

/-- Some interleaving comes to an end. -/
lemma Settles.exists_ended {Q : List ρ → Network → Prop} {c : Crowd ρ} (h : c.Settles Q) :
    ∃ d vs, c.Reaches d ∧ d.Ended vs := by
  induction h with
  | ended _ => exact ⟨_, _, .refl, rfl⟩
  | going possible _ ih =>
    obtain ⟨d, hd⟩ := possible
    obtain ⟨e, vs, he, hvs⟩ := ih d hd
    exact ⟨e, vs, .head hd he, hvs⟩

/-- No interleaving gets stuck before all participants have come to an end, one comes to an end, all
that do end with the same values, and none of these leaves a message in a mailbox of the group. -/
structure Orderly (g : Bytes) (c : Crowd ρ) : Prop where
  progress : ∀ d, c.Reaches d → (∃ vs, d.Ended vs) ∨ ∃ e, Step d e
  ends : ∃ d vs, c.Reaches d ∧ d.Ended vs
  agree : ∀ d d' vs vs', c.Reaches d → d.Ended vs → c.Reaches d' → d'.Ended vs' → vs = vs'
  quiet : ∀ d vs, c.Reaches d → d.Ended vs → d.network.Quiet g

lemma Settles.orderly {g : Bytes} {c : Crowd ρ} {last : List ρ}
    (h : c.Settles fun vs n => vs = last ∧ n.Quiet g) : c.Orderly g where
  progress _ hd := h.progress hd
  ends := h.exists_ended
  agree _ _ _ _ hd hvs hd' hvs' := (h.of_ended hd hvs).1.trans (h.of_ended hd' hvs').1.symm
  quiet _ _ hd hvs := (h.of_ended hd hvs).2

end Crowd

end ExpertExchange
