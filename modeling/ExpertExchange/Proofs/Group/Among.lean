import ExpertExchange.Proofs.Bytes.Chunk
import ExpertExchange.Proofs.Group.Lockstep

/-!
# Rounds given by what goes from whom to whom

The rounds of all collectives are of one form: a table says which messages go from each rank to
each, everyone posts in the order of the targets and takes in the order of the sources. Such rounds
are balanced, whatever the table says.
-/

namespace ExpertExchange

open Move

variable {α : Type} {W m p q r : Nat} {out : Nat → Nat → List Bytes}

/-- The round of rank `r`, when the messages `out p q` go from `p` to `q`. -/
def Round.among (W : Nat) (out : Nat → Nat → List Bytes) (r : Nat) : Round where
  posts := (List.range W).flatMap fun q => (out r q).map (q, ·)
  takes := (List.range W).flatMap fun p => (out p r).map (p, ·)

lemma payloads_append (l l' : List (Nat × Bytes)) :
    payloads q (l ++ l') = payloads q l ++ payloads q l' := List.filterMap_append

lemma payloads_map_self (l : List Bytes) : payloads q (l.map (q, ·)) = l := by
  simp [payloads, List.filterMap_map]

/-- Of messages listed by rank, those of one rank. -/
lemma payloads_among (f : Nat → List Bytes) :
    payloads q ((List.range W).flatMap fun p => (f p).map (p, ·)) = if q < W then f q else [] := by
  induction W with
  | zero => rfl
  | succ W ih =>
    rw [List.range_succ, List.flatMap_append, payloads_append, ih, List.flatMap_singleton]
    by_cases hq : q = W
    · subst hq
      rw [if_neg (Nat.lt_irrefl q), if_pos (Nat.lt_succ_self q), payloads_map_self, List.nil_append]
    · have hnone : payloads q ((f W).map (W, ·)) = [] :=
        payloads_eq_nil (List.forall_mem_map.2 fun _ _ => Ne.symm hq)
      rw [hnone, List.append_nil]
      by_cases hlt : q < W
      · rw [if_pos hlt, if_pos (by omega)]
      · rw [if_neg hlt, if_neg (by omega)]

lemma balanced_among (W : Nat) (out : Nat → Nat → List Bytes) : Balanced W (Round.among W out) where
  inside r _ x hx := by
    obtain ⟨q, hq, hx⟩ := List.mem_flatMap.1 hx
    obtain ⟨b, _, rfl⟩ := List.mem_map.1 hx
    exact List.mem_range.1 hq
  taken p q hq := by
    simp only [Round.among, payloads_among, if_pos hq]

/-- Acts that go through the rounds of some tables, each as its rank has to. -/
lemma Lockstep.of_tables {σ ε : Type} {g : Bytes} {m : Nat → Act Net σ ε α} {s : Nat → σ}
    {Q : Nat → α → σ → Prop} (hW : 0 < W) (tables : List (Nat → Nat → List Bytes))
    (h : ∀ r < W, (m r).Runs g r (s r) (tables.map fun out => Round.among W out r) (Q r)) :
    Lockstep g W m s fun a s' => ∀ r < W, Q r (a r) (s' r) := by
  refine Lockstep.of_runs hW (tables.map (Round.among W)) ?_ fun r hr => ?_
  · intro F hF
    obtain ⟨out, -, rfl⟩ := List.mem_map.1 hF
    exact balanced_among W out
  · rw [List.map_map]
    exact h r hr

/-- Wherever an interleaving of the rounds of some tables leads, what lies in a mailbox is a message
of one of the tables. -/
lemma Crowd.mem_table_of_mailbox {σ ε : Type} {g : Bytes} {m : Nat → Act Net σ ε α} {s : Nat → σ}
    {Q : Nat → α → σ → Prop} {n : Network} {d : Crowd (Outcome ε α × σ)} {b : Bytes} (hW : 0 < W)
    (tables : List (Nat → Nat → List Bytes))
    (h : ∀ r < W, (m r).Runs g r (s r) (tables.map fun out => Round.among W out r) (Q r))
    (hn : n.Formed g) (hq : n.Quiet g) (hd : (Crowd.starting W m s n).Reaches d)
    (hmem : b ∈ d.network.mailbox g p q) : ∃ out ∈ tables, b ∈ out p q := by
  have hb : ∀ F ∈ tables.map (Round.among W), Balanced W F := by
    intro F hF
    obtain ⟨out, -, rfl⟩ := List.mem_map.1 hF
    exact balanced_among W out
  have hruns : ∀ r < W, (m r).Runs g r (s r) ((tables.map (Round.among W)).map (· r)) (Q r) := by
    intro r hr
    rw [List.map_map]
    exact h r hr
  obtain ⟨F, hF, htakes⟩ := Crowd.mem_takes_of_mailbox hW hb hruns hn hq hd hmem
  obtain ⟨out, hout, rfl⟩ := List.mem_map.1 hF
  obtain ⟨p', -, hp'⟩ := List.mem_flatMap.1 htakes
  obtain ⟨b', hb', heq⟩ := List.mem_map.1 hp'
  obtain ⟨rfl, rfl⟩ := Prod.mk.inj heq
  exact ⟨out, hout, hb'⟩

lemma flatMap_range_ite {k i : Nat} (hi : i < k) (f : Nat → List α) :
    ((List.range k).flatMap fun j => if j = i then f j else []) = f i := by
  induction k with
  | zero => omega
  | succ k ih =>
    rw [List.range_succ, List.flatMap_append, List.flatMap_singleton]
    by_cases hik : i = k
    · subst hik
      have hnone : ((List.range i).flatMap fun j => if j = i then f j else []) = [] := by
        rw [List.flatMap_eq_nil_iff]
        intro j hj
        have hj := List.mem_range.1 hj
        exact if_neg (by omega)
      rw [hnone, if_pos rfl, List.nil_append]
    · rw [ih (by omega), if_neg (Ne.symm hik), List.append_nil]

lemma flatMap_const_nil {β : Type} (l : List α) : l.flatMap (fun _ => ([] : List β)) = [] :=
  List.flatMap_eq_nil_iff.2 fun _ _ => rfl

lemma map_ite_singleton {β : Type} {p : Prop} [Decidable p] (f : α → β) (a : α) :
    (if p then [a] else []).map f = if p then [f a] else [] := by
  split <;> rfl

lemma map_filter_eq_flatMap {β : Type} (l : List α) (keep : α → Prop) [DecidablePred keep]
    (f : α → β) :
    (l.filter (decide <| keep ·)).map f = l.flatMap fun x => if keep x then [f x] else [] := by
  induction l with
  | nil => rfl
  | cons x l ih =>
    by_cases h : keep x
    · rw [List.filter_cons_of_pos (by simpa using h), List.flatMap_cons, if_pos h, List.map_cons,
        ih]
      rfl
    · rw [List.filter_cons_of_neg (by simpa using h), List.flatMap_cons, if_neg h, ih]
      rfl

lemma range_mul (W m : Nat) :
    List.range (W * m) = (List.range W).flatMap fun p => (List.range m).map fun k => p * m + k := by
  induction W with
  | zero => rw [Nat.zero_mul]; rfl
  | succ W ih =>
    rw [Nat.succ_mul, List.range_add, ih, List.range_succ, List.flatMap_append,
      List.flatMap_singleton]

/-- Dealing out indices to the ranks in order, `m` to each. -/
lemma map_dealt (f : Nat → Nat → α) :
    ((List.range (W * m)).map fun j => (j / m, f (j / m) (j % m))) =
      (List.range W).flatMap fun p => ((List.range m).map (f p)).map (p, ·) := by
  rw [range_mul, List.map_flatMap]
  refine congrArg (List.flatMap · (List.range W)) (funext fun p => ?_)
  rw [List.map_map, List.map_map]
  refine List.map_congr_left fun k hk => ?_
  have hk : k < m := List.mem_range.1 hk
  simp only [Function.comp_apply, block_div hk, block_mod hk]

end ExpertExchange
