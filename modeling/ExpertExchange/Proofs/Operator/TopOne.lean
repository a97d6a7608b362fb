import ExpertExchange.Proofs.Operator.Dispatched
import ExpertExchange.Proofs.Operator.Located

/-!
# Dispatch to one expert

Each sample goes to one expert, at the location that the scan of the mask gives it. Within an expert
the locations of the samples are their order, so no two samples get the same slot, the slots are
taken without gaps until the expert is full, and the rows of the kept samples fit into the
dispatched values without overlap.
-/

namespace ExpertExchange

namespace RunningLocation

variable {idx : List Nat} {sample sample' : Nat}

/-- Of two samples of one expert, the later one finds more before it. -/
lemma earlier_lt (hlt : sample < sample') (hsample' : sample' < idx.length)
    (hsame : idx.getD sample 0 = idx.getD sample' 0) :
    earlier idx sample < earlier idx sample' := by
  have hsample : sample < idx.length := Nat.lt_trans hlt hsample'
  have hnext : (idx.take (sample + 1)).count (idx.getD sample 0) = earlier idx sample + 1 := by
    rw [List.take_succ_eq_append_getElem hsample, List.count_append, earlier]
    simp [hsample]
  have hmono : (idx.take (sample + 1)).count (idx.getD sample 0) ≤
      (idx.take sample').count (idx.getD sample 0) :=
    (List.take_sublist_take_left hlt).count_le _
  rw [hnext, hsame] at hmono
  exact hmono

/-- The location of every sample. -/
def locations (experts : Nat) (idx : List Nat) (cells : List Int) : List Int :=
  (List.range idx.length).map fun sample => cells.getD (sample * experts + idx.getD sample 0) 0

end RunningLocation

namespace Routing

open RunningLocation

/-- The slots that an expert gives to samples, in the order of the samples. -/
def slotsOf (r : Routing) (expert : Nat) : List Nat :=
  (List.range r.shape.samples).filterMap fun sample =>
    (r.kept? sample).bind fun kept => if kept.1 = expert then some kept.2 else none

/-- The routing of samples to one expert each, by the order of the samples. -/
def topOne (idx : List Nat) (capacity hidden : Nat) : Routing where
  experts := idx.map fun expert : Nat => (expert : Int)
  slots := (List.range idx.length).map fun sample => (earlier idx sample : Int)
  shape := ⟨idx.length, hidden, capacity⟩

variable {idx : List Nat} {experts capacity hidden sample : Nat}

/-- A sample is kept while its expert has room. -/
lemma kept?_topOne (hcapacity : capacity < Word.signedBound) (sample : Nat) :
    (topOne idx capacity hidden).kept? sample =
      if sample < idx.length ∧ earlier idx sample < capacity then
        some (idx.getD sample 0, earlier idx sample)
      else none := by
  rcases Nat.lt_or_ge sample idx.length with hlt | hge
  · have hslot : (topOne idx capacity hidden).slots[sample]? = some (earlier idx sample : Int) := by
      simp [topOne, hlt]
    have hexpert : (topOne idx capacity hidden).experts[sample]? =
        some ((idx.getD sample 0 : Nat) : Int) := by
      simp [topOne, hlt]
    have hsigned : Word.toSigned64 (topOne idx capacity hidden).shape.capacity = capacity :=
      Word.toSigned64_eq hcapacity
    rw [kept?, hslot, hexpert, hsigned]
    by_cases hroom : earlier idx sample < capacity
    · simp [hlt, hroom]
    · simp [hlt, hroom]
  · have hexpert : (topOne idx capacity hidden).experts[sample]? = none := by simp [topOne, hge]
    have hnot : ¬ (sample < idx.length ∧ earlier idx sample < capacity) := by omega
    rw [kept?, hexpert, if_neg hnot]
    rfl

/-- The slots of the experts lie in the dispatched values, one row after the other. -/
lemma stop_le {expert slot : Nat} (hidden : Nat) (hexpert : expert < experts)
    (hslot : slot < capacity) :
    (expert * capacity + slot) * hidden + hidden ≤ experts * capacity * hidden := by
  have hcapacity : expert * capacity + capacity ≤ experts * capacity := by
    have := Nat.mul_le_mul_right capacity (Nat.succ_le_of_lt hexpert)
    rwa [Nat.succ_mul] at this
  have hnext : expert * capacity + slot + 1 ≤ experts * capacity := by omega
  have := Nat.mul_le_mul_right hidden hnext
  rwa [Nat.succ_mul] at this

/-- Where the row of a slot starts is a word. -/
lemma rowOffset?_eq (shape : DispatchShape) {expert slot : Nat} (hhidden : 1 ≤ shape.hidden)
    (hlen : experts * shape.capacity * shape.hidden < Word.signedBound)
    (hexpert : expert < experts) (hslot : slot < shape.capacity) :
    rowOffset? shape expert slot = some ((expert * shape.capacity + slot) * shape.hidden) := by
  have hstop := stop_le shape.hidden hexpert hslot
  have hbound : Word.signedBound < Word.bound := by decide
  have hword : rowStart shape expert slot < Word.bound := by
    rw [rowStart]
    omega
  rw [rowOffset?_eq_ite hhidden, if_pos hword, rowStart]

lemma expert_lt (hidx : ∀ expert ∈ idx, expert < experts) (hsample : sample < idx.length) :
    idx.getD sample 0 < experts := by
  have hat : idx.getD sample 0 = idx[sample] := by simp [hsample]
  rw [hat]
  exact hidx _ (List.getElem_mem hsample)

/-- The row of a kept sample. -/
lemma row?_topOne (hhidden : 1 ≤ hidden) (hlen : experts * capacity * hidden < Word.signedBound)
    (hcapacity : capacity < Word.signedBound) (hidx : ∀ expert ∈ idx, expert < experts)
    (sample : Nat) :
    (topOne idx capacity hidden).row? sample =
      if sample < idx.length ∧ earlier idx sample < capacity then
        some ((idx.getD sample 0 * capacity + earlier idx sample) * hidden)
      else none := by
  rw [row?, kept?_topOne hcapacity]
  by_cases hkept : sample < idx.length ∧ earlier idx sample < capacity
  · rw [if_pos hkept, if_pos hkept]
    exact rowOffset?_eq ⟨idx.length, hidden, capacity⟩ hhidden hlen
      (expert_lt hidx hkept.1) hkept.2
  · rw [if_neg hkept, if_neg hkept]
    rfl

/-- No two samples have one slot of one expert. -/
lemma index_ne {sample sample' : Nat} (hne : sample ≠ sample') (hsample : sample < idx.length)
    (hsample' : sample' < idx.length) (hslot : earlier idx sample < capacity)
    (hslot' : earlier idx sample' < capacity) :
    idx.getD sample 0 * capacity + earlier idx sample ≠
      idx.getD sample' 0 * capacity + earlier idx sample' := by
  rcases Nat.lt_trichotomy (idx.getD sample 0) (idx.getD sample' 0) with hlt | heq | hgt
  · have := Nat.mul_le_mul_right capacity (Nat.succ_le_of_lt hlt)
    rw [Nat.succ_mul] at this
    omega
  · rw [heq]
    rcases Nat.lt_or_gt_of_ne hne with hbefore | hafter
    · have := earlier_lt hbefore hsample' heq
      omega
    · have := earlier_lt hafter hsample heq.symm
      omega
  · have := Nat.mul_le_mul_right capacity (Nat.succ_le_of_lt hgt)
    rw [Nat.succ_mul] at this
    omega

/-- The rows of kept samples lie in the values of the experts, and apart from each other. -/
lemma rowsApart_topOne (hhidden : 1 ≤ hidden)
    (hlen : experts * capacity * hidden < Word.signedBound)
    (hcapacity : capacity < Word.signedBound) (hidx : ∀ expert ∈ idx, expert < experts) :
    (topOne idx capacity hidden).RowsApart (experts * capacity * hidden) := by
  have hrow := row?_topOne hhidden hlen hcapacity hidx
  constructor
  · intro sample row hsome
    rw [hrow] at hsome
    by_cases hkept : sample < idx.length ∧ earlier idx sample < capacity
    · rw [if_pos hkept, Option.some.injEq] at hsome
      subst hsome
      exact stop_le hidden (expert_lt hidx hkept.1) hkept.2
    · rw [if_neg hkept] at hsome
      cases hsome
  · intro sample sample' row row' hne hsome hsome'
    rw [hrow] at hsome hsome'
    by_cases hkept : sample < idx.length ∧ earlier idx sample < capacity
    · by_cases hkept' : sample' < idx.length ∧ earlier idx sample' < capacity
      · rw [if_pos hkept, Option.some.injEq] at hsome
        rw [if_pos hkept', Option.some.injEq] at hsome'
        subst hsome hsome'
        have hindex := index_ne hne hkept.1 hkept'.1 hkept.2 hkept'.2
        rcases Nat.lt_or_gt_of_ne hindex with hlt | hgt
        · left
          have := Nat.mul_le_mul_right hidden (Nat.succ_le_of_lt hlt)
          rwa [Nat.succ_mul] at this
        · right
          have := Nat.mul_le_mul_right hidden (Nat.succ_le_of_lt hgt)
          rwa [Nat.succ_mul] at this
      · rw [if_neg hkept'] at hsome'
        cases hsome'
    · rw [if_neg hkept] at hsome
      cases hsome

/-- The slots that an expert gives to the first samples. -/
lemma slots_upto (hidden : Nat) (hcapacity : capacity < Word.signedBound) (expert : Nat)
    {count : Nat} (hcount : count ≤ idx.length) :
    ((List.range count).filterMap fun sample =>
      ((topOne idx capacity hidden).kept? sample).bind fun kept =>
        if kept.1 = expert then some kept.2 else none) =
      List.range (min ((idx.take count).count expert) capacity) := by
  induction count with
  | zero => simp
  | succ count ih =>
    have hlt : count < idx.length := hcount
    have hat : idx.getD count 0 = idx[count] := by simp [hlt]
    rw [List.range_succ, List.filterMap_append, ih (Nat.le_of_lt hlt),
      List.take_succ_eq_append_getElem hlt, List.count_append, List.filterMap_cons,
      List.filterMap_nil, kept?_topOne hcapacity, hat]
    by_cases hexpert : idx[count] = expert
    · have hearlier : earlier idx count = (idx.take count).count expert := by
        rw [earlier, hat, hexpert]
      rw [hearlier, hexpert, List.count_singleton_self]
      by_cases hroom : (idx.take count).count expert < capacity
      · rw [if_pos ⟨hlt, hroom⟩, Nat.min_eq_left (Nat.le_of_lt hroom), Nat.min_eq_left hroom,
          List.range_succ]
        simp
      · have hfull : ¬ (count < idx.length ∧ (idx.take count).count expert < capacity) :=
          fun h => hroom h.2
        rw [if_neg hfull, Nat.min_eq_right (by omega), Nat.min_eq_right (by omega)]
        simp
    · have hnone : [idx[count]].count expert = 0 := by
        rw [List.count_singleton]
        simp [hexpert]
      rw [hnone, Nat.add_zero]
      by_cases hkept : count < idx.length ∧ earlier idx count < capacity
      · simp [if_pos hkept, hexpert]
      · simp [if_neg hkept]

/-- An expert gives its slots in order, without gaps, until it is full. -/
lemma slotsOf_topOne (hcapacity : capacity < Word.signedBound) (expert : Nat) :
    (topOne idx capacity hidden).slotsOf expert =
      List.range (min (idx.count expert) capacity) := by
  have hall := slots_upto hidden hcapacity expert (Nat.le_refl idx.length)
  rwa [List.take_length] at hall

lemma checkSamples_eq {op : String} {r : Routing} {len : Nat} {samples : List Nat}
    (h : ∀ sample ∈ samples, checkSample op r len sample = .ok ()) :
    checkSamples op r len samples = .ok () := by
  induction samples with
  | nil => rfl
  | cons sample rest ih =>
    rw [checkSamples, h sample List.mem_cons_self]
    exact ih fun sample' hmem => h sample' (List.mem_cons_of_mem sample hmem)

/-- The routing is accepted. -/
lemma create_topOne (op : String) (hhidden : 1 ≤ hidden)
    (hlen : experts * capacity * hidden < Word.signedBound)
    (hcapacity : capacity < Word.signedBound) (hidx : ∀ expert ∈ idx, expert < experts) :
    create op (topOne idx capacity hidden).experts (topOne idx capacity hidden).slots
      (topOne idx capacity hidden).shape (experts * capacity * hidden) =
        .ok (topOne idx capacity hidden) := by
  have hsamples : ∀ sample ∈ List.range idx.length,
      checkSample op (topOne idx capacity hidden) (experts * capacity * hidden) sample =
        .ok () := by
    intro sample _
    rw [checkSample, kept?_topOne hcapacity]
    by_cases hkept : sample < idx.length ∧ earlier idx sample < capacity
    · have hoffset : rowOffset? (topOne idx capacity hidden).shape (idx.getD sample 0)
          (earlier idx sample) =
            some ((idx.getD sample 0 * capacity + earlier idx sample) * hidden) :=
        rowOffset?_eq ⟨idx.length, hidden, capacity⟩ hhidden hlen
          (expert_lt hidx hkept.1) hkept.2
      have hstop := stop_le hidden (expert_lt hidx hkept.1) hkept.2
      have hbound : Word.signedBound < Word.bound := by decide
      have hadd : Word.add? ((idx.getD sample 0 * capacity + earlier idx sample) * hidden)
          (topOne idx capacity hidden).shape.hidden =
            some ((idx.getD sample 0 * capacity + earlier idx sample) * hidden + hidden) :=
        if_pos (by simp only [topOne]; omega)
      simp only [if_pos hkept, hoffset, hadd, Option.bind_some, Option.map_some]
      exact if_pos hstop
    · rw [if_neg hkept]
  have hexperts : (topOne idx capacity hidden).experts.length = idx.length := by simp [topOne]
  have hslots : (topOne idx capacity hidden).slots.length = idx.length := by simp [topOne]
  have hcount : (topOne idx capacity hidden).shape.samples = idx.length := rfl
  have hchecked := checkSamples_eq hsamples
  simp only [create, checkLength, hexperts, hslots, hcount, Outcome.ensure, Nat.le_refl, if_true,
    Outcome.bind, hchecked]

end Routing

section Dispatch

open RunningLocation Routing

variable {α : Type} {experts capacity hidden : Nat} {idx : List Nat} {gates input before : List α}

/-- For every routing of samples to one expert each, the scan of its mask gives each sample the
number of earlier samples of its expert; the routing by these locations is accepted; a sample is
kept if that number is below the capacity; an expert gives its slots in order and without gaps until
it is full; the rows of kept samples do not overlap; and the forward operator adds to each of them
the gated values of its sample and changes nothing else. The mask and the dispatched values have
lengths that an allocation can have. -/
theorem topOne_dispatches (a : Arithmetic α) (op : String) (hexperts : 1 ≤ experts)
    (hhidden : 1 ≤ hidden) (hidx : ∀ expert ∈ idx, expert < experts)
    (hmask : 8 * (idx.length * experts) ≤ Word.allocationBound)
    (hlen : experts * capacity * hidden < Word.signedBound) (hgates : idx.length ≤ gates.length)
    (hinput : idx.length * hidden ≤ input.length) (hword : input.length < Word.bound)
    (hbefore : before.length = experts * capacity * hidden) :
    ∃ cells r, (run (oneHot experts idx) idx.length experts : Outcome OperatorError _) =
        .ok cells ∧
      (∀ sample < idx.length,
        cells[sample * experts + idx.getD sample 0]? = some (earlier idx sample : Int)) ∧
      create op (idx.map fun expert : Nat => (expert : Int)) (locations experts idx cells)
        ⟨idx.length, hidden, capacity⟩ before.length = .ok r ∧
      (∀ sample < idx.length, r.row? sample =
        if earlier idx sample < capacity then
          some ((idx.getD sample 0 * capacity + earlier idx sample) * hidden)
        else none) ∧
      (∀ expert, r.slotsOf expert = List.range (min (idx.count expert) capacity)) ∧
      r.RowsApart before.length ∧
      ∃ values, Dispatch.apply (Dispatch.forward a r gates input) before = (.ok (), values) ∧
        Dispatch.Added a r gates input before idx.length values := by
  have hcapacity : capacity < Word.signedBound := by
    have hgrows : capacity ≤ experts * capacity * hidden :=
      Nat.le_trans (Nat.le_mul_of_pos_left capacity hexperts)
        (Nat.le_mul_of_pos_right (experts * capacity) hhidden)
    omega
  have hfits : idx.length ≤ Word.signedBound := by
    have hgrows : idx.length ≤ idx.length * experts := Nat.le_mul_of_pos_right _ hexperts
    have hbound : Word.allocationBound < Word.signedBound := by decide
    omega
  have hlocation := fun sample => location_eq sample hfits hidx
  have hlocations : locations experts idx
      (rowsFrom experts idx.length (locationsAfter experts []) (oneHot experts idx)) =
        (topOne idx capacity hidden).slots := by
    apply List.map_congr_left
    intro sample hsample
    rw [List.getD_eq_getElem?_getD, hlocation sample (List.mem_range.1 hsample)]
    rfl
  have hrows := rowsApart_topOne hhidden hlen hcapacity hidx
  rw [← hbefore] at hrows
  refine ⟨_, topOne idx capacity hidden, run_oneHot hmask, hlocation, ?_, ?_,
    slotsOf_topOne hcapacity, hrows, ?_⟩
  · rw [hlocations, hbefore]
    exact create_topOne op hhidden hlen hcapacity hidx
  · intro sample hsample
    rw [row?_topOne hhidden hlen hcapacity hidx]
    simp only [hsample, true_and]
  · refine Dispatch.forward_adds a hrows hgates hinput hword ?_
    have hbound : Word.signedBound < Word.bound := by decide
    omega

/-- Three samples for two experts with one slot each. -/
theorem topOne_dispatches_three :
    (∀ expert ∈ [1, 1, 0], expert < 2) ∧ 8 * (3 * 2) ≤ Word.allocationBound ∧
    2 * 1 * 1 < Word.signedBound ∧ ∃ cells r,
      (run (oneHot 2 [1, 1, 0]) 3 2 : Outcome OperatorError _) = .ok cells ∧
      create "sparse" [1, 1, 0] (locations 2 [1, 1, 0] cells) ⟨3, 1, 1⟩ 2 = .ok r ∧
      r.slotsOf 0 = [0] ∧ r.slotsOf 1 = [0] ∧
      ∃ values, Dispatch.apply (Dispatch.forward .single r [1, 2, 3] [4, 5, 6]) [7, 8] =
        (.ok (), values) := by
  have hidx : ∀ expert ∈ [1, 1, 0], expert < 2 := by decide
  have hmask : 8 * (3 * 2) ≤ Word.allocationBound := by decide
  have hlen : 2 * 1 * 1 < Word.signedBound := by decide
  have hgates : [1, 1, 0].length ≤ [1, 2, 3].length := by decide
  have hinput : [1, 1, 0].length * 1 ≤ [4, 5, 6].length := by decide
  have hbefore : [7, 8].length = 2 * 1 * 1 := rfl
  obtain ⟨cells, r, hrun, -, hcreate, -, hslots, -, values, hforward, -⟩ :=
    topOne_dispatches .single "sparse" (by decide) (by decide) hidx hmask hlen hgates hinput
      (by decide) hbefore
  exact ⟨hidx, hmask, hlen, cells, r, hrun, hcreate, hslots 0, hslots 1, values, hforward⟩

end Dispatch

end ExpertExchange
