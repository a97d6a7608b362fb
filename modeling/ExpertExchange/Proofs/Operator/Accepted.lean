import ExpertExchange.Proofs.Operator.TopOne
import Mathlib.Data.Nat.Find

/-!
# Routings that are accepted

The caller means a routing in unbounded arithmetic: a sample with a slot below the capacity is kept,
its row starts at a product of sums, and the routing fits if every such row lies in the dispatched
values. The check works with words. Rows that leave the range of a word are told from those that
fit, at any size; the capacity, on the other hand, is compared as a signed word, and one that reads
as negative drops every sample.
-/

namespace ExpertExchange

namespace Word

lemma bound_eq : bound = signedBound * 2 := by decide

/-- Any other word is negative when it is read as a signed word. -/
lemma toSigned64_eq_sub {n : Nat} (hle : signedBound ≤ n) (hlt : n < bound) :
    toSigned64 n = (n : Int) - (bound : Int) := by
  have hbound := bound_eq
  rw [toSigned64, ← Int.sub_bmod_right]
  apply bmod_bound
  · omega
  · omega

end Word

namespace Routing

variable {op : String} {experts slots : List Int} {shape : DispatchShape}
  {len limit sample expert slot : Nat}

/-- The sample has this expert and this slot, neither of them negative, and the slot is below the
limit. -/
structure Kept (experts slots : List Int) (limit sample expert slot : Nat) : Prop where
  expert_at : experts[sample]? = some (expert : Int)
  slot_at : slots[sample]? = some (slot : Int)
  slot_lt : slot < limit

def rowStop (shape : DispatchShape) (expert slot : Nat) : Nat :=
  (expert * shape.capacity + slot + 1) * shape.hidden

lemma rowStop_eq (shape : DispatchShape) (expert slot : Nat) :
    rowStop shape expert slot = rowStart shape expert slot + shape.hidden := Nat.succ_mul _ _

/-- Every sample has an entry in both lists, and the rows of those that are kept lie inside `len`
values. -/
structure Admissible (experts slots : List Int) (shape : DispatchShape) (limit len : Nat) :
    Prop where
  experts_enough : shape.samples ≤ experts.length
  slots_enough : shape.samples ≤ slots.length
  inside : ∀ sample < shape.samples, ∀ expert slot, Kept experts slots limit sample expert slot →
    rowStop shape expert slot ≤ len

/-- The first sample that is kept and has a row that ends outside `len` values. -/
structure FirstOutside (experts slots : List Int) (shape : DispatchShape)
    (limit len sample expert slot : Nat) : Prop where
  sample_lt : sample < shape.samples
  kept : Kept experts slots limit sample expert slot
  outside : len < rowStop shape expert slot
  first : ∀ earlier < sample, ∀ expert slot, Kept experts slots limit earlier expert slot →
    rowStop shape expert slot ≤ len

/-- The offset that is reported for a row outside: where it starts, unless its end is not a word. -/
def reported (shape : DispatchShape) (expert slot : Nat) : Nat :=
  if rowStop shape expert slot < Word.bound then rowStart shape expert slot else Word.bound - 1

/-- Why a routing is refused: a list is too short, or a row lies outside; the first of them that
there is. -/
inductive Refusal (op : String) (experts slots : List Int) (shape : DispatchShape)
    (limit len : Nat) : OperatorError → Prop where
  | shortExperts (h : experts.length < shape.samples) :
    Refusal op experts slots shape limit len (.shapeMismatch op [shape.samples] [experts.length])
  | shortSlots (hexperts : shape.samples ≤ experts.length) (h : slots.length < shape.samples) :
    Refusal op experts slots shape limit len (.shapeMismatch op [shape.samples] [slots.length])
  | outside (hexperts : shape.samples ≤ experts.length) (hslots : shape.samples ≤ slots.length)
      {sample expert slot : Nat}
      (h : FirstOutside experts slots shape limit len sample expert slot) :
    Refusal op experts slots shape limit len
      (.indexOutOfRange op sample (reported shape expert slot) len)

/-- How the check of a routing ends when the slots below the limit are kept, and which rows the
samples then have. -/
structure Verdict (op : String) (experts slots : List Int) (shape : DispatchShape)
    (limit len : Nat) : Prop where
  accepted : ∀ r, create op experts slots shape len = .ok r ↔
    Admissible experts slots shape limit len ∧ r = ⟨experts, slots, shape⟩
  refused : ∀ cause, create op experts slots shape len = .error cause ↔
    Refusal op experts slots shape limit len cause
  decided : ∀ reason, create op experts slots shape len ≠ .fault reason
  rows : ∀ r, create op experts slots shape len = .ok r → ∀ sample < shape.samples, ∀ row,
    r.row? sample = some row ↔ ∃ expert slot, Kept experts slots limit sample expert slot ∧
      row = rowStart shape expert slot

/-- The slots below this one are kept. A capacity that is no signed word counts as negative. -/
def slotLimit (capacity : Nat) : Nat := if capacity < Word.signedBound then capacity else 0

lemma toSigned64_le_iff {capacity : Nat} (hcapacity : capacity < Word.bound) (slot : Nat) :
    Word.toSigned64 capacity ≤ (slot : Int) ↔ slotLimit capacity ≤ slot := by
  by_cases hsigned : capacity < Word.signedBound
  · rw [Word.toSigned64_eq hsigned, slotLimit, if_pos hsigned]
    omega
  · rw [Word.toSigned64_eq_sub (by omega) hcapacity, slotLimit, if_neg hsigned]
    omega

/-- The test of a sample, with the extents put in; unfolding the test further makes Lean compute
with the bound of a word. -/
lemma kept?_mk (experts slots : List Int) (shape : DispatchShape) (sample : Nat) :
    (Routing.mk experts slots shape).kept? sample =
      experts[sample]?.bind fun expert => slots[sample]?.bind fun slot =>
        if expert < 0 ∨ slot < 0 ∨ Word.toSigned64 shape.capacity ≤ slot then none
        else some (expert.toNat, slot.toNat) := rfl

/-- What is read off the lists for a sample. -/
lemma kept?_eq_some_iff (hcapacity : shape.capacity < Word.bound) :
    (Routing.mk experts slots shape).kept? sample = some (expert, slot) ↔
      Kept experts slots (slotLimit shape.capacity) sample expert slot := by
  have hlimit := toSigned64_le_iff hcapacity
  rw [kept?_mk]
  constructor
  · intro h
    obtain ⟨e, he, h⟩ := Option.bind_eq_some_iff.1 h
    obtain ⟨s, hs, h⟩ := Option.bind_eq_some_iff.1 h
    split at h
    · cases h
    · rename_i hin
      cases h
      have hexpert : (e.toNat : Int) = e := by omega
      have hslot : (s.toNat : Int) = s := by omega
      have hlt := hlimit s.toNat
      constructor
      · rw [hexpert]
        exact he
      · rw [hslot]
        exact hs
      · omega
  · intro h
    have hlt := h.slot_lt
    have hslot := hlimit slot
    have hin : ¬ ((expert : Int) < 0 ∨ (slot : Int) < 0 ∨
        Word.toSigned64 shape.capacity ≤ (slot : Int)) := by
      omega
    rw [h.expert_at, h.slot_at, Option.bind_some, Option.bind_some, if_neg hin,
      Int.toNat_natCast, Int.toNat_natCast]

section Checked

variable (hhidden : 0 < shape.hidden) (hcapacity : shape.capacity < Word.bound)
  (hlen : len < Word.bound)

include hcapacity in
lemma checkSample_of_dropped
    (h : ∀ expert slot, ¬ Kept experts slots (slotLimit shape.capacity) sample expert slot) :
    checkSample op ⟨experts, slots, shape⟩ len sample = .ok () := by
  have hdropped : (Routing.mk experts slots shape).kept? sample = none := by
    rw [Option.eq_none_iff_forall_ne_some]
    rintro ⟨expert, slot⟩ hkept
    exact h expert slot ((kept?_eq_some_iff hcapacity).1 hkept)
  rw [checkSample, hdropped]

include hhidden hcapacity hlen in
lemma checkSample_of_kept
    (h : Kept experts slots (slotLimit shape.capacity) sample expert slot) :
    checkSample op ⟨experts, slots, shape⟩ len sample =
      Outcome.ensure (rowStop shape expert slot ≤ len)
        (.indexOutOfRange op sample (reported shape expert slot) len) := by
  have hstop := rowStop_eq shape expert slot
  rw [checkSample, (kept?_eq_some_iff hcapacity).2 h]
  simp only [rowOffset?_eq_ite hhidden, reported]
  by_cases hstart : rowStart shape expert slot < Word.bound
  · rw [if_pos hstart, Option.bind_some, Word.add?, ← hstop]
    by_cases hword : rowStop shape expert slot < Word.bound
    · simp only [if_pos hword, Option.map_some]
    · have houtside : ¬ rowStop shape expert slot ≤ len := by omega
      simp only [if_neg hword, Option.map_none, Outcome.ensure, if_neg houtside]
  · have hword : ¬ rowStop shape expert slot < Word.bound := by omega
    have houtside : ¬ rowStop shape expert slot ≤ len := by omega
    simp only [if_neg hstart, if_neg hword, Option.bind_none, Outcome.ensure, if_neg houtside]

include hhidden hcapacity hlen in
/-- A sample passes when it is dropped, or its row lies inside. -/
lemma checkSample_of_inside
    (h : ∀ expert slot, Kept experts slots (slotLimit shape.capacity) sample expert slot →
      rowStop shape expert slot ≤ len) :
    checkSample op ⟨experts, slots, shape⟩ len sample = .ok () := by
  by_cases hkept : ∃ expert slot,
      Kept experts slots (slotLimit shape.capacity) sample expert slot
  · obtain ⟨expert, slot, hkept⟩ := hkept
    rw [checkSample_of_kept hhidden hcapacity hlen hkept, Outcome.ensure,
      if_pos (h expert slot hkept)]
  · simp only [not_exists] at hkept
    exact checkSample_of_dropped hcapacity hkept

end Checked

/-- The first sample that does not pass decides. -/
lemma checkSamples_of_first {r : Routing} {before after : List Nat} {cause : OperatorError}
    (hbefore : ∀ sample ∈ before, checkSample op r len sample = .ok ())
    (h : checkSample op r len sample = .error cause) :
    checkSamples op r len (before ++ sample :: after) = .error cause := by
  induction before with
  | nil => rw [List.nil_append, checkSamples, h, Outcome.bind]
  | cons earlier before ih =>
    rw [List.cons_append, checkSamples, hbefore earlier List.mem_cons_self, Outcome.bind]
    apply ih
    intro sample hmem
    exact hbefore sample (List.mem_cons_of_mem earlier hmem)

lemma range_eq_append_cons {n i : Nat} (h : i < n) :
    ∃ after, List.range n = List.range i ++ i :: after := by
  obtain ⟨rest, rfl⟩ := Nat.exists_eq_add_of_le (Nat.succ_le_of_lt h)
  exact ⟨(List.range rest).map (i + 1 + ·), by simp [List.range_add, List.range_succ]⟩

/-- Lists that are long enough leave it to the samples. -/
lemma create_of_enough (hexperts : shape.samples ≤ experts.length)
    (hslots : shape.samples ≤ slots.length) :
    create op experts slots shape len =
      (checkSamples op ⟨experts, slots, shape⟩ len (List.range shape.samples)).bind fun _ =>
        .ok ⟨experts, slots, shape⟩ := by
  simp only [create, checkLength, Outcome.ensure, if_pos hexperts, if_pos hslots, Outcome.bind]

/-- A routing that does not fit has a first sample that does not. -/
lemma admissible_or_refusal (op : String) (experts slots : List Int) (shape : DispatchShape)
    (limit len : Nat) :
    Admissible experts slots shape limit len ∨
      ∃ cause, Refusal op experts slots shape limit len cause := by
  rcases Nat.lt_or_ge experts.length shape.samples with hexperts | hexperts
  · exact .inr ⟨_, .shortExperts hexperts⟩
  rcases Nat.lt_or_ge slots.length shape.samples with hslots | hslots
  · exact .inr ⟨_, .shortSlots hexperts hslots⟩
  by_cases hout : ∃ sample, sample < shape.samples ∧ ∃ expert slot,
      Kept experts slots limit sample expert slot ∧ len < rowStop shape expert slot
  · classical
    obtain ⟨hsample, expert, slot, hkept, houtside⟩ := Nat.find_spec hout
    right
    refine ⟨_, .outside hexperts hslots ⟨hsample, hkept, houtside, ?_⟩⟩
    intro earlier hearlier expert' slot' hkept'
    by_contra hpast
    exact Nat.find_min hout hearlier
      ⟨by omega, expert', slot', hkept', by omega⟩
  · left
    constructor
    · exact hexperts
    · exact hslots
    · intro sample hsample expert slot hkept
      by_contra hpast
      exact hout ⟨sample, hsample, expert, slot, hkept, by omega⟩

section Verdict

variable (hhidden : 0 < shape.hidden) (hcapacity : shape.capacity < Word.bound)
  (hlen : len < Word.bound)
include hhidden hcapacity hlen

lemma create_of_admissible (op : String)
    (h : Admissible experts slots shape (slotLimit shape.capacity) len) :
    create op experts slots shape len = .ok ⟨experts, slots, shape⟩ := by
  have hsamples : checkSamples op ⟨experts, slots, shape⟩ len (List.range shape.samples) =
      .ok () := by
    apply checkSamples_eq
    intro sample hmem
    rw [List.mem_range] at hmem
    exact checkSample_of_inside hhidden hcapacity hlen (h.inside sample hmem)
  rw [create_of_enough h.experts_enough h.slots_enough, hsamples, Outcome.bind]

lemma create_of_refusal {cause : OperatorError}
    (h : Refusal op experts slots shape (slotLimit shape.capacity) len cause) :
    create op experts slots shape len = .error cause := by
  cases h with
  | shortExperts h =>
    simp only [create, checkLength, Outcome.ensure, if_neg (Nat.not_le.2 h), Outcome.bind]
  | shortSlots hexperts h =>
    simp only [create, checkLength, Outcome.ensure, if_pos hexperts, if_neg (Nat.not_le.2 h),
      Outcome.bind]
  | @outside hexperts hslots sample expert slot h =>
    obtain ⟨after, hrange⟩ := range_eq_append_cons h.sample_lt
    have hsample : checkSample op ⟨experts, slots, shape⟩ len sample =
        .error (.indexOutOfRange op sample (reported shape expert slot) len) := by
      rw [checkSample_of_kept hhidden hcapacity hlen h.kept, Outcome.ensure,
        if_neg (Nat.not_le.2 h.outside)]
    have hsamples : checkSamples op ⟨experts, slots, shape⟩ len (List.range shape.samples) =
        .error (.indexOutOfRange op sample (reported shape expert slot) len) := by
      rw [hrange]
      apply checkSamples_of_first _ hsample
      intro earlier hmem
      rw [List.mem_range] at hmem
      exact checkSample_of_inside hhidden hcapacity hlen (h.first earlier hmem)
    rw [create_of_enough hexperts hslots, hsamples, Outcome.bind]

/-- The rows of an accepted routing, in unbounded arithmetic. -/
lemma row?_eq_some_iff (h : Admissible experts slots shape (slotLimit shape.capacity) len)
    (hsample : sample < shape.samples) (row : Nat) :
    (Routing.mk experts slots shape).row? sample = some row ↔
      ∃ expert slot, Kept experts slots (slotLimit shape.capacity) sample expert slot ∧
        row = rowStart shape expert slot := by
  have hoffset : ∀ expert slot,
      Kept experts slots (slotLimit shape.capacity) sample expert slot →
        rowOffset? shape expert slot = some (rowStart shape expert slot) := by
    intro expert slot hkept
    have hinside := h.inside sample hsample expert slot hkept
    rw [rowStop_eq] at hinside
    rw [rowOffset?_eq_ite hhidden, if_pos (by omega)]
  rw [row?, Option.bind_eq_some_iff]
  constructor
  · rintro ⟨⟨expert, slot⟩, hkept, hrow⟩
    rw [kept?_eq_some_iff hcapacity] at hkept
    rw [hoffset expert slot hkept, Option.some.injEq] at hrow
    exact ⟨expert, slot, hkept, hrow.symm⟩
  · rintro ⟨expert, slot, hkept, rfl⟩
    exact ⟨(expert, slot), (kept?_eq_some_iff hcapacity).2 hkept, hoffset expert slot hkept⟩

/-- The check means what the caller means, but for the slots that it keeps. -/
lemma verdict (op : String) (experts slots : List Int) :
    Verdict op experts slots shape (slotLimit shape.capacity) len := by
  have hok : Admissible experts slots shape (slotLimit shape.capacity) len →
      create op experts slots shape len = .ok ⟨experts, slots, shape⟩ :=
    create_of_admissible hhidden hcapacity hlen op
  have herror : ∀ cause,
      Refusal op experts slots shape (slotLimit shape.capacity) len cause →
        create op experts slots shape len = .error cause := by
    intro cause h
    exact create_of_refusal hhidden hcapacity hlen h
  -- The check has one end only, so either of the two excludes the other.
  rcases admissible_or_refusal op experts slots shape (slotLimit shape.capacity) len with
    hadmissible | ⟨cause, hrefusal⟩
  · have hcreate := hok hadmissible
    constructor
    · intro r
      simp [hcreate, hadmissible, eq_comm]
    · intro cause
      constructor
      · intro h
        cases hcreate.symm.trans h
      · exact herror cause
    · intro reason h
      cases hcreate.symm.trans h
    · intro r h
      cases hcreate.symm.trans h
      intro sample hsample row
      exact row?_eq_some_iff hhidden hcapacity hlen hadmissible hsample row
  · have hcreate := herror cause hrefusal
    constructor
    · intro r
      constructor
      · intro h
        cases hcreate.symm.trans h
      · rintro ⟨hadmissible, -⟩
        cases hcreate.symm.trans (hok hadmissible)
    · intro cause'
      constructor
      · intro h
        cases hcreate.symm.trans h
        exact hrefusal
      · exact herror cause'
    · intro reason h
      cases hcreate.symm.trans h
    · intro r h
      cases hcreate.symm.trans h

end Verdict

/-- For all lists, every extent and every length: the check of a routing ends as unbounded
arithmetic says, with the error of the first sample outside, and the rows of an accepted routing are
exact. What counts as a slot is the exception: below half the range of a word all slots up to the
capacity are kept, but from there on none. -/
theorem create_verdict (op : String) (experts slots : List Int) (hhidden : 0 < shape.hidden)
    (hcapacity : shape.capacity < Word.bound) (hlen : len < Word.bound) :
    (shape.capacity < Word.signedBound → Verdict op experts slots shape shape.capacity len) ∧
      (Word.signedBound ≤ shape.capacity → Verdict op experts slots shape 0 len) := by
  have h := verdict hhidden hcapacity hlen op experts slots
  constructor
  · intro hsigned
    rwa [slotLimit, if_pos hsigned] at h
  · intro hnegative
    rwa [slotLimit, if_neg (Nat.not_lt.2 hnegative)] at h

/-- One sample in the last slot of its expert, and one dropped. -/
theorem create_verdict_two_samples :
    Verdict "sparse" [1, -1] [1, 0] ⟨2, 3, 2⟩ 2 12 ∧
      create "sparse" [1, -1] [1, 0] ⟨2, 3, 2⟩ 12 = .ok ⟨[1, -1], [1, 0], ⟨2, 3, 2⟩⟩ ∧
      (Routing.mk [1, -1] [1, 0] ⟨2, 3, 2⟩).row? 0 = some 9 :=
  ⟨(create_verdict "sparse" [1, -1] [1, 0] (by decide) (by decide) (by decide)).1 (by decide),
    by decide, by decide⟩

/-- With a capacity of half the range of a word, the first slot of the first expert is dropped. -/
theorem huge_capacity_drops :
    create "sparse" [0] [0] ⟨1, 1, Word.signedBound⟩ 1 = .ok ⟨[0], [0], ⟨1, 1, Word.signedBound⟩⟩ ∧
      (Routing.mk [0] [0] ⟨1, 1, Word.signedBound⟩).row? 0 = none ∧
      Kept [0] [0] Word.signedBound 0 0 0 ∧
      ¬ Verdict "sparse" [0] [0] ⟨1, 1, Word.signedBound⟩ Word.signedBound 1 := by
  have hkept : Kept [0] [0] Word.signedBound 0 0 0 := ⟨rfl, rfl, by decide⟩
  have hcreate : create "sparse" [0] [0] ⟨1, 1, Word.signedBound⟩ 1 =
      .ok ⟨[0], [0], ⟨1, 1, Word.signedBound⟩⟩ := by decide
  have hrow : (Routing.mk [0] [0] ⟨1, 1, Word.signedBound⟩).row? 0 = none := by decide
  refine ⟨hcreate, hrow, hkept, ?_⟩
  intro h
  have hsome := (h.rows _ hcreate 0 (by decide) 0).2 ⟨0, 0, hkept, rfl⟩
  cases hrow.symm.trans hsome

end Routing

end ExpertExchange
