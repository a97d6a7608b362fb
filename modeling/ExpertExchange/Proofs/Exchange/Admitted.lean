import ExpertExchange.Exchange.Split
import ExpertExchange.Proofs.Act.Ends
import ExpertExchange.Proofs.Bytes.Chunk

/-!
# Layouts that are accepted

The layout of a pipelined exchange is computed from counts that the caller chooses. Counts that do
not suit the group, the pool or the buffer are refused, and counts that do give the layout; in
between are counts that suit group and pool, but whose product is too large for a word.
-/

namespace ExpertExchange

namespace Split

variable {total stages slices W capacity : Nat} {direction : Direction} {p : Split}

/-- There are stages, each of them has an event slot, and in each of them every rank gets the same
positive number of slices. -/
structure Counts (stages slices W capacity : Nat) : Prop where
  stages_pos : 0 < stages
  stages_le : stages ≤ capacity
  slices_pos : 0 < slices
  world_dvd : W ∣ slices

/-- The counts suit the group and the pool, and the slices divide the fused buffer evenly. -/
structure Admissible (total stages slices W capacity : Nat) : Prop
    extends Counts stages slices W capacity where
  slices_dvd : stages * slices ∣ total

/-- The counts suit the group and the pool, but a word cannot count the slices of all stages. -/
structure Uncountable (stages slices W capacity : Nat) : Prop
    extends Counts stages slices W capacity where
  bound_le : Word.bound ≤ stages * slices

lemma Counts.lt_bound (h : Counts stages slices W capacity)
    (hcountable : ¬ Uncountable stages slices W capacity) : stages * slices < Word.bound :=
  Nat.lt_of_not_le fun hle => hcountable ⟨h, hle⟩

/-- The first checks find counts that do not suit the group or the pool. -/
lemma create_of_not_counts (hworld : 0 < W) (h : ¬ Counts stages slices W capacity)
    (direction : Direction) :
    ∃ why, create total stages slices W capacity direction = .error (.invalidSplit why) := by
  by_cases hstages : stages ≠ 0 ∧ stages ≤ capacity
  · by_cases hslices : slices ≠ 0
    · have hrest : slices % W ≠ 0 := by
        intro hzero
        apply h
        constructor
        · omega
        · exact hstages.2
        · omega
        · exact Nat.dvd_of_mod_eq_zero hzero
      exact ⟨.sliceCount slices W, by
        simp [create, Outcome.ensure, Outcome.bind, Word.mod, hstages, hslices, hrest,
          Nat.pos_iff_ne_zero.1 hworld]⟩
    · exact ⟨.sliceCount slices W, by
        simp [create, Outcome.ensure, Outcome.bind, hstages, hslices]⟩
  · exact ⟨.stageCount stages capacity, by
      simp only [create, Outcome.ensure, if_neg hstages, Outcome.bind]⟩

/-- What is left to do when the first checks pass. -/
lemma create_of_counts (hworld : 0 < W) (h : Counts stages slices W capacity)
    (direction : Direction) :
    create total stages slices W capacity direction =
      (Word.mul stages slices).bind fun all =>
      (Outcome.ensure (total % all = 0) (.invalidSplit (.unevenSlices total all))).bind fun _ =>
      .ok ⟨stages, slices, W, total / all, direction⟩ := by
  have hstages : stages ≠ 0 ∧ stages ≤ capacity := ⟨Nat.pos_iff_ne_zero.1 h.stages_pos, h.stages_le⟩
  have hrest : (Word.mod slices W : Outcome ExchangeError Nat) = .ok 0 := by
    rw [Word.mod, if_neg (Nat.pos_iff_ne_zero.1 hworld), Nat.mod_eq_zero_of_dvd h.world_dvd]
  rw [create, Outcome.ensure, if_pos hstages, Outcome.bind, Outcome.ensure,
    if_pos (Nat.pos_iff_ne_zero.1 h.slices_pos), Outcome.bind, hrest, Outcome.bind, Outcome.ensure,
    if_pos rfl, Outcome.bind]

lemma create_of_admissible (hworld : 0 < W) (h : Admissible total stages slices W capacity)
    (hlt : stages * slices < Word.bound) (direction : Direction) :
    create total stages slices W capacity direction =
      .ok ⟨stages, slices, W, total / (stages * slices), direction⟩ := by
  rw [create_of_counts hworld h.toCounts, Word.mul_eq hlt, Outcome.bind, Outcome.ensure,
    if_pos (Nat.mod_eq_zero_of_dvd h.slices_dvd), Outcome.bind]

lemma create_of_uneven (hworld : 0 < W) (h : Counts stages slices W capacity)
    (hlt : stages * slices < Word.bound) (huneven : ¬ stages * slices ∣ total)
    (direction : Direction) :
    create total stages slices W capacity direction =
      .error (.invalidSplit (.unevenSlices total (stages * slices))) := by
  have hrest : ¬ total % (stages * slices) = 0 := fun hzero =>
    huneven (Nat.dvd_of_mod_eq_zero hzero)
  rw [create_of_counts hworld h, Word.mul_eq hlt, Outcome.bind, Outcome.ensure, if_neg hrest,
    Outcome.bind]

lemma create_of_uncountable (hworld : 0 < W) (h : Uncountable stages slices W capacity)
    (direction : Direction) :
    create total stages slices W capacity direction = .fault none := by
  rw [create_of_counts hworld h.toCounts, Word.mul_fault h.bound_le, Outcome.bind]

/-- Counts that are neither accepted nor too many are refused. -/
lemma create_of_not_admissible (hworld : 0 < W) (h : ¬ Admissible total stages slices W capacity)
    (hcountable : ¬ Uncountable stages slices W capacity) (direction : Direction) :
    ∃ why, create total stages slices W capacity direction = .error (.invalidSplit why) := by
  by_cases hcounts : Counts stages slices W capacity
  · have huneven : ¬ stages * slices ∣ total := fun heven => h ⟨hcounts, heven⟩
    exact ⟨_, create_of_uneven hworld hcounts (hcounts.lt_bound hcountable) huneven _⟩
  · exact create_of_not_counts hworld hcounts direction

/-- The three ways in which the layout of an exchange comes out. -/
structure Verdict (total stages slices W capacity : Nat) (direction : Direction) : Prop where
  accepted : ∀ p, create total stages slices W capacity direction = .ok p ↔
    Admissible total stages slices W capacity ∧ stages * slices < Word.bound ∧
      p = ⟨stages, slices, W, total / (stages * slices), direction⟩
  refused : (∃ why, create total stages slices W capacity direction =
      .error (.invalidSplit why)) ↔
    ¬ Admissible total stages slices W capacity ∧ ¬ Uncountable stages slices W capacity
  faults : create total stages slices W capacity direction = .fault none ↔
    Uncountable stages slices W capacity

lemma verdict (hworld : 0 < W) (total stages slices capacity : Nat) (direction : Direction) :
    Verdict total stages slices W capacity direction := by
  by_cases huncountable : Uncountable stages slices W capacity
  · have hfault : create total stages slices W capacity direction = .fault none :=
      create_of_uncountable hworld huncountable direction
    have hle := huncountable.bound_le
    constructor
    · simp [hfault]
      omega
    · simp [hfault, huncountable]
    · simp [hfault, huncountable]
  · by_cases hadmissible : Admissible total stages slices W capacity
    · have hlt := hadmissible.toCounts.lt_bound huncountable
      have hok := create_of_admissible hworld hadmissible hlt direction
      constructor
      · simp [hok, hadmissible, hlt, eq_comm]
      · simp [hok, hadmissible]
      · simp [hok, huncountable]
    · obtain ⟨why, hwhy⟩ := create_of_not_admissible hworld hadmissible huncountable direction
      constructor
      · simp [hwhy, hadmissible]
      · simp [hwhy, hadmissible, huncountable]
      · simp [hwhy, huncountable]

end Split

end ExpertExchange
