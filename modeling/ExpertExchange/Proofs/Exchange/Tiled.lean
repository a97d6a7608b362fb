import ExpertExchange.Proofs.Exchange.Layout
import ExpertExchange.Proofs.Exchange.Planned
import Mathlib.Data.Set.Function

/-!
# Layouts leave nothing out

The ranges of an accepted layout tile its buffers: every byte of the fused buffer belongs to one
slice of one stage, and every byte of a stage buffer to one slice. The slices of a stage are dealt
to the ranks in order, equally many to each, and every stage has its turn.
-/

namespace ExpertExchange

namespace ByteRange

variable {ε ι : Type} {valid : ι → Prop} {range : ι → Outcome ε ByteRange} {index : ι → Nat}
  {size count : Nat}

/-- The ranges of the valid indices can be computed, no two of them have a byte in common, and
together they have the bytes below `total`. -/
structure Tiles (valid : ι → Prop) (range : ι → Outcome ε ByteRange) (total : Nat) : Prop where
  computed : ∀ i, valid i → ∃ r, range i = .ok r
  apart : ∀ i j r r', valid i → valid j → i ≠ j → range i = .ok r → range j = .ok r' →
    r.stop ≤ r'.start ∨ r'.stop ≤ r.start
  covers : ∀ x, x < total ↔ ∃ i r, valid i ∧ range i = .ok r ∧ r.start ≤ x ∧ x < r.stop

/-- Ranges of one size that are numbered without gaps and repetitions. -/
lemma tiles_of_bijOn (hindex : Set.BijOn index (Set.ofPred valid) (Set.Iio count))
    (hrange : ∀ i, valid i → range i = .ok ⟨index i * size, index i * size + size⟩) :
    Tiles valid range (count * size) := by
  constructor
  · intro i hi
    exact ⟨_, hrange i hi⟩
  · intro i j r r' hi hj hne hr hr'
    cases (hrange i hi).symm.trans hr
    cases (hrange j hj).symm.trans hr'
    have hdifferent : index i ≠ index j := fun heq => hne (hindex.injOn hi hj heq)
    rcases Nat.lt_or_gt_of_ne hdifferent with hlt | hlt
    · exact .inl (block_end_le size hlt)
    · exact .inr (block_end_le size hlt)
  · intro x
    constructor
    · intro hx
      -- There is a byte, so the ranges are not empty.
      have hsize : 0 < size := Nat.pos_of_mul_pos_left (Nat.lt_of_le_of_lt (Nat.zero_le x) hx)
      obtain ⟨i, hi, hk⟩ := hindex.surjOn (show x / size < count from div_lt_of_block hx)
      have hr := hrange i hi
      rw [hk] at hr
      exact ⟨i, _, hi, hr, Nat.div_mul_le_self x size, Nat.lt_div_mul_add hsize⟩
    · rintro ⟨i, r, hi, hr, -, hstop⟩
      cases (hrange i hi).symm.trans hr
      have hlt : index i < count := hindex.mapsTo hi
      exact Nat.lt_of_lt_of_le hstop (block_end_le size hlt)

end ByteRange

/-- The indices whose block is `r` are a block. -/
lemma filter_div_eq_range' {W m r : Nat} (hr : r < W) (hm : 0 < m) :
    (List.range (W * m)).filter (fun j => j / m = r) = List.range' (r * m) m := by
  have hbefore : (List.range' 0 (r * m)).filter (fun j => j / m = r) = [] := by
    apply List.filter_eq_nil_iff.2
    intro j hj
    have hlt : j / m < r := div_lt_of_block (by simpa using hj)
    simpa using Nat.ne_of_lt hlt
  have hinside : (List.range' (r * m) m).filter (fun j => j / m = r) = List.range' (r * m) m := by
    apply List.filter_eq_self.2
    intro j hj
    obtain ⟨k, hk, rfl⟩ := List.mem_range'.1 hj
    simpa using block_div hk
  have hafter :
      (List.range' ((r + 1) * m) ((W - (r + 1)) * m)).filter (fun j => j / m = r) = [] := by
    apply List.filter_eq_nil_iff.2
    intro j hj
    have hle : (r + 1) * m ≤ j := (List.mem_range'_1.1 hj).1
    have hlt : r + 1 ≤ j / m := (Nat.le_div_iff_mul_le hm).2 hle
    simpa using Nat.ne_of_gt hlt
  have hsplit : List.range (W * m) =
      List.range' 0 (r * m) ++ List.range' (r * m) m ++
        List.range' ((r + 1) * m) ((W - (r + 1)) * m) := by
    have hends : W * m = r * m + m + (W - (r + 1)) * m := by
      rw [← Nat.succ_mul, ← Nat.add_mul, Nat.add_sub_cancel' hr]
    rw [List.range_eq_range', hends, Nat.succ_mul, ← List.range'_append_1,
      ← List.range'_append_1, Nat.zero_add, Nat.zero_add]
  rw [hsplit, List.filter_append, List.filter_append, hbefore, hinside, hafter, List.nil_append,
    List.append_nil]

namespace Split

variable {total stages slices W m size capacity : Nat} {direction : Direction} {p : Split}

/-- Slice by slice and stage by stage, the slices are numbered without gaps and repetitions. -/
lemma bijOn_slice : Set.BijOn (fun i : Nat × Nat => i.1 * stages + i.2)
    {i | i.1 < slices ∧ i.2 < stages} (Set.Iio (stages * slices)) := by
  refine ⟨?_, ?_, ?_⟩
  · rintro ⟨j, s⟩ ⟨hj, hs⟩
    exact slice_lt hj hs
  · rintro ⟨j, s⟩ ⟨-, hs⟩ ⟨j', s'⟩ ⟨-, hs'⟩ heq
    have hdiv := congrArg (· / stages) heq
    have hmod := congrArg (· % stages) heq
    simp only [block_div hs, block_div hs', block_mod hs, block_mod hs'] at hdiv hmod
    rw [hdiv, hmod]
  · intro k hk
    have hstages : 0 < stages := Nat.pos_of_mul_pos_right (Nat.lt_of_le_of_lt (Nat.zero_le k) hk)
    exact ⟨(k / stages, k % stages), ⟨Nat.div_lt_of_lt_mul hk, Nat.mod_lt k hstages⟩,
      Nat.div_add_mod' k stages⟩

/-- What a layout of `total` bytes provides for. -/
structure Exhaustive (total : Nat) (p : Split) : Prop where
  fused : ByteRange.Tiles (fun i : Nat × Nat => i.1 < p.slices ∧ i.2 < p.stages)
    (fun i => (p.fusedRange i.1 i.2 : Outcome ExchangeError ByteRange)) total
  stage : ByteRange.Tiles (fun j => j < p.slices)
    (fun j => (p.stageRange j : Outcome ExchangeError ByteRange)) p.stageBytes
  peer_lt : ∀ j < p.slices, p.worldSize * j < Word.bound →
    ∃ n < p.worldSize, (p.peer j : Outcome ExchangeError Nat) = .ok n
  peer_mono : ∀ j k n n', j ≤ k → (p.peer j : Outcome ExchangeError Nat) = .ok n →
    (p.peer k : Outcome ExchangeError Nat) = .ok n' → n ≤ n'
  /-- Where the peers of all slices can be computed, every rank gets so many slices in a row. -/
  share : (∀ j < p.slices, p.worldSize * j < Word.bound) → ∀ r < p.worldSize,
    (List.range p.slices).filter (fun j => (p.peer j : Outcome ExchangeError Nat) = .ok r) =
      List.range' (r * (p.slices / p.worldSize)) (p.slices / p.worldSize)
  order : p.stageOrder.Perm (List.range p.stages)
  reversed : Direction.stageOrder .backward p.stages =
    (Direction.stageOrder .forward p.stages).reverse

lemma tiles_fused (hslices : stages * (W * m) < Word.bound)
    (hsmall : fusedLength W stages m size < Word.bound) :
    ByteRange.Tiles (fun i : Nat × Nat => i.1 < W * m ∧ i.2 < stages)
      (fun i => ((even W stages m size direction).fusedRange i.1 i.2 :
        Outcome ExchangeError ByteRange)) (fusedLength W stages m size) := by
  apply ByteRange.tiles_of_bijOn bijOn_slice
  rintro ⟨j, s⟩ ⟨hj, hs⟩
  exact fusedRange_eq hslices hsmall hj hs

lemma tiles_stage (hsmall : W * m * size < Word.bound) :
    ByteRange.Tiles (fun j => j < W * m)
      (fun j => ((even W stages m size direction).stageRange j :
        Outcome ExchangeError ByteRange)) (W * m * size) := by
  apply ByteRange.tiles_of_bijOn (Set.bijOn_id _)
  intro j hj
  exact stageRange_eq hsmall hj

lemma exhaustive_even (hworld : 0 < W) (hstages : 0 < stages) (hm : 0 < m)
    (hslices : stages * (W * m) < Word.bound) (hsmall : fusedLength W stages m size < Word.bound) :
    Exhaustive (fusedLength W stages m size) (even W stages m size direction) := by
  constructor
  · exact tiles_fused hslices hsmall
  · exact tiles_stage (Nat.lt_of_le_of_lt (stage_le_fused hstages) hsmall)
  · intro j hj hlt
    exact ⟨j / m, div_lt_of_block hj, peer_eq hworld hlt⟩
  · intro j k n n' hle hn hn'
    obtain ⟨product, hproduct, hn⟩ := Outcome.bind_eq_ok_iff.1 hn
    obtain ⟨product', hproduct', hn'⟩ := Outcome.bind_eq_ok_iff.1 hn'
    cases hn
    cases hn'
    rw [Word.mul_eq_ok hproduct, Word.mul_eq_ok hproduct']
    exact Nat.div_le_div_right (Nat.mul_le_mul_left _ hle)
  · intro hlt r hr
    have hshare : W * m / W = m := Nat.mul_div_cancel_left m hworld
    have hpeers : ∀ j ∈ List.range (W * m),
        decide (((even W stages m size direction).peer j : Outcome ExchangeError Nat) = .ok r) =
          decide (j / m = r) := by
      intro j hj
      simp [peer_eq hworld (hlt j (List.mem_range.1 hj))]
    change (List.range (W * m)).filter _ = List.range' (r * (W * m / W)) (W * m / W)
    rw [List.filter_congr hpeers, hshare]
    exact filter_div_eq_range' hr hm
  · cases direction with
    | forward => exact .refl _
    | backward => exact List.reverse_perm _
  · rfl

/-- An accepted layout of a buffer leaves no byte, slice or stage out, and has none twice. -/
theorem accepted_exhaustive (htotal : total < Word.bound)
    (h : create total stages slices W capacity direction = .ok p) : Exhaustive total p := by
  obtain ⟨hworld, hadmissible, hslices, rfl⟩ := admitted_of_create h
  obtain ⟨m, rfl⟩ := hadmissible.world_dvd
  obtain ⟨size, rfl⟩ := hadmissible.slices_dvd
  have hall := Nat.mul_pos hadmissible.stages_pos hadmissible.slices_pos
  have hm : 0 < m := Nat.pos_of_mul_pos_left hadmissible.slices_pos
  rw [Nat.mul_div_cancel_left size hall]
  exact exhaustive_even hworld hadmissible.stages_pos hm hslices htotal

/-- Two ranks, two stages of four slices each. -/
theorem accepted_exhaustive_four_slices :
    24 < Word.bound ∧ create 24 2 4 2 8 .backward = .ok ⟨2, 4, 2, 3, .backward⟩ ∧
      Exhaustive 24 ⟨2, 4, 2, 3, .backward⟩ := by
  have htotal : 24 < Word.bound := by decide
  have hcreate : create 24 2 4 2 8 .backward = .ok ⟨2, 4, 2, 3, .backward⟩ := by decide
  exact ⟨htotal, hcreate, accepted_exhaustive htotal hcreate⟩

end Split

end ExpertExchange
