import ExpertExchange.Proofs.Exchange.Admitted

/-!
# Layouts that fit

When the counts of an exchange and the size of its buffers are words, none of the positions that
its layout computes overflows.
-/

namespace ExpertExchange

namespace Direction

variable {stages s : Nat}

lemma mem_stageOrder (d : Direction) : s ∈ d.stageOrder stages ↔ s < stages := by
  cases d <;> simp [stageOrder]

lemma nodup_stageOrder (d : Direction) : (d.stageOrder stages).Nodup := by
  cases d with
  | forward => exact List.nodup_range
  | backward => exact List.pairwise_reverse.2 (List.nodup_range.imp Ne.symm)

/-- Each stage runs once. -/
lemma new_stage {d : Direction} {finished rest : List Nat}
    (h : d.stageOrder stages = finished ++ s :: rest) : s < stages ∧ s ∉ finished := by
  have hnodup : (d.stageOrder stages).Nodup := d.nodup_stageOrder
  refine ⟨(mem_stageOrder d).1 (h ▸ by simp), fun hmem => ?_⟩
  rw [h, List.nodup_append] at hnodup
  exact hnodup.2.2 s hmem s List.mem_cons_self rfl

end Direction

namespace Split

variable {ε : Type} {W stages m size j s capacity : Nat} {direction : Direction}

/-- The layout of `m` slices for each of `W` ranks in each stage. -/
def even (W stages m size : Nat) (direction : Direction) : Split :=
  ⟨stages, W * m, W, size, direction⟩

/-- There are ranks, stages and slices, and not too many to be counted. -/
structure Feasible (W stages m : Nat) : Prop where
  world_pos : 0 < W
  stages_pos : 0 < stages
  share_pos : 0 < m
  slices_lt : stages * (W * m) < Word.bound
  peers_lt : W * (W * m) < Word.bound

lemma Feasible.slices_pos (h : Feasible W stages m) : 0 < W * m :=
  Nat.mul_pos h.world_pos h.share_pos

def fusedLength (W stages m size : Nat) : Nat := stages * (W * m) * size

lemma create_eq (h : Feasible W stages m) (hcapacity : stages ≤ capacity)
    (direction : Direction) :
    create (fusedLength W stages m size) stages (W * m) W capacity direction =
      .ok (even W stages m size direction) := by
  have hadmissible : Admissible (fusedLength W stages m size) stages (W * m) W capacity := {
    stages_pos := h.stages_pos
    stages_le := hcapacity
    slices_pos := h.slices_pos
    world_dvd := Nat.dvd_mul_right W m
    slices_dvd := Nat.dvd_mul_right (stages * (W * m)) size }
  have hall : 0 < stages * (W * m) := Nat.mul_pos h.stages_pos h.slices_pos
  rw [create_of_admissible h.world_pos hadmissible h.slices_lt, fusedLength,
    Nat.mul_div_cancel_left size hall, even]

lemma Feasible.peer_lt (h : Feasible W stages m) (hj : j < W * m) : W * j < Word.bound :=
  Nat.lt_trans (Nat.mul_lt_mul_of_pos_left hj h.world_pos) h.peers_lt

lemma peer_eq (hworld : 0 < W) (hlt : W * j < Word.bound) :
    ((even W stages m size direction).peer j : Outcome ε Nat) = .ok (j / m) := by
  simp only [peer, even, Word.mul_eq hlt, Outcome.bind, Nat.mul_div_mul_left j m hworld]

/-- Where slice `j` of a stage is among all slices. -/
lemma slice_lt {slices : Nat} (hj : j < slices) (hs : s < stages) :
    j * stages + s < stages * slices := by
  rw [Nat.mul_comm stages]
  exact block_lt hj hs

lemma slice_end_le (hj : j < W * m) (hs : s < stages) :
    (j * stages + s) * size + size ≤ fusedLength W stages m size :=
  block_end_le size (slice_lt hj hs)

lemma fusedRange_eq (hslices : stages * (W * m) < Word.bound)
    (hsmall : fusedLength W stages m size < Word.bound) (hj : j < W * m) (hs : s < stages) :
    ((even W stages m size direction).fusedRange j s : Outcome ε ByteRange) =
      .ok ⟨(j * stages + s) * size, (j * stages + s) * size + size⟩ := by
  have hindex := slice_lt hj hs
  have hend : (j * stages + s) * size + size ≤ _ := slice_end_le hj hs
  simp only [fusedRange, even, Word.mul_eq (show j * stages < Word.bound by omega), Outcome.bind,
    Word.add_eq (show j * stages + s < Word.bound by omega),
    Word.mul_eq (show (j * stages + s) * size < Word.bound by omega)]
  exact ByteRange.span_eq (by omega)

lemma stage_end_le (hj : j < W * m) : j * size + size ≤ W * m * size := block_end_le size hj

lemma stage_le_fused (h : 0 < stages) : W * m * size ≤ fusedLength W stages m size := by
  rw [fusedLength, Nat.mul_assoc stages]
  exact Nat.le_mul_of_pos_left _ h

lemma stageRange_eq (hsmall : W * m * size < Word.bound) (hj : j < W * m) :
    ((even W stages m size direction).stageRange j : Outcome ε ByteRange) =
      .ok ⟨j * size, j * size + size⟩ := by
  have hend : j * size + size ≤ W * m * size := stage_end_le hj
  simp only [stageRange, even, Word.mul_eq (show j * size < Word.bound by omega), Outcome.bind]
  exact ByteRange.span_eq (by omega)

end Split

end ExpertExchange
