import ExpertExchange.Proofs.Exchange.Regrouped
import ExpertExchange.Proofs.Group.Among
import Mathlib.Data.Set.Function

/-!
# Regrouping is a transposition

Regrouping moves each chunk of the grid to a place of its own, so every byte of the grid is written
once, and nothing is written outside it. Regrouping again with the sides of the grid exchanged
moves every chunk back.
-/

namespace ExpertExchange

namespace Bytes

variable {size k n : Nat} {b b' : Bytes}

def written (parts : List (Nat × Bytes)) : List Nat :=
  parts.flatMap fun x => List.range' x.1 x.2.length

lemma drop_overwrite {offset : Nat} {src : Bytes} (hstop : offset + src.length ≤ n)
    (hn : n ≤ b.length) : (b.overwrite offset src).drop n = b.drop n := by
  have hbefore : (b.take offset ++ src).length = offset + src.length := by
    rw [List.length_append, List.length_take]
    omega
  rw [overwrite, List.drop_append, List.drop_eq_nil_of_le (by omega), List.nil_append,
    List.drop_drop, hbefore]
  congr 1
  omega

/-- What lies behind everything that is overwritten stays. -/
lemma drop_overwriteAll {parts : List (Nat × Bytes)} (hstop : ∀ x ∈ parts, x.1 + x.2.length ≤ n)
    (hn : n ≤ b.length) : (b.overwriteAll parts).drop n = b.drop n := by
  induction parts generalizing b with
  | nil => rfl
  | cons x parts ih =>
    have hx := hstop x List.mem_cons_self
    have hlength : (b.overwrite x.1 x.2).length = b.length := length_overwrite (by omega)
    rw [overwriteAll_cons, ih (fun y hy => hstop y (List.mem_cons_of_mem x hy)) (by omega),
      drop_overwrite hx hn]

/-- Two sequences that agree on their first chunks. -/
lemma take_eq_of_chunks (hb : k * size ≤ b.length) (hb' : k * size ≤ b'.length)
    (h : ∀ i < k, b.chunk size i = b'.chunk size i) : b.take (k * size) = b'.take (k * size) := by
  have hlength : (b.take (k * size)).length = k * size := by simpa using hb
  have hlength' : (b'.take (k * size)).length = k * size := by simpa using hb'
  apply ext_chunk hlength hlength'
  intro i hi
  have hend := block_end_le size hi
  apply List.ext_getElem?
  intro n
  have hchunk := congrArg (fun d => d[n]?) (h i hi)
  simp only [getElem?_chunk, List.getElem?_take] at hchunk ⊢
  by_cases hn : n < size
  · have hinside : i * size + n < k * size := by omega
    simpa only [hn, hinside, if_true] using hchunk
  · simp only [hn, if_false]

end Bytes

namespace Regroup

variable {size height width i : Nat} {input out : Bytes}

/-- Exchanging the sides of the grid inverts the permutation. -/
lemma target_target (hi : i < height * width) :
    target width height (target height width i) = i := by
  obtain ⟨j, k, hj, hk, rfl⟩ := exists_grid hi
  rw [target_grid hj, target_grid hk]

lemma bijOn_target : Set.BijOn (target height width) (Set.Iio (height * width))
    (Set.Iio (height * width)) := by
  refine ⟨?_, ?_, ?_⟩
  · intro i hi
    exact target_lt hi
  · intro i hi n hn h
    exact target_inj hi hn h
  · intro n hn
    have hn' : n < width * height := by simpa [Nat.mul_comm] using hn
    refine ⟨target width height n, ?_, target_target hn'⟩
    have := target_lt hn'
    rwa [Nat.mul_comm width] at this

lemma perm_map_target : ((List.range (height * width)).map (target height width)).Perm
    (List.range (height * width)) := by
  rw [List.perm_ext_iff_of_nodup]
  · intro n
    constructor
    · intro hn
      obtain ⟨i, hi, rfl⟩ := List.mem_map.1 hn
      exact List.mem_range.2 (target_lt (List.mem_range.1 hi))
    · intro hn
      obtain ⟨i, hi, rfl⟩ := bijOn_target.surjOn (List.mem_range.1 hn)
      exact List.mem_map.2 ⟨i, List.mem_range.2 hi, rfl⟩
  · apply List.Nodup.map_on _ List.nodup_range
    intro i hi n hn h
    exact target_inj (List.mem_range.1 hi) (List.mem_range.1 hn) h
  · exact List.nodup_range

/-- What regrouping writes, in order: each chunk with the position it goes to. -/
def moves (size height width : Nat) (input : Bytes) : List (Nat × Bytes) :=
  (List.range (height * width)).map fun i =>
    (target height width i * size, input.chunk size i)

lemma regrouped_eq : regrouped size height width input out =
    out.overwriteAll (moves size height width input) := rfl

/-- Every byte of the grid is written once. -/
lemma perm_written (hin : height * width * size ≤ input.length) :
    (Bytes.written (moves size height width input)).Perm
      (List.range (height * width * size)) := by
  have hparts : Bytes.written (moves size height width input) =
      ((List.range (height * width)).map (target height width)).flatMap fun n =>
        (List.range size).map fun t => n * size + t := by
    rw [Bytes.written, moves, List.flatMap_map, List.flatMap_map]
    apply List.flatMap_congr
    intro i hi
    rw [Bytes.length_chunk (chunk_end_le hin (List.mem_range.1 hi)), List.range'_eq_map_range]
  rw [hparts, range_mul (height * width) size]
  exact perm_map_target.flatMap_right _

lemma drop_regrouped (hin : height * width * size ≤ input.length)
    (hout : height * width * size ≤ out.length) :
    (regrouped size height width input out).drop (height * width * size) =
      out.drop (height * width * size) := by
  apply Bytes.drop_overwriteAll _ hout
  intro x hx
  obtain ⟨i, hi, rfl⟩ := List.mem_map.1 hx
  have hi := List.mem_range.1 hi
  have hend := block_end_le size (target_lt hi)
  simpa only [Bytes.length_chunk (chunk_end_le hin hi)] using hend

/-- The chunks of the input are those of the output, each at its new place; nothing else of the
output is different. -/
structure Transposed (size height width : Nat) (input out after : Bytes) : Prop where
  length : after.length = out.length
  chunk : ∀ i < height * width,
    after.chunk size (target height width i) = input.chunk size i
  rest : after.drop (height * width * size) = out.drop (height * width * size)

lemma transposed_regrouped (hin : height * width * size ≤ input.length)
    (hout : height * width * size ≤ out.length) :
    Transposed size height width input out (regrouped size height width input out) where
  length := length_regrouped hin hout
  chunk i hi := by
    obtain ⟨j, k, hj, hk, rfl⟩ := exists_grid hi
    rw [target_grid hj, chunk_regrouped hin hout hj hk]
  rest := drop_regrouped hin hout

/-- Of two transpositions, one after the other with the sides of the grid exchanged, the second
undoes the first. -/
lemma Transposed.take_eq {back after restored : Bytes}
    (h : Transposed size height width input out after)
    (h' : Transposed size width height after back restored)
    (hin : height * width * size ≤ input.length)
    (hback : height * width * size ≤ back.length) :
    restored.take (height * width * size) = input.take (height * width * size) := by
  have hrestored : height * width * size ≤ restored.length := by rw [h'.length]; exact hback
  apply Bytes.take_eq_of_chunks hrestored hin
  intro i hi
  have hplace : target height width i < width * height := by
    rw [Nat.mul_comm width]
    exact target_lt hi
  calc restored.chunk size i
      = restored.chunk size (target width height (target height width i)) := by
        rw [target_target hi]
    _ = after.chunk size (target height width i) := h'.chunk _ hplace
    _ = input.chunk size i := h.chunk i hi

/-- Regrouping a grid that fits does not fault. It writes each byte of the grid once, as the index
map is a permutation of the chunks, and leaves the rest of the output as it was. Whatever the
result is then regrouped into with the sides exchanged, the chunks of the input are back. -/
theorem run_transposes {ε : Type} (hcount : height * width < Word.bound)
    (hbytes : height * width * size < Word.bound)
    (hin : height * width * size ≤ input.length) (hout : height * width * size ≤ out.length) :
    Set.BijOn (target height width) (Set.Iio (height * width)) (Set.Iio (height * width)) ∧
    (Bytes.written (moves size height width input)).Perm (List.range (height * width * size)) ∧
    ∃ after, (run out input size height width : Outcome ε Unit × Bytes) = (.ok (), after) ∧
      after = out.overwriteAll (moves size height width input) ∧
      Transposed size height width input out after ∧
      ∀ back, height * width * size ≤ back.length →
        ∃ restored, (run back after size width height : Outcome ε Unit × Bytes) =
            (.ok (), restored) ∧
          restored.take (height * width * size) = input.take (height * width * size) ∧
          restored.drop (height * width * size) = back.drop (height * width * size) := by
  have hgrid : width * height = height * width := Nat.mul_comm width height
  have hfirst := transposed_regrouped hin hout
  refine ⟨bijOn_target, perm_written hin, _, run_eq hbytes hin hout hcount, regrouped_eq, hfirst,
    ?_⟩
  intro back hback
  have hafter : width * height * size ≤ (regrouped size height width input out).length := by
    rw [hgrid, hfirst.length]
    exact hout
  have hback' : width * height * size ≤ back.length := by rwa [hgrid]
  have hsecond := transposed_regrouped hafter hback'
  refine ⟨_, run_eq (by rwa [hgrid]) hafter hback' (by rwa [hgrid]),
    hfirst.take_eq hsecond hin hback, ?_⟩
  have hrest := hsecond.rest
  rwa [hgrid] at hrest

/-- A grid of two by three chunks of two bytes, in buffers with a byte to spare. -/
theorem run_transposes_two_by_three :
    2 * 3 < Word.bound ∧ 2 * 3 * 2 < Word.bound ∧
    ∃ after, (run (List.replicate 13 0) [0, 1, 2, 3, 4, 5, 6, 7, 8, 9, 10, 11, 12] 2 2 3 :
        Outcome DeviceError Unit × Bytes) = (.ok (), after) ∧
      Transposed 2 2 3 [0, 1, 2, 3, 4, 5, 6, 7, 8, 9, 10, 11, 12] (List.replicate 13 0) after ∧
      after = [0, 1, 4, 5, 8, 9, 2, 3, 6, 7, 10, 11, 0] := by
  have hcount : 2 * 3 < Word.bound := by decide
  have hbytes : 2 * 3 * 2 < Word.bound := by decide
  have hin : 2 * 3 * 2 ≤ ([0, 1, 2, 3, 4, 5, 6, 7, 8, 9, 10, 11, 12] : Bytes).length := by decide
  have hout : 2 * 3 * 2 ≤ (List.replicate 13 0 : Bytes).length := by decide
  obtain ⟨-, -, after, hrun, hafter, htransposed, -⟩ :=
    run_transposes (ε := DeviceError) hcount hbytes hin hout
  refine ⟨hcount, hbytes, after, hrun, htransposed, ?_⟩
  rw [hafter]
  decide

end Regroup

end ExpertExchange
