import ExpertExchange.Proofs.Bytes.Chunk
import ExpertExchange.Proofs.Operator.Located
import Mathlib.Algebra.BigOperators.Group.Finset.Basic
import Mathlib.Data.List.GetD

/-!
# Columns of running locations

The rows of running locations are added up one after the other, so that each column is made from the
same column of the mask alone. `column_rowsFrom` says so for any mask. A location is the sum of the
entries so far, less one and wrapped around; in a column of zeros and ones, the rows with a one are
numbered from zero on.
-/

namespace ExpertExchange

namespace RunningLocation

/-- A column of a matrix that is given row by row. -/
def column (samples batch col : Nat) (xs : List Int) : List Int :=
  (List.range samples).map fun sample => xs.getD (sample * batch + col) 0

def locationsFrom (before : Int) : List Int → List Int
  | [] => []
  | x :: xs => wrappingAdd before x :: locationsFrom (wrappingAdd before x) xs

def selected (mask locations : List Int) : List Int :=
  ((mask.zip locations).filter fun e => e.1 = 1).map (·.2)

variable {samples batch col : Nat} {before row entries : List Int}

lemma length_column (xs : List Int) : (column samples batch col xs).length = samples := by
  rw [column, List.length_map, List.length_range]

lemma getElem?_column {sample : Nat} (hsample : sample < samples) (batch col : Nat)
    (xs : List Int) :
    (column samples batch col xs)[sample]? = some (xs.getD (sample * batch + col) 0) := by
  rw [column, List.getElem?_map, List.getElem?_range hsample, Option.map_some]

lemma column_succ (samples batch col : Nat) (xs : List Int) :
    column (samples + 1) batch col xs =
      xs.getD col 0 :: column samples batch col (xs.drop batch) := by
  rw [column, List.range_succ_eq_map, List.map_cons, List.map_map, Nat.zero_mul, Nat.zero_add,
    column]
  refine congrArg (List.cons _) (List.map_congr_left ?_)
  intro sample _
  have hindex : (sample + 1) * batch + col = batch + (sample * batch + col) := by
    rw [Nat.succ_mul]
    omega
  rw [Function.comp_apply, hindex, List.getD_eq_getElem?_getD, List.getD_eq_getElem?_getD,
    List.getElem?_drop]

lemma column_map {f : Int → Int} (hf : f 0 = 0) (xs : List Int) :
    column samples batch col (xs.map f) = (column samples batch col xs).map f := by
  rw [column, column, List.map_map]
  refine List.map_congr_left ?_
  intro sample _
  rw [Function.comp_apply, ← List.getD_map xs 0 f, hf]

/-- The first entries of a column add up as they stand in the matrix. -/
lemma sum_column {sample : Nat} (hsample : sample < samples) (batch col : Nat) (xs : List Int) :
    ∑ j ∈ Finset.range (sample + 1), (column samples batch col xs).getD j 0 =
      ∑ j ∈ Finset.range (sample + 1), xs.getD (j * batch + col) 0 := by
  refine Finset.sum_congr rfl ?_
  intro j hj
  have hlt : j < samples := by
    have := Finset.mem_range.1 hj
    omega
  rw [List.getD_eq_getElem?_getD, getElem?_column hlt, Option.getD_some]

lemma length_nextRow (hbefore : before.length = batch) (hrow : batch ≤ row.length) :
    (nextRow before (row.take batch)).length = batch := by
  rw [nextRow, List.length_zipWith, List.length_take, hbefore]
  omega

lemma getD_nextRow (hcol : col < batch) (hbefore : before.length = batch)
    (hrow : batch ≤ row.length) :
    (nextRow before (row.take batch)).getD col 0 =
      wrappingAdd (before.getD col 0) (row.getD col 0) := by
  have hlt : col < (nextRow before (row.take batch)).length := by
    rw [length_nextRow hbefore hrow]
    exact hcol
  rw [List.getD_eq_getElem _ _ hlt, List.getD_eq_getElem _ _ (hbefore ▸ hcol),
    List.getD_eq_getElem _ _ (Nat.lt_of_lt_of_le hcol hrow)]
  simp only [nextRow, List.getElem_zipWith, List.getElem_take]

lemma length_rowsFrom (hbefore : before.length = batch)
    (hentries : samples * batch ≤ entries.length) :
    (rowsFrom batch samples before entries).length = samples * batch := by
  induction samples generalizing before entries with
  | zero => simp [rowsFrom]
  | succ samples ih =>
    rw [Nat.succ_mul] at hentries
    have hrow : (nextRow before (entries.take batch)).length = batch :=
      length_nextRow hbefore (by omega)
    have hrest : samples * batch ≤ (entries.drop batch).length := by
      rw [List.length_drop]
      omega
    rw [rowsFrom, List.length_append, ih hrow hrest, hrow, Nat.succ_mul, Nat.add_comm]

/-- Rows are added up column by column. -/
lemma column_rowsFrom (hcol : col < batch) (hbefore : before.length = batch)
    (hentries : samples * batch ≤ entries.length) :
    column samples batch col (rowsFrom batch samples before entries) =
      locationsFrom (before.getD col 0) (column samples batch col entries) := by
  induction samples generalizing before entries with
  | zero => rfl
  | succ samples ih =>
    rw [Nat.succ_mul] at hentries
    have hrow : batch ≤ entries.length := by omega
    have hrest : samples * batch ≤ (entries.drop batch).length := by
      rw [List.length_drop]
      omega
    have hlength := length_nextRow hbefore hrow
    rw [rowsFrom, column_succ, column_succ, locationsFrom, List.drop_left' hlength,
      List.getD_append _ _ _ _ (hlength.symm ▸ hcol), ih hlength hrest,
      getD_nextRow hcol hbefore hrow]

/-- A mask that fills the grid has its locations. -/
lemma run_eq {ε : Type} {mask : List Int} (hmask : mask.length = samples * batch)
    (hword : samples * batch < Word.bound) (hsmall : 8 * (samples * batch) ≤ Word.allocationBound) :
    (run mask samples batch : Outcome ε (List Int)) =
      .ok (rowsFrom batch samples (List.replicate batch (-1)) mask) := by
  simp only [run, Word.mul_eq hword, Outcome.bind, Outcome.ensureOrFault, if_pos hsmall,
    if_pos (Nat.le_of_eq hmask.symm)]

/-- Every location is a signed word. -/
lemma map_bmod_locationsFrom (before : Int) (xs : List Int) :
    (locationsFrom before xs).map (Int.bmod · Word.bound) = locationsFrom before xs := by
  induction xs generalizing before with
  | nil => rfl
  | cons x xs ih => rw [locationsFrom, List.map_cons, ih, wrappingAdd, Int.bmod_bmod]

/-- A location is the one before the column and all entries so far, wrapped around. -/
lemma getElem?_locationsFrom {sample : Nat} (before : Int) (xs : List Int)
    (hsample : sample < xs.length) :
    (locationsFrom before xs)[sample]? =
      some (Int.bmod (before + ∑ j ∈ Finset.range (sample + 1), xs.getD j 0) Word.bound) := by
  induction xs generalizing before sample with
  | nil => cases hsample
  | cons x xs ih =>
    cases sample with
    | zero => simp [locationsFrom, wrappingAdd]
    | succ sample =>
      have hsum : ∑ j ∈ Finset.range (sample + 2), (x :: xs).getD j 0 =
          x + ∑ j ∈ Finset.range (sample + 1), xs.getD j 0 := by
        rw [Finset.sum_range_succ', Int.add_comm]
        simp only [List.getD_cons_succ, List.getD_cons_zero]
      rw [locationsFrom, List.getElem?_cons_succ, ih _ (Nat.lt_of_succ_lt_succ hsample),
        wrappingAdd, Int.bmod_add_bmod, hsum, Int.add_assoc]

/-- The rows with a one are numbered in order, as long as their numbers are signed words. -/
lemma selected_locationsFrom (slot : Nat) {xs : List Int} (hbits : ∀ x ∈ xs, x = 0 ∨ x = 1)
    (hfits : slot + xs.length ≤ Word.signedBound) :
    selected xs (locationsFrom (slot - 1) xs) =
      (List.range' slot (xs.count 1)).map fun k : Nat => (k : Int) := by
  induction xs generalizing slot with
  | nil => rfl
  | cons x xs ih =>
    rw [List.length_cons] at hfits
    have hrest : ∀ y ∈ xs, y = 0 ∨ y = 1 := fun y hy => hbits y (List.mem_cons_of_mem x hy)
    rcases hbits x List.mem_cons_self with rfl | rfl
    · have hadd : wrappingAdd (slot - 1) 0 = slot - 1 := by
        rw [wrappingAdd, Int.add_zero]
        exact Word.bmod_bound (by omega) (by omega)
      rw [locationsFrom, hadd, List.count_cons_of_ne (by decide), ← ih slot hrest (by omega)]
      rfl
    · have hadd : wrappingAdd (slot - 1) 1 = slot := by
        rw [wrappingAdd, Int.sub_add_cancel]
        exact Word.bmod_bound (by omega) (by omega)
      have hnext : (slot : Int) = ((slot + 1 : Nat) : Int) - 1 := by omega
      rw [locationsFrom, hadd, List.count_cons_self, List.range'_succ, List.map_cons,
        ← ih (slot + 1) hrest (by omega), ← hnext]
      rfl

end RunningLocation

end ExpertExchange
