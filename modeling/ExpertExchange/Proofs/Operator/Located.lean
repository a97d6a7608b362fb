import ExpertExchange.Operator.RunningLocation
import Mathlib.Tactic.Lemma

/-!
# Running locations of a routing

When each sample goes to one expert, the mask has a single one in each row. The running locations
of such a mask count: in the row of a sample and the column of an expert stands the number of
samples so far that went to the expert, less one. So a sample finds, in the column of its own
expert, how many samples went there before it.
-/

namespace ExpertExchange

namespace Word

lemma bmod_bound {x : Int} (hle : -(signedBound : Int) ≤ x) (hlt : x < (signedBound : Int)) :
    x.bmod bound = x := by
  have hbound : (bound : Int) = (signedBound : Int) * 2 := rfl
  apply Int.bmod_eq_of_le_mul_two
  · omega
  · omega

/-- A word below the signed bound is itself when it is read as a signed word. -/
lemma toSigned64_eq {n : Nat} (h : n < signedBound) : toSigned64 n = n := by
  apply bmod_bound
  · omega
  · omega

end Word

namespace RunningLocation

/-- The row of the mask of a sample that goes to the expert. -/
def oneHotRow (experts expert : Nat) : List Int :=
  (List.range experts).map fun column => if column = expert then 1 else 0

/-- The mask of a routing, row by row. -/
def oneHot (experts : Nat) (idx : List Nat) : List Int := idx.flatMap (oneHotRow experts)

/-- How many earlier samples go to the expert of the sample. -/
def earlier (idx : List Nat) (sample : Nat) : Nat := (idx.take sample).count (idx.getD sample 0)

/-- The locations after some samples. -/
def locationsAfter (experts : Nat) (done : List Nat) : List Int :=
  (List.range experts).map fun column => (done.count column : Int) - 1

variable {experts : Nat}

lemma length_oneHotRow (expert : Nat) : (oneHotRow experts expert).length = experts := by
  simp [oneHotRow]

lemma length_locationsAfter (done : List Nat) : (locationsAfter experts done).length = experts := by
  simp [locationsAfter]

lemma length_oneHot (idx : List Nat) : (oneHot experts idx).length = idx.length * experts := by
  induction idx with
  | nil => simp [oneHot]
  | cons e rest ih =>
    rw [oneHot, List.flatMap_cons, List.length_append, length_oneHotRow, ← oneHot, ih,
      List.length_cons, Nat.succ_mul, Nat.add_comm]

lemma locationsAfter_nil : locationsAfter experts [] = List.replicate experts (-1) := by
  simp [locationsAfter, List.map_const']

/-- One more sample adds one in the column of its expert. -/
lemma nextRow_oneHotRow {done : List Nat} (hfits : done.length < Word.signedBound) (expert : Nat) :
    nextRow (locationsAfter experts done) (oneHotRow experts expert) =
      locationsAfter experts (done ++ [expert]) := by
  apply List.ext_getElem
  · simp [nextRow, locationsAfter, oneHotRow]
  · intro column hlt hlt'
    have hcount : (done.count column : Int) ≤ done.length := by
      exact_mod_cast List.count_le_length
    have hcolumn : (locationsAfter experts (done ++ [expert])).get ⟨column, hlt'⟩ =
        (done.count column : Int) + (if column = expert then 1 else 0) - 1 := by
      by_cases hsame : column = expert
      · simp [locationsAfter, List.count_append, hsame]
      · have hother : ¬ expert = column := fun h => hsame h.symm
        simp [locationsAfter, List.count_append, hsame, List.count_singleton, hother]
    rw [List.get_eq_getElem] at hcolumn
    rw [hcolumn]
    simp only [nextRow, locationsAfter, oneHotRow, List.getElem_zipWith, List.getElem_map,
      List.getElem_range, wrappingAdd]
    rw [Word.bmod_bound]
    · omega
    · split <;> omega
    · split <;> omega

/-- The entry of a sample and a column, after the samples before the first row. -/
lemma rowsFrom_getElem? {done rest : List Nat} {sample column : Nat}
    (hfits : done.length + rest.length ≤ Word.signedBound) (hsample : sample < rest.length)
    (hcolumn : column < experts) :
    (rowsFrom experts rest.length (locationsAfter experts done)
      (oneHot experts rest))[sample * experts + column]? =
        some (((done ++ rest.take (sample + 1)).count column : Int) - 1) := by
  induction rest generalizing done sample with
  | nil => simp at hsample
  | cons expert rest ih =>
    rw [List.length_cons] at hfits
    have hrow : nextRow (locationsAfter experts done)
        ((oneHot experts (expert :: rest)).take experts) =
          locationsAfter experts (done ++ [expert]) := by
      rw [oneHot, List.flatMap_cons, List.take_left' (length_oneHotRow expert)]
      exact nextRow_oneHotRow (by omega) expert
    have hdrop : (oneHot experts (expert :: rest)).drop experts = oneHot experts rest := by
      rw [oneHot, List.flatMap_cons, List.drop_left' (length_oneHotRow expert), oneHot]
    rw [List.length_cons, rowsFrom, hrow, hdrop]
    cases sample with
    | zero =>
      rw [Nat.zero_mul, Nat.zero_add, List.getElem?_append_left (by
        rw [length_locationsAfter]
        exact hcolumn)]
      simp [locationsAfter, hcolumn]
    | succ sample =>
      have hindex : (sample + 1) * experts + column = experts + (sample * experts + column) := by
        rw [Nat.succ_mul]
        omega
      rw [hindex, List.getElem?_append_right (by simp [length_locationsAfter]),
        length_locationsAfter, Nat.add_sub_cancel_left]
      rw [ih (by simp; omega) (by simpa using hsample)]
      simp

/-- The mask of a routing is scanned to the end. -/
lemma run_oneHot {ε : Type} {idx : List Nat}
    (hmask : 8 * (idx.length * experts) ≤ Word.allocationBound) :
    (run (oneHot experts idx) idx.length experts : Outcome ε (List Int)) =
      .ok (rowsFrom experts idx.length (locationsAfter experts []) (oneHot experts idx)) := by
  have hword : idx.length * experts < Word.bound := by
    simp only [Word.allocationBound, Word.bound] at *
    omega
  have hcells : (Word.mul idx.length experts : Outcome ε Nat) = .ok (idx.length * experts) := by
    rw [Word.mul, Word.mul?, if_pos hword]
    rfl
  have hentries : idx.length * experts ≤ (oneHot experts idx).length :=
    Nat.le_of_eq (length_oneHot idx).symm
  rw [run, hcells, locationsAfter_nil]
  simp only [Outcome.bind, Outcome.ensureOrFault, if_pos hmask, if_pos hentries]

/-- In the column of its own expert, a sample finds how many went there before it. -/
lemma location_eq {idx : List Nat} (sample : Nat) (hfits : idx.length ≤ Word.signedBound)
    (hidx : ∀ expert ∈ idx, expert < experts) (hsample : sample < idx.length) :
    (rowsFrom experts idx.length (locationsAfter experts [])
      (oneHot experts idx))[sample * experts + idx.getD sample 0]? =
        some (earlier idx sample : Int) := by
  have hexpert : idx.getD sample 0 = idx[sample] := by simp [hsample]
  have hcolumn : idx.getD sample 0 < experts := by
    rw [hexpert]
    exact hidx _ (List.getElem_mem hsample)
  rw [rowsFrom_getElem? (by simpa using hfits) hsample hcolumn, List.nil_append,
    List.take_succ_eq_append_getElem hsample, List.count_append, earlier, hexpert]
  simp

end RunningLocation

end ExpertExchange
