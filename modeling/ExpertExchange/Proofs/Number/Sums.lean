import ExpertExchange.Number.Arithmetic
import Mathlib.Tactic.Choose
import Mathlib.Tactic.Lemma

/-!
# Sums with any addition of elements

Lists of elements are added one after the other to the first one. What the addition of two elements
does is of no importance: it need not be associative nor commutative, as that of floating-point
numbers is not. A sum of lists is the left fold of their elements, place by place.
-/

namespace ExpertExchange

namespace Number

variable {plus : Addition} {t : Dtype} {n W : Nat} {xs ys zs : List Nat} {part : Nat → List Nat}
  {ranks : List Nat}

/-- The sum of some contributions, added in order to the first one. -/
def sumAll? (plus : Addition) (t : Dtype) (part : Nat → List Nat) (ranks first : List Nat) :
    Option (List Nat) :=
  ranks.foldlM (fun sum p => addAll? plus t sum (part p)) first

/-- The left fold of some elements. -/
def foldAll? (plus : Addition) (t : Dtype) : List Nat → Option Nat
  | [] => none
  | x :: rest => rest.foldlM (plus t) x

lemma length_of_mapM {α β : Type} {f : α → Option β} {l : List α} {l' : List β}
    (h : l.mapM f = some l') : l'.length = l.length := by
  induction l generalizing l' with
  | nil =>
    obtain rfl : [] = l' := by simpa using h
    rfl
  | cons x l ih =>
    rw [List.mapM_cons] at h
    obtain ⟨y, -, hrest⟩ := Option.bind_eq_some_iff.1 h
    obtain ⟨ys, hys, hcons⟩ := Option.bind_eq_some_iff.1 hrest
    obtain rfl : y :: ys = l' := by simpa using hcons
    rw [List.length_cons, List.length_cons, ih hys]

lemma length_addAll? (h : addAll? plus t xs ys = some zs) (hlength : ys.length = xs.length) :
    zs.length = xs.length := by
  rw [length_of_mapM h, List.length_zip, hlength, Nat.min_self]

lemma length_sumAll? (h : sumAll? plus t part ranks xs = some zs)
    (hlength : ∀ p ∈ ranks, (part p).length = xs.length) : zs.length = xs.length := by
  induction ranks generalizing xs with
  | nil =>
    obtain rfl : xs = zs := by simpa [sumAll?] using h
    rfl
  | cons p ranks ih =>
    obtain ⟨ys, hys, hrest⟩ := Option.bind_eq_some_iff.1 h
    have hfirst := length_addAll? hys (hlength p List.mem_cons_self)
    rw [← hfirst]
    exact ih hrest fun q hq => hfirst.symm ▸ hlength q (List.mem_cons_of_mem p hq)

lemma addAll?_eq (hys : ys.length = xs.length) (hzs : zs.length = xs.length)
    (h : ∀ j < xs.length, plus t (xs.getD j 0) (ys.getD j 0) = some (zs.getD j 0)) :
    addAll? plus t xs ys = some zs := by
  induction xs generalizing ys zs with
  | nil =>
    obtain rfl := List.eq_nil_of_length_eq_zero hys
    obtain rfl := List.eq_nil_of_length_eq_zero hzs
    rfl
  | cons x xs ih =>
    obtain ⟨y, ys, rfl⟩ := List.exists_cons_of_length_eq_add_one hys
    obtain ⟨z, zs, rfl⟩ := List.exists_cons_of_length_eq_add_one hzs
    have hfirst : plus t x y = some z := h 0 (Nat.succ_pos _)
    have hrest : addAll? plus t xs ys = some zs := by
      apply ih
      · exact Nat.succ.inj hys
      · exact Nat.succ.inj hzs
      · exact fun j hj => h (j + 1) (Nat.succ_lt_succ hj)
    unfold addAll? at hrest ⊢
    simp [List.mapM_cons, hfirst, hrest]

lemma getD_map_range {f : Nat → Nat} {j : Nat} (hj : j < n) :
    ((List.range n).map f).getD j 0 = f j := by
  simp [List.getD_eq_getElem?_getD, hj]

/-- Contributions are summed element by element. -/
lemma sumAll?_eq (hlength : ∀ p ∈ ranks, (part p).length = xs.length)
    (hzs : zs.length = xs.length)
    (h : ∀ j < xs.length, ranks.foldlM (fun sum p => plus t sum ((part p).getD j 0))
      (xs.getD j 0) = some (zs.getD j 0)) : sumAll? plus t part ranks xs = some zs := by
  induction ranks generalizing xs with
  | nil =>
    have hsame : xs = zs := by
      apply List.ext_getElem hzs.symm
      intro j hj hj'
      have := h j hj
      simpa [List.getD_eq_getElem?_getD, hj, hj'] using this
    rw [hsame]
    rfl
  | cons p ranks ih =>
    have hstep : ∀ j < xs.length, ∃ y, plus t (xs.getD j 0) ((part p).getD j 0) = some y ∧
        ranks.foldlM (fun sum p => plus t sum ((part p).getD j 0)) y = some (zs.getD j 0) :=
      fun j hj => Option.bind_eq_some_iff.1 (h j hj)
    choose! y hadd hrest using hstep
    have hys : ((List.range xs.length).map y).length = xs.length := by simp
    have hfirst : addAll? plus t xs (part p) = some ((List.range xs.length).map y) := by
      apply addAll?_eq (hlength p List.mem_cons_self) hys
      intro j hj
      rw [getD_map_range hj]
      exact hadd j hj
    change (addAll? plus t xs (part p)).bind _ = some zs
    rw [hfirst]
    apply ih
    · exact fun q hq => (hlength q (List.mem_cons_of_mem p hq)).trans hys.symm
    · exact hzs.trans hys.symm
    · intro j hj
      rw [hys] at hj
      rw [getD_map_range hj]
      exact hrest j hj

/-- A sum starts with rank 0. -/
lemma range_eq_cons (hW : 0 < W) : List.range W = 0 :: List.range' 1 (W - 1) := by
  rw [List.range_eq_range', ← Nat.sub_add_cancel hW, List.range'_succ, Nat.add_sub_cancel]

/-- The sum over all ranks is the left fold in rank order, element by element. -/
lemma sumAll?_ranks {total : Nat → Nat} (hW : 0 < W) (hlength : ∀ p < W, (part p).length = n)
    (h : ∀ j < n, foldAll? plus t ((List.range W).map fun p => (part p).getD j 0) =
      some (total j)) :
    sumAll? plus t part (List.range' 1 (W - 1)) (part 0) = some ((List.range n).map total) := by
  have hfirst := hlength 0 hW
  have hranks : ∀ p ∈ List.range' 1 (W - 1), p < W := by
    intro p hp
    have := (List.mem_range'_1.1 hp).2
    omega
  apply sumAll?_eq
  · exact fun p hp => (hlength p (hranks p hp)).trans hfirst.symm
  · simp [hfirst]
  · intro j hj
    rw [hfirst] at hj
    have hfold := h j hj
    rw [range_eq_cons hW, List.map_cons, foldAll?, List.foldlM_map] at hfold
    rw [getD_map_range hj]
    exact hfold

end Number

end ExpertExchange
