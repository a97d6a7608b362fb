import ExpertExchange.Proofs.Operator.Dispatched
import Mathlib.Algebra.BigOperators.Fin
import Mathlib.Algebra.BigOperators.Ring.Finset
import Mathlib.Tactic.Ring

/-!
# The three operators are adjoint

Over a commutative ring the dispatched values depend on gates, samples and earlier values as one
trilinear form: a kept sample couples its gate, its values and its row, and a dropped sample
couples nothing. The forward operator adds this form to the dispatched values, and each of the
other two operators is its derivative in one argument. Rows may overlap: every sample adds its own
coupling, whatever the samples before it have added.
-/

namespace ExpertExchange

namespace Routing

variable {op : String} {r : Routing} {len sample row : Nat}

/-- The rows of the samples lie inside `len` values, and end at a word. -/
structure Fits (r : Routing) (len : Nat) : Prop where
  inside : ∀ sample < r.shape.samples, ∀ row, r.row? sample = some row →
    row + r.shape.hidden ≤ len
  word : ∀ sample < r.shape.samples, ∀ row, r.row? sample = some row →
    row + r.shape.hidden < Word.bound

lemma le_of_checkSample (h : checkSample op r len sample = .ok ())
    (hrow : r.row? sample = some row) :
    row + r.shape.hidden ≤ len ∧ row + r.shape.hidden < Word.bound := by
  obtain ⟨⟨expert, slot⟩, hkept, hoffset⟩ := Option.bind_eq_some_iff.1 hrow
  simp only [checkSample, hkept, hoffset, Option.bind_some] at h
  by_cases hword : row + r.shape.hidden < Word.bound
  · have hstop : Word.add? row r.shape.hidden = some (row + r.shape.hidden) := if_pos hword
    simp only [hstop, Option.map_some, Outcome.ensure] at h
    by_cases hle : row + r.shape.hidden ≤ len
    · exact ⟨hle, hword⟩
    · rw [if_neg hle] at h
      cases h
  · have hstop : Word.add? row r.shape.hidden = none := if_neg hword
    simp only [hstop, Option.map_none] at h
    cases h

lemma checkSample_of_checkSamples {samples : List Nat}
    (h : checkSamples op r len samples = .ok ()) :
    ∀ sample ∈ samples, checkSample op r len sample = .ok () := by
  induction samples with
  | nil => simp
  | cons sample rest ih =>
    obtain ⟨⟨⟩, hfirst, hrest⟩ := Outcome.bind_eq_ok_iff.1 h
    intro sample' hmem
    rcases List.mem_cons.1 hmem with rfl | hmem
    · exact hfirst
    · exact ih hrest sample' hmem

/-- A routing that is accepted has the shape that was asked for, and its rows fit. -/
lemma fits_of_create {experts slots : List Int} {shape : DispatchShape}
    (h : create op experts slots shape len = .ok r) : r.shape = shape ∧ r.Fits len := by
  obtain ⟨⟨⟩, -, h⟩ := Outcome.bind_eq_ok_iff.1 h
  obtain ⟨⟨⟩, -, h⟩ := Outcome.bind_eq_ok_iff.1 h
  obtain ⟨⟨⟩, hsamples, h⟩ := Outcome.bind_eq_ok_iff.1 h
  cases h
  have hall : ∀ sample < shape.samples,
      checkSample op ⟨experts, slots, shape⟩ len sample = .ok () :=
    fun sample hlt => checkSample_of_checkSamples hsamples sample (List.mem_range.2 hlt)
  constructor
  · rfl
  · constructor
    · intro sample hlt row hrow
      exact (le_of_checkSample (hall sample hlt) hrow).1
    · intro sample hlt row hrow
      exact (le_of_checkSample (hall sample hlt) hrow).2

end Routing

/-- The arithmetic of a commutative ring. -/
def Arithmetic.ofRing (α : Type) [CommRing α] : Arithmetic α := ⟨0, (· + ·), (· * ·)⟩

namespace Dispatch

variable {α : Type}

section Replaced

variable {values part : List α} {start i : Nat}

/-- The values with a part in place of those from `start` on. -/
def replaced (values : List α) (start : Nat) (part : List α) : List α :=
  values.take start ++ part ++ values.drop (start + part.length)

lemma length_replaced (hstop : start + part.length ≤ values.length) :
    (replaced values start part).length = values.length := by
  simp only [replaced, List.length_append, List.length_take, List.length_drop]
  omega

lemma getElem?_replaced_outside (hstop : start + part.length ≤ values.length)
    (hi : i < start ∨ start + part.length ≤ i) : (replaced values start part)[i]? = values[i]? := by
  rw [replaced, getElem?_replaced hstop, if_neg (by omega)]

end Replaced

variable [CommRing α]

section Sums

variable {values part : List α} {start len i : Nat}

lemma getD_replaced_inside (hstop : start + part.length ≤ values.length) (hi : i < part.length) :
    (replaced values start part).getD (start + i) 0 = part.getD i 0 := by
  rw [List.getD_eq_getElem?_getD, replaced, getElem?_replaced hstop, if_pos (by omega),
    Nat.add_sub_cancel_left, List.getD_eq_getElem?_getD]

/-- A value of a window. -/
lemma getElem?_window (hi : i < len) (hstop : start + len ≤ values.length) :
    ((values.drop start).take len)[i]? = some (values.getD (start + i) 0) := by
  have hlt : start + i < values.length := by omega
  simp [List.getElem?_take_of_lt hi, List.getElem?_drop, hlt]

def dot (count : Nat) (xs ys : List α) : α := ∑ i ∈ Finset.range count, xs.getD i 0 * ys.getD i 0

lemma sum_eq_sum_range (values : List α) :
    values.sum = ∑ i ∈ Finset.range values.length, values.getD i 0 := by
  rw [Finset.sum_range, ← Fin.sum_univ_getElem]
  apply Finset.sum_congr rfl
  intro i _
  simp

lemma foldl_zipWith_mul {xs ys : List α} (hlength : xs.length = ys.length) :
    (List.zipWith (· * ·) xs ys).foldl (· + ·) 0 = dot ys.length xs ys := by
  rw [← List.sum_eq_foldl, sum_eq_sum_range, List.length_zipWith, hlength, Nat.min_self]
  apply Finset.sum_congr rfl
  intro i hi
  rw [Finset.mem_range] at hi
  simp [List.getD_eq_getElem?_getD, hi, hlength]

/-- A sum with values that are zero outside a window. -/
lemma sum_window {f : Nat → α} {total : Nat} (g : Nat → α) (hstop : start + len ≤ total) :
    ∑ k ∈ Finset.range total, f k * (if start ≤ k ∧ k < start + len then g (k - start) else 0) =
      ∑ j ∈ Finset.range len, f (start + j) * g j := by
  obtain ⟨rest, rfl⟩ := Nat.exists_eq_add_of_le hstop
  have hbefore : ∑ k ∈ Finset.range start,
      f k * (if start ≤ k ∧ k < start + len then g (k - start) else 0) = 0 := by
    apply Finset.sum_eq_zero
    intro k hk
    rw [Finset.mem_range] at hk
    rw [if_neg (by omega), mul_zero]
  have hafter : ∑ k ∈ Finset.range rest, f (start + len + k) *
      (if start ≤ start + len + k ∧ start + len + k < start + len then
        g (start + len + k - start) else 0) = 0 := by
    apply Finset.sum_eq_zero
    intro k _
    rw [if_neg (by omega), mul_zero]
  rw [Finset.sum_range_add, Finset.sum_range_add, hbefore, hafter, zero_add, add_zero]
  apply Finset.sum_congr rfl
  intro j hj
  rw [Finset.mem_range] at hj
  rw [if_pos (by omega), Nat.add_sub_cancel_left]

/-- The product with values that do not change. -/
lemma dot_congr {old new : List α} (other : List α) (hsame : ∀ k < len, new[k]? = old[k]?) :
    dot len other new = dot len other old := by
  apply Finset.sum_congr rfl
  intro k hk
  rw [List.getD_eq_getElem?_getD (l := new), hsame k (Finset.mem_range.1 hk),
    ← List.getD_eq_getElem?_getD]

end Sums

/-- The coupling of a sample: its gate, times the dot product of its row with its values. -/
def coupling (r : Routing) (gates input dispatched : List α) (sample : Nat) : α :=
  match r.row? sample with
  | none => 0
  | some row => gates.getD sample 0 * ∑ j ∈ Finset.range r.shape.hidden,
      dispatched.getD (row + j) 0 * input.getD (sample * r.shape.hidden + j) 0

variable {r : Routing} {len sample row : Nat} {gates input dispatched values : List α}

lemma coupling_of_dropped (hrow : r.row? sample = none) :
    coupling r gates input dispatched sample = 0 := by
  rw [coupling, hrow]

lemma coupling_of_kept (hrow : r.row? sample = some row) :
    coupling r gates input dispatched sample = gates.getD sample 0 *
      ∑ j ∈ Finset.range r.shape.hidden,
        dispatched.getD (row + j) 0 * input.getD (sample * r.shape.hidden + j) 0 := by
  rw [coupling, hrow]

def couplings (r : Routing) (gates input dispatched : List α) (samples : Nat) : α :=
  ∑ sample ∈ Finset.range samples, coupling r gates input dispatched sample

lemma couplings_succ (r : Routing) (gates input dispatched : List α) (sample : Nat) :
    couplings r gates input dispatched (sample + 1) =
      couplings r gates input dispatched sample + coupling r gates input dispatched sample :=
  Finset.sum_range_succ _ sample

/-- Values that an operator has changed up to `stop`: their product with the other values of that
side is `total`. -/
structure Coupled (other before : List α) (stop : Nat) (total : α) (values : List α) : Prop where
  length : values.length = before.length
  product : dot stop other values = total
  kept : ∀ i, stop ≤ i → values[i]? = before[i]?

/-- A sample that is added to its row adds its coupling to the product with any other dispatched
values. -/
lemma forwardSample_couples (dispatched : List α) (hfits : r.Fits len)
    (hsample : sample < r.shape.samples) (hgates : r.shape.samples ≤ gates.length)
    (hinput : r.shape.samples * r.shape.hidden ≤ input.length)
    (hword : r.shape.samples * r.shape.hidden < Word.bound) (hvalues : len ≤ values.length) :
    ∃ next, forwardSample (.ofRing α) r gates input sample values = .done (.ok (), next) ∧
      Coupled dispatched values len
        (dot len dispatched values + coupling r gates input dispatched sample) next := by
  cases hrow : r.row? sample with
  | none =>
    refine ⟨values, ?_, rfl, ?_, fun _ _ => rfl⟩
    · unfold forwardSample
      rw [hrow]
      rfl
    · rw [coupling_of_dropped hrow, add_zero]
  | some row =>
    have hinside := hfits.inside sample hsample row hrow
    have hspan := block_end_le r.shape.hidden hsample
    obtain ⟨gate, hgate⟩ : ∃ gate, gates[sample]? = some gate :=
      ⟨_, List.getElem?_eq_getElem (by omega)⟩
    have hgateD : gates.getD sample 0 = gate := by simp [hgate]
    have hsource := window_eq input (by omega) (Nat.le_trans hspan hinput)
    have htarget := window_eq values (hfits.word sample hsample row hrow)
      (Nat.le_trans hinside hvalues)
    let part := List.zipWith (fun d x => d + gate * x) ((values.drop row).take r.shape.hidden)
      ((input.drop (sample * r.shape.hidden)).take r.shape.hidden)
    have hpart : part.length = r.shape.hidden := by
      simp only [part, List.length_zipWith, List.length_take, List.length_drop]
      omega
    have hroom : row + part.length ≤ values.length := by omega
    have hchange : ∀ k, (replaced values row part).getD k 0 = values.getD k 0 +
        if row ≤ k ∧ k < row + r.shape.hidden then
          gate * input.getD (sample * r.shape.hidden + (k - row)) 0 else 0 := by
      intro k
      by_cases hin : row ≤ k ∧ k < row + r.shape.hidden
      · obtain ⟨j, rfl⟩ := Nat.exists_eq_add_of_le hin.1
        have hj : j < r.shape.hidden := by omega
        have hold := getElem?_window hj (Nat.le_trans hinside hvalues)
        have hx := getElem?_window hj (Nat.le_trans hspan hinput)
        have hvalue : part.getD j 0 =
            values.getD (row + j) 0 + gate * input.getD (sample * r.shape.hidden + j) 0 := by
          simp only [part, List.getD_eq_getElem?_getD, List.getElem?_zipWith, hold, hx,
            Option.getD_some]
        rw [if_pos hin, getD_replaced_inside hroom (hpart.symm ▸ hj), hvalue,
          Nat.add_sub_cancel_left]
      · have hout : k < row ∨ row + part.length ≤ k := by omega
        rw [if_neg hin, List.getD_eq_getElem?_getD, getElem?_replaced_outside hroom hout,
          List.getD_eq_getElem?_getD, add_zero]
    refine ⟨replaced values row part, forwardSample_done hrow hgate hsource htarget,
      length_replaced hroom, ?_, ?_⟩
    · simp only [dot, hchange, mul_add, Finset.sum_add_distrib]
      rw [sum_window (fun j => gate * input.getD (sample * r.shape.hidden + j) 0) hinside,
        coupling_of_kept hrow, hgateD, Finset.mul_sum]
      congr 1
      apply Finset.sum_congr rfl
      intro j _
      ring
    · intro k hk
      exact getElem?_replaced_outside hroom (by omega)

/-- A sample that is read from its row gives its coupling in the product with any other values of
the sample. -/
lemma backwardDataSample_couples (input : List α) (hfits : r.Fits len)
    (hsample : sample < r.shape.samples) (hgates : r.shape.samples ≤ gates.length)
    (hdispatched : len ≤ dispatched.length)
    (hvalues : r.shape.samples * r.shape.hidden ≤ values.length) :
    ∃ values', backwardDataSample (.ofRing α) r gates dispatched sample values =
        .done (.ok (), values') ∧ values'.length = values.length ∧
      (∀ i, i < sample * r.shape.hidden ∨ sample * r.shape.hidden + r.shape.hidden ≤ i →
        values'[i]? = values[i]?) ∧
      ∑ j ∈ Finset.range r.shape.hidden, input.getD (sample * r.shape.hidden + j) 0 *
        values'.getD (sample * r.shape.hidden + j) 0 =
          coupling r gates input dispatched sample := by
  have hspan := block_end_le r.shape.hidden hsample
  cases hrow : r.row? sample with
  | none =>
    let part : List α := List.replicate r.shape.hidden 0
    have hpart : part.length = r.shape.hidden := List.length_replicate
    have hroom : sample * r.shape.hidden + part.length ≤ values.length := by omega
    refine ⟨replaced values (sample * r.shape.hidden) part, ?_, length_replaced hroom, ?_, ?_⟩
    · unfold backwardDataSample
      rw [hrow]
      rfl
    · intro i hi
      exact getElem?_replaced_outside hroom (by omega)
    · rw [coupling_of_dropped hrow]
      apply Finset.sum_eq_zero
      intro j hj
      rw [Finset.mem_range] at hj
      have hzero : part.getD j 0 = 0 := by simp [part, hj]
      rw [getD_replaced_inside hroom (hpart.symm ▸ hj), hzero, mul_zero]
  | some row =>
    have hinside := hfits.inside sample hsample row hrow
    obtain ⟨gate, hgate⟩ : ∃ gate, gates[sample]? = some gate :=
      ⟨_, List.getElem?_eq_getElem (by omega)⟩
    have hgateD : gates.getD sample 0 = gate := by simp [hgate]
    have hsource := window_eq dispatched (hfits.word sample hsample row hrow)
      (Nat.le_trans hinside hdispatched)
    have hgated : (Act.ofOutcome (valueAt gates sample) : ListAct α α) values =
        .done (.ok gate, values) := by
      rw [valueAt, hgate]
      rfl
    have hread : (Act.ofOutcome (window dispatched row r.shape.hidden) : ListAct α (List α))
        values = .done (.ok _, values) := Act.outcome_done hsource values
    let part := ((dispatched.drop row).take r.shape.hidden).map (gate * ·)
    have hpart : part.length = r.shape.hidden := by
      simp only [part, List.length_map, List.length_take, List.length_drop]
      omega
    have hroom : sample * r.shape.hidden + part.length ≤ values.length := by omega
    refine ⟨replaced values (sample * r.shape.hidden) part, ?_, length_replaced hroom, ?_, ?_⟩
    · unfold backwardDataSample
      rw [hrow]
      exact (Act.bind_done hgated).trans (Act.bind_done hread)
    · intro i hi
      exact getElem?_replaced_outside hroom (by omega)
    · rw [coupling_of_kept hrow, hgateD, Finset.mul_sum]
      apply Finset.sum_congr rfl
      intro j hj
      rw [Finset.mem_range] at hj
      have hold := getElem?_window hj (Nat.le_trans hinside hdispatched)
      have hvalue : part.getD j 0 = gate * dispatched.getD (row + j) 0 := by
        simp only [part, List.getD_eq_getElem?_getD, List.getElem?_map, hold, Option.map_some,
          Option.getD_some]
      rw [getD_replaced_inside hroom (hpart.symm ▸ hj), hvalue]
      ring

/-- A gate that is set to the dot product of its sample with the row gives the coupling in the
product with any other gate. -/
lemma backwardGateSample_couples (gates : List α) (hfits : r.Fits len)
    (hsample : sample < r.shape.samples) (hdispatched : len ≤ dispatched.length)
    (hinput : r.shape.samples * r.shape.hidden ≤ input.length)
    (hword : r.shape.samples * r.shape.hidden < Word.bound)
    (hvalues : r.shape.samples ≤ values.length) :
    ∃ values', backwardGateSample (.ofRing α) r dispatched input sample values =
        .done (.ok (), values') ∧ values'.length = values.length ∧
      (∀ i, i ≠ sample → values'[i]? = values[i]?) ∧
      gates.getD sample 0 * values'.getD sample 0 = coupling r gates input dispatched sample := by
  have hroom : ∀ {old : List α} (gate : α), old.length = values.length →
      sample + [gate].length ≤ old.length := by
    intro old gate hold
    rw [List.length_singleton]
    omega
  let cleared := replaced values sample [0]
  have hcleared : cleared.length = values.length := length_replaced (hroom 0 rfl)
  have hkept : ∀ i, i ≠ sample → cleared[i]? = values[i]? := by
    intro i hi
    apply getElem?_replaced_outside (hroom 0 rfl)
    rw [List.length_singleton]
    omega
  cases hrow : r.row? sample with
  | none =>
    have hzero : cleared.getD sample 0 = 0 :=
      getD_replaced_inside (i := 0) (hroom 0 rfl) Nat.one_pos
    refine ⟨cleared, ?_, hcleared, hkept, ?_⟩
    · unfold backwardGateSample
      rw [hrow]
      rfl
    · rw [hzero, mul_zero, coupling_of_dropped hrow]
  | some row =>
    have hinside := hfits.inside sample hsample row hrow
    have hspan := block_end_le r.shape.hidden hsample
    have hsource := window_eq input (by omega) (Nat.le_trans hspan hinput)
    have htarget := window_eq dispatched (hfits.word sample hsample row hrow)
      (Nat.le_trans hinside hdispatched)
    have hread : (Act.ofOutcome (window input (sample * r.shape.hidden) r.shape.hidden) :
        ListAct α (List α)) cleared = .done (.ok _, cleared) := Act.outcome_done hsource cleared
    have hfound : (Act.ofOutcome (window dispatched row r.shape.hidden) : ListAct α (List α))
        cleared = .done (.ok _, cleared) := Act.outcome_done htarget cleared
    let source := (input.drop (sample * r.shape.hidden)).take r.shape.hidden
    let target := (dispatched.drop row).take r.shape.hidden
    have hlength : source.length = r.shape.hidden ∧ target.length = r.shape.hidden := by
      simp only [source, target, List.length_take, List.length_drop]
      omega
    let gate := (List.zipWith (· * ·) target source).foldl (· + ·) 0
    have hgate : gate = ∑ j ∈ Finset.range r.shape.hidden,
        dispatched.getD (row + j) 0 * input.getD (sample * r.shape.hidden + j) 0 := by
      have hdot : gate = ∑ j ∈ Finset.range source.length, target.getD j 0 * source.getD j 0 :=
        foldl_zipWith_mul (hlength.2.trans hlength.1.symm)
      rw [hlength.1] at hdot
      rw [hdot]
      apply Finset.sum_congr rfl
      intro j hj
      rw [Finset.mem_range] at hj
      simp only [source, target, List.getD_eq_getElem?_getD (l := List.take _ _),
        getElem?_window hj (Nat.le_trans hspan hinput),
        getElem?_window hj (Nat.le_trans hinside hdispatched), Option.getD_some]
    have hset : (replaced cleared sample [gate]).getD sample 0 = gate :=
      getD_replaced_inside (i := 0) (hroom gate hcleared) Nat.one_pos
    refine ⟨replaced cleared sample [gate], ?_, (length_replaced (hroom gate hcleared)).trans
      hcleared, ?_, ?_⟩
    · unfold backwardGateSample
      rw [hrow]
      refine (Act.bind_done rfl).trans ((Act.bind_done hread).trans ?_)
      exact Act.bind_done hfound
    · intro i hi
      rw [← hkept i hi]
      apply getElem?_replaced_outside (hroom gate hcleared)
      rw [List.length_singleton]
      omega
    · rw [hset, hgate, coupling_of_kept hrow]

/-- The forward operator adds all couplings to the product with any dispatched values. -/
lemma forward_couples (dispatched : List α) (hfits : r.Fits len)
    (hgates : r.shape.samples ≤ gates.length)
    (hinput : r.shape.samples * r.shape.hidden ≤ input.length)
    (hword : r.shape.samples * r.shape.hidden < Word.bound) (hvalues : len ≤ values.length) :
    ∃ after, apply (forward (.ofRing α) r gates input) values = (.ok (), after) ∧
      Coupled dispatched values len (dot len dispatched values +
        couplings r gates input dispatched r.shape.samples) after := by
  have hchecked : (Act.ofOutcome (checkLengths DispatchKernel.forward.name r.shape gates.length
      input.length) : ListAct α Unit) values = .done (.ok (), values) :=
    Act.outcome_done (checkLengths_eq _ hgates hinput hword) values
  obtain ⟨after, hall, hcoupled⟩ : ∃ after,
      Act.forEach (List.range r.shape.samples) (forwardSample (.ofRing α) r gates input) values =
        .done (.ok (), after) ∧ Coupled dispatched values len (dot len dispatched values +
          couplings r gates input dispatched r.shape.samples) after := by
    apply Act.forEach_range_reaches (I := fun samples => Coupled dispatched values len
      (dot len dispatched values + couplings r gates input dispatched samples))
    · exact ⟨rfl, by simp [couplings], fun _ _ => rfl⟩
    · intro sample hsample now hnow
      obtain ⟨next, hrun, hnext⟩ := forwardSample_couples dispatched hfits hsample hgates hinput
        hword (hnow.length.symm ▸ hvalues)
      refine ⟨next, hrun, hnext.length.trans hnow.length, ?_, ?_⟩
      · rw [hnext.product, hnow.product, couplings_succ, add_assoc]
      · intro k hk
        rw [hnext.kept k hk, hnow.kept k hk]
  have hrun : forward (.ofRing α) r gates input values = .done (.ok (), after) :=
    (Act.bind_done hchecked).trans hall
  exact ⟨after, apply_eq_of_done hrun, hcoupled⟩

/-- Reading the samples from their rows gives all couplings in the product with any inputs. -/
lemma backwardData_couples (input : List α) (hfits : r.Fits len)
    (hgates : r.shape.samples ≤ gates.length) (hdispatched : len ≤ dispatched.length)
    (hword : r.shape.samples * r.shape.hidden < Word.bound)
    (hvalues : r.shape.samples * r.shape.hidden ≤ values.length) :
    ∃ after, apply (backwardData (.ofRing α) r gates dispatched) values = (.ok (), after) ∧
      Coupled input values (r.shape.samples * r.shape.hidden)
        (couplings r gates input dispatched r.shape.samples) after := by
  have hchecked : (Act.ofOutcome (checkLengths DispatchKernel.backwardData.name r.shape
      gates.length values.length) : ListAct α Unit) values = .done (.ok (), values) :=
    Act.outcome_done (checkLengths_eq _ hgates hvalues hword) values
  obtain ⟨after, hall, hcoupled⟩ : ∃ after,
      Act.forEach (List.range r.shape.samples) (backwardDataSample (.ofRing α) r gates dispatched)
        values = .done (.ok (), after) ∧ Coupled input values (r.shape.samples * r.shape.hidden)
          (couplings r gates input dispatched r.shape.samples) after := by
    apply Act.forEach_range_reaches (I := fun samples => Coupled input values
      (samples * r.shape.hidden) (couplings r gates input dispatched samples))
    · exact ⟨rfl, by simp [dot, couplings], fun _ _ => rfl⟩
    · intro sample hsample now hnow
      obtain ⟨next, hrun, hlength, hkept, hcoupling⟩ := backwardDataSample_couples input hfits
        hsample hgates hdispatched (hnow.length.symm ▸ hvalues)
      refine ⟨next, hrun, hlength.trans hnow.length, ?_, ?_⟩
      · -- The values of the samples before this one are not written again.
        have hbefore := dot_congr input fun i hi => hkept i (Or.inl hi)
        rw [Nat.succ_mul, dot, Finset.sum_range_add, ← dot, hbefore, hnow.product, hcoupling,
          couplings_succ]
      · intro i hi
        rw [Nat.succ_mul] at hi
        rw [hkept i (Or.inr hi), hnow.kept i (by omega)]
  have hrun : backwardData (.ofRing α) r gates dispatched values = .done (.ok (), after) :=
    (Act.bind_done rfl).trans ((Act.bind_done hchecked).trans hall)
  exact ⟨after, apply_eq_of_done hrun, hcoupled⟩

/-- Setting the gates to dot products gives all couplings in the product with any gates. -/
lemma backwardGate_couples (gates : List α) (hfits : r.Fits len)
    (hdispatched : len ≤ dispatched.length)
    (hinput : r.shape.samples * r.shape.hidden ≤ input.length)
    (hword : r.shape.samples * r.shape.hidden < Word.bound)
    (hvalues : r.shape.samples ≤ values.length) :
    ∃ after, apply (backwardGate (.ofRing α) r dispatched input) values = (.ok (), after) ∧
      Coupled gates values r.shape.samples
        (couplings r gates input dispatched r.shape.samples) after := by
  have hchecked : (Act.ofOutcome (checkLengths DispatchKernel.backwardGate.name r.shape
      values.length input.length) : ListAct α Unit) values = .done (.ok (), values) :=
    Act.outcome_done (checkLengths_eq _ hvalues hinput hword) values
  obtain ⟨after, hall, hcoupled⟩ : ∃ after,
      Act.forEach (List.range r.shape.samples) (backwardGateSample (.ofRing α) r dispatched input)
        values = .done (.ok (), after) ∧ Coupled gates values r.shape.samples
          (couplings r gates input dispatched r.shape.samples) after := by
    apply Act.forEach_range_reaches (I := fun samples => Coupled gates values samples
      (couplings r gates input dispatched samples))
    · exact ⟨rfl, by simp [dot, couplings], fun _ _ => rfl⟩
    · intro sample hsample now hnow
      obtain ⟨next, hrun, hlength, hkept, hcoupling⟩ := backwardGateSample_couples gates hfits
        hsample hdispatched hinput hword (hnow.length.symm ▸ hvalues)
      refine ⟨next, hrun, hlength.trans hnow.length, ?_, ?_⟩
      · have hbefore := dot_congr gates fun i hi => hkept i (Nat.ne_of_lt hi)
        rw [dot, Finset.sum_range_succ, ← dot, hbefore, hnow.product, hcoupling, couplings_succ]
      · intro i hi
        rw [hkept i (by omega), hnow.kept i (by omega)]
  have hrun : backwardGate (.ofRing α) r dispatched input values = .done (.ok (), after) :=
    (Act.bind_done rfl).trans ((Act.bind_done hchecked).trans hall)
  exact ⟨after, apply_eq_of_done hrun, hcoupled⟩

/-- For an accepted routing all three operators succeed. What the forward operator adds, in the
product with dispatched values `d`, is what the other two make of `d`, in the product with the
inputs and with the gates. Nothing past the validated lengths changes. (A length is a word, so the
number of values of all samples is one too.) -/
theorem operators_adjoint {op : String} {experts slots : List Int} {shape : DispatchShape}
    {d before inputs₀ gates₀ : List α}
    (haccepted : Routing.create op experts slots shape len = .ok r)
    (hword : shape.samples * shape.hidden < Word.bound)
    (hgates : shape.samples ≤ gates.length) (hinput : shape.samples * shape.hidden ≤ input.length)
    (hd : len ≤ d.length) (hbefore : len ≤ before.length)
    (hinputs₀ : shape.samples * shape.hidden ≤ inputs₀.length)
    (hgates₀ : shape.samples ≤ gates₀.length) :
    ∃ after y h,
      apply (forward (.ofRing α) r gates input) before = (.ok (), after) ∧
      apply (backwardData (.ofRing α) r gates d) inputs₀ = (.ok (), y) ∧
      apply (backwardGate (.ofRing α) r d input) gates₀ = (.ok (), h) ∧
      ∑ k ∈ Finset.range len, d.getD k 0 * (after.getD k 0 - before.getD k 0) =
        ∑ i ∈ Finset.range (shape.samples * shape.hidden), input.getD i 0 * y.getD i 0 ∧
      ∑ i ∈ Finset.range (shape.samples * shape.hidden), input.getD i 0 * y.getD i 0 =
        ∑ s ∈ Finset.range shape.samples, gates.getD s 0 * h.getD s 0 ∧
      (∀ k, len ≤ k → after[k]? = before[k]?) ∧
      (∀ i, shape.samples * shape.hidden ≤ i → y[i]? = inputs₀[i]?) ∧
      (∀ s, shape.samples ≤ s → h[s]? = gates₀[s]?) := by
  obtain ⟨rfl, hfits⟩ := Routing.fits_of_create haccepted
  obtain ⟨after, hforward, hadded⟩ := forward_couples d hfits hgates hinput hword hbefore
  obtain ⟨y, hdata, hread⟩ := backwardData_couples input hfits hgates hd hword hinputs₀
  obtain ⟨h, hgate, hset⟩ := backwardGate_couples gates hfits hd hinput hword hgates₀
  have hchange : ∑ k ∈ Finset.range len, d.getD k 0 * (after.getD k 0 - before.getD k 0) =
      couplings r gates input d r.shape.samples := by
    simp only [mul_sub, Finset.sum_sub_distrib]
    exact sub_eq_of_eq_add' hadded.product
  exact ⟨after, y, h, hforward, hdata, hgate, hchange.trans hread.product.symm,
    hread.product.trans hset.product.symm, hadded.kept, hread.kept, hset.kept⟩

/-- Two samples share a row, a third one is dropped, and all lists are longer than needed. The three
products are 134. -/
theorem operators_adjoint_of_shared_row :
    let r : Routing := ⟨[0, 0, -1], [1, 1, 0], ⟨3, 2, 2⟩⟩
    let d : List ℤ := [1, -1, 2, 7, 4]
    let input : List ℤ := [1, 2, 3, 4, 5, 6, 9]
    let gates : List ℤ := [2, 3, 5, 8]
    let before : List ℤ := [10, 20, 30, 40, 50]
    let after : List ℤ := [10, 20, 41, 56, 50]
    let y : List ℤ := [4, 14, 6, 21, 0, 0, 1]
    let h : List ℤ := [16, 34, 0, 6]
    Routing.create "sparse" r.experts r.slots r.shape 4 = .ok r ∧
      apply (forward (.ofRing ℤ) r gates input) before = (.ok (), after) ∧
      apply (backwardData (.ofRing ℤ) r gates d) [0, 0, 0, 0, 1, 1, 1] = (.ok (), y) ∧
      apply (backwardGate (.ofRing ℤ) r d input) [6, 6, 6, 6] = (.ok (), h) ∧
      ∑ k ∈ Finset.range 4, d.getD k 0 * (after.getD k 0 - before.getD k 0) = 134 ∧
      ∑ i ∈ Finset.range (3 * 2), input.getD i 0 * y.getD i 0 = 134 ∧
      ∑ s ∈ Finset.range 3, gates.getD s 0 * h.getD s 0 = 134 ∧
      (∀ k, 4 ≤ k → after[k]? = before[k]?) ∧
      (∀ i, 3 * 2 ≤ i → y[i]? = [0, 0, 0, 0, 1, 1, 1][i]?) ∧
      (∀ s, 3 ≤ s → h[s]? = [6, 6, 6, 6][s]?) := by
  intro r d input gates before after y h
  have haccepted : Routing.create "sparse" r.experts r.slots r.shape 4 = .ok r := by decide
  have hforward : apply (forward (.ofRing ℤ) r gates input) before = (.ok (), after) := by decide
  have hdata : apply (backwardData (.ofRing ℤ) r gates d) [0, 0, 0, 0, 1, 1, 1] = (.ok (), y) := by
    decide
  have hgate : apply (backwardGate (.ofRing ℤ) r d input) [6, 6, 6, 6] = (.ok (), h) := by decide
  have hgates : r.shape.samples ≤ gates.length := by decide
  have hinput : r.shape.samples * r.shape.hidden ≤ input.length := by decide
  have hd : 4 ≤ d.length := by decide
  have hbefore : 4 ≤ before.length := by decide
  have hinputs₀ : r.shape.samples * r.shape.hidden ≤ [0, 0, 0, 0, 1, (1 : ℤ), 1].length := by decide
  have hgates₀ : r.shape.samples ≤ [6, 6, 6, (6 : ℤ)].length := by decide
  obtain ⟨_, _, _, hforward', hdata', hgate', hread, hset, hkept⟩ :=
    operators_adjoint haccepted (by decide) hgates hinput hd hbefore hinputs₀ hgates₀
  cases hforward.symm.trans hforward'
  cases hdata.symm.trans hdata'
  cases hgate.symm.trans hgate'
  have hvalue : ∑ s ∈ Finset.range 3, gates.getD s 0 * h.getD s 0 = 134 := by decide
  exact ⟨haccepted, hforward, hdata, hgate, hread.trans (hset.trans hvalue), hset.trans hvalue,
    hvalue, hkept⟩

end Dispatch

end ExpertExchange
