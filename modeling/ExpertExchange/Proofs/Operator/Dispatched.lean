import ExpertExchange.Operator.Dispatch
import ExpertExchange.Proofs.Bytes.Chunk
import ExpertExchange.Proofs.Group.Script

/-!
# Dispatching into rows that are apart

When the rows of the kept samples lie in the dispatched values and no two of them overlap, the
forward operator adds to each row the gated values of its sample, and changes nothing else. In any
arithmetic, no value is added to twice, so the order of the samples does not matter.
-/

namespace ExpertExchange

/-- Acts for all elements, each of which succeeds from the states that the ones before it lead to;
the invariant speaks of the elements that are done. -/
lemma Act.forEach_reaches {S : Service} {σ ε γ : Type} {xs : List γ} {f : γ → Act S σ ε Unit}
    {I : List γ → σ → Prop} {s : σ} (h₀ : I [] s)
    (hstep : ∀ done x rest, xs = done ++ x :: rest → ∀ s, I done s →
      ∃ s', f x s = .done (.ok (), s') ∧ I (done ++ [x]) s') :
    ∃ s', Act.forEach xs f s = .done (.ok (), s') ∧ I xs s' := by
  suffices h : ∀ rest done s, xs = done ++ rest → I done s →
      ∃ s', Act.forEach rest f s = .done (.ok (), s') ∧ I xs s' from h xs [] s rfl h₀
  intro rest
  induction rest with
  | nil =>
    intro done s hxs hI
    rw [List.append_nil] at hxs
    exact ⟨s, rfl, hxs ▸ hI⟩
  | cons x rest ih =>
    intro done s hxs hI
    obtain ⟨s₁, hrun, hI₁⟩ := hstep done x rest hxs s hI
    obtain ⟨s', hrest, hI'⟩ := ih (done ++ [x]) s₁ (by simp [hxs]) hI₁
    exact ⟨s', (Act.bind_done hrun).trans hrest, hI'⟩

/-- Acts for the first numbers, each of which succeeds from the states that the ones before it lead
to; the invariant speaks of how many are done. -/
lemma Act.forEach_range_reaches {S : Service} {σ ε : Type} {n : Nat} {f : Nat → Act S σ ε Unit}
    {I : Nat → σ → Prop} {s : σ} (h₀ : I 0 s)
    (hstep : ∀ i < n, ∀ s, I i s → ∃ s', f i s = .done (.ok (), s') ∧ I (i + 1) s') :
    ∃ s', Act.forEach (List.range n) f s = .done (.ok (), s') ∧ I n s' := by
  have hnext : ∀ done i rest, List.range n = done ++ i :: rest → ∀ s, I done.length s →
      ∃ s', f i s = .done (.ok (), s') ∧ I (done ++ [i]).length s' := by
    intro done i rest hsplit s hI
    have hat : (List.range n)[done.length]? = some i := by
      rw [hsplit]
      simp
    obtain ⟨hlt, hi⟩ := List.getElem?_eq_some_iff.1 hat
    rw [List.getElem_range] at hi
    rw [List.length_range] at hlt
    subst hi
    rw [List.length_append, List.length_singleton]
    exact hstep _ hlt s hI
  obtain ⟨s', hrun, hI⟩ := Act.forEach_reaches (I := fun done s => I done.length s) h₀ hnext
  rw [List.length_range] at hI
  exact ⟨s', hrun, hI⟩

namespace Routing

def rowStart (shape : DispatchShape) (expert slot : Nat) : Nat :=
  (expert * shape.capacity + slot) * shape.hidden

/-- Each partial result is at most the last one, so the last one decides. -/
lemma rowOffset?_eq_ite {shape : DispatchShape} (hhidden : 0 < shape.hidden)
    (expert slot : Nat) :
    rowOffset? shape expert slot =
      if rowStart shape expert slot < Word.bound then some (rowStart shape expert slot)
      else none := by
  have hindex : expert * shape.capacity + slot ≤ rowStart shape expert slot :=
    Nat.le_mul_of_pos_right _ hhidden
  by_cases hword : rowStart shape expert slot < Word.bound
  · have hfirst : Word.mul? expert shape.capacity = some (expert * shape.capacity) :=
      Word.mul?_eq (by omega)
    have hsum : Word.add? (expert * shape.capacity) slot =
        some (expert * shape.capacity + slot) := Word.add?_eq (by omega)
    have hlast : Word.mul? (expert * shape.capacity + slot) shape.hidden =
        some (rowStart shape expert slot) := Word.mul?_eq hword
    simp only [rowOffset?, hfirst, hsum, hlast, Option.bind_eq_bind, Option.bind_some,
      if_pos hword]
  · rw [if_neg hword, Option.eq_none_iff_forall_ne_some]
    intro offset h
    obtain ⟨first, hfirst, h⟩ := Option.bind_eq_some_iff.1 h
    obtain ⟨index, hsum, hlast⟩ := Option.bind_eq_some_iff.1 h
    obtain ⟨rfl, -⟩ := Word.mul?_eq_some hfirst
    obtain ⟨rfl, -⟩ := Word.add?_eq_some hsum
    obtain ⟨rfl, hlt⟩ := Word.mul?_eq_some hlast
    exact hword hlt

end Routing

/-- The rows of the kept samples lie inside `len` values, and no two of them overlap. -/
structure Routing.RowsApart (r : Routing) (len : Nat) : Prop where
  inside : ∀ sample row, r.row? sample = some row → row + r.shape.hidden ≤ len
  apart : ∀ sample sample' row row', sample ≠ sample' → r.row? sample = some row →
    r.row? sample' = some row' → row + r.shape.hidden ≤ row' ∨ row' + r.shape.hidden ≤ row

namespace Dispatch

variable {α : Type} {a : Arithmetic α} {r : Routing} {gates input before : List α}

/-- The values after the first samples: their rows are added to, the rest is as it was before. -/
structure Added (a : Arithmetic α) (r : Routing) (gates input before : List α) (samples : Nat)
    (values : List α) : Prop where
  length : values.length = before.length
  /-- Each value of a row has the gated value of the sample added to it. -/
  row : ∀ sample < samples, ∀ row, r.row? sample = some row → ∀ j < r.shape.hidden,
    ∃ old gate x, before[row + j]? = some old ∧ gates[sample]? = some gate ∧
      input[sample * r.shape.hidden + j]? = some x ∧
      values[row + j]? = some (a.add old (a.mul gate x))
  kept : ∀ i, (∀ sample < samples, ∀ row, r.row? sample = some row →
    i < row ∨ row + r.shape.hidden ≤ i) → values[i]? = before[i]?

lemma apply_eq_of_done {m : ListAct α Unit} {values after : List α}
    (h : m values = .done (.ok (), after)) : apply m values = (.ok (), after) := by
  rw [apply, h]
  rfl

lemma window_eq (values : List α) {start len : Nat} (hword : start + len < Word.bound)
    (hstop : start + len ≤ values.length) :
    window values start len = .ok ((values.drop start).take len) := by
  have hadd : (Word.add start len : Outcome OperatorError Nat) = .ok (start + len) := by
    rw [Word.add, Word.add?, if_pos hword]
    rfl
  rw [window, hadd]
  exact if_pos hstop

/-- Replacing a part in the middle of a list. -/
lemma getElem?_replaced {values part : List α} {start : Nat}
    (hstop : start + part.length ≤ values.length) (i : Nat) :
    (values.take start ++ part ++ values.drop (start + part.length))[i]? =
      if start ≤ i ∧ i < start + part.length then part[i - start]? else values[i]? := by
  have hstart : (values.take start).length = start := by
    rw [List.length_take]
    omega
  rcases Nat.lt_or_ge i start with hlt | hge
  · have hnot : ¬ (start ≤ i ∧ i < start + part.length) := by omega
    rw [if_neg hnot, List.append_assoc, List.getElem?_append_left (by omega),
      List.getElem?_take_of_lt hlt]
  · rw [List.append_assoc, List.getElem?_append_right (by omega), hstart]
    rcases Nat.lt_or_ge i (start + part.length) with hin | hout
    · rw [if_pos ⟨hge, hin⟩, List.getElem?_append_left (by omega)]
    · have hnot : ¬ (start ≤ i ∧ i < start + part.length) := by omega
      rw [if_neg hnot, List.getElem?_append_right (by omega), List.getElem?_drop]
      congr 1
      omega

/-- Gates and inputs for all samples pass the check. -/
lemma checkLengths_eq (op : String) {shape : DispatchShape} {count len : Nat}
    (hcount : shape.samples ≤ count) (hlen : shape.samples * shape.hidden ≤ len)
    (hword : shape.samples * shape.hidden < Word.bound) :
    checkLengths op shape count len = .ok () := by
  have hmul : (Word.mul shape.samples shape.hidden : Outcome OperatorError Nat) =
      .ok (shape.samples * shape.hidden) := by
    rw [Word.mul, Word.mul?, if_pos hword]
    rfl
  simp only [checkLengths, Routing.checkLength, Outcome.ensure, if_pos hcount, hmul,
    Outcome.bind, if_pos hlen]

/-- A sample that is kept is added to its row. -/
lemma forwardSample_done {sample row : Nat} {gate : α} {values source target : List α}
    (hrow : r.row? sample = some row) (hgate : gates[sample]? = some gate)
    (hsource : window input (sample * r.shape.hidden) r.shape.hidden = .ok source)
    (htarget : window values row r.shape.hidden = .ok target) :
    forwardSample a r gates input sample values = replaceAt row
      (List.zipWith (fun d x => a.add d (a.mul gate x)) target source) values := by
  have hgated : (Act.ofOutcome (valueAt gates sample) : ListAct α α) values =
      .done (.ok gate, values) := by
    rw [valueAt, hgate]
    rfl
  have hread : (Act.ofOutcome (window input (sample * r.shape.hidden) r.shape.hidden) :
      ListAct α (List α)) values = .done (.ok source, values) := Act.outcome_done hsource values
  have hfound : (Act.ofOutcome (window values row r.shape.hidden) : ListAct α (List α)) values =
      .done (.ok target, values) := Act.outcome_done htarget values
  unfold forwardSample
  rw [hrow]
  refine (Act.bind_done hgated).trans ((Act.bind_done hread).trans ?_)
  exact (Act.bind_done rfl).trans (Act.bind_done hfound)

/-- One more sample. -/
lemma Added.step {sample : Nat} {values : List α} (hrows : r.RowsApart before.length)
    (hgates : r.shape.samples ≤ gates.length)
    (hinput : r.shape.samples * r.shape.hidden ≤ input.length)
    (hword : input.length < Word.bound) (hlen : before.length < Word.bound)
    (hsample : sample < r.shape.samples)
    (h : Added a r gates input before sample values) :
    ∃ values', forwardSample a r gates input sample values = .done (.ok (), values') ∧
      Added a r gates input before (sample + 1) values' := by
  cases hrow : r.row? sample with
  | none =>
    refine ⟨values, ?_, h.length, ?_, ?_⟩
    · unfold forwardSample
      rw [hrow]
      rfl
    · intro sample' hlt row' hrow'
      rcases Nat.lt_succ_iff_lt_or_eq.1 hlt with hlt | rfl
      · exact h.row sample' hlt row' hrow'
      · cases hrow.symm.trans hrow'
    · intro i hi
      apply h.kept
      intro sample' hlt
      exact hi sample' (Nat.lt_succ_of_lt hlt)
  | some row =>
    have hinside := hrows.inside sample row hrow
    have hspan : sample * r.shape.hidden + r.shape.hidden ≤ input.length := by
      have hnext : (sample + 1) * r.shape.hidden ≤ r.shape.samples * r.shape.hidden :=
        Nat.mul_le_mul_right _ hsample
      rw [Nat.succ_mul] at hnext
      omega
    obtain ⟨gate, hgate⟩ : ∃ gate, gates[sample]? = some gate :=
      ⟨_, List.getElem?_eq_getElem (by omega)⟩
    have hsource := window_eq input (Nat.lt_of_le_of_lt hspan hword) hspan
    have htarget := window_eq values (Nat.lt_of_le_of_lt hinside hlen)
      (h.length.symm ▸ hinside)
    let part := List.zipWith (fun d x => a.add d (a.mul gate x))
      ((values.drop row).take r.shape.hidden)
      ((input.drop (sample * r.shape.hidden)).take r.shape.hidden)
    have hpart : part.length = r.shape.hidden := by
      have hvalues := h.length
      simp only [part, List.length_zipWith, List.length_take, List.length_drop]
      omega
    have hroom : row + part.length ≤ values.length := by
      rw [hpart, h.length]
      exact hinside
    refine ⟨values.take row ++ part ++ values.drop (row + part.length), ?_, ?_, ?_, ?_⟩
    · exact forwardSample_done hrow hgate hsource htarget
    · rw [← h.length]
      simp only [List.length_append, List.length_take, List.length_drop]
      omega
    · intro sample' hlt row' hrow' j hj
      rcases Nat.lt_succ_iff_lt_or_eq.1 hlt with hearlier | rfl
      · obtain ⟨old, gate', x, hold, hgate', hx, hvalue⟩ := h.row sample' hearlier row' hrow' j hj
        refine ⟨old, gate', x, hold, hgate', hx, ?_⟩
        have hapart := hrows.apart sample' sample row' row (Nat.ne_of_lt hearlier) hrow' hrow
        have hout : ¬ (row ≤ row' + j ∧ row' + j < row + part.length) := by omega
        rw [getElem?_replaced hroom, if_neg hout]
        exact hvalue
      · obtain rfl : row' = row := Option.some.inj (hrow'.symm.trans hrow)
        have hfresh : values[row' + j]? = before[row' + j]? := by
          apply h.kept
          intro sample'' hearlier row'' hrow''
          have hapart := hrows.apart sample'' sample' row'' row' (Nat.ne_of_lt hearlier) hrow'' hrow
          omega
        obtain ⟨old, hold⟩ : ∃ old, before[row' + j]? = some old :=
          ⟨_, List.getElem?_eq_getElem (by omega)⟩
        obtain ⟨x, hx⟩ : ∃ x, input[sample' * r.shape.hidden + j]? = some x :=
          ⟨_, List.getElem?_eq_getElem (by omega)⟩
        refine ⟨old, gate, x, hold, hgate, hx, ?_⟩
        have hin : row' ≤ row' + j ∧ row' + j < row' + part.length := by omega
        rw [getElem?_replaced hroom, if_pos hin, Nat.add_sub_cancel_left]
        have hpart_j : ((values.drop row').take r.shape.hidden)[j]? = some old := by
          rw [List.getElem?_take_of_lt hj, List.getElem?_drop, hfresh]
          exact hold
        have hinput_j : ((input.drop (sample' * r.shape.hidden)).take r.shape.hidden)[j]? =
            some x := by
          rw [List.getElem?_take_of_lt hj, List.getElem?_drop]
          exact hx
        simp only [part, List.getElem?_zipWith, hpart_j, hinput_j]
    · intro i hi
      have hout : ¬ (row ≤ i ∧ i < row + part.length) := by
        have := hi sample (Nat.lt_succ_self sample) row hrow
        omega
      rw [getElem?_replaced hroom, if_neg hout]
      apply h.kept
      intro sample' hearlier
      exact hi sample' (Nat.lt_succ_of_lt hearlier)

/-- The forward operator succeeds, adds to every row of a kept sample, and changes nothing else. -/
theorem forward_adds (a : Arithmetic α) (hrows : r.RowsApart before.length)
    (hgates : r.shape.samples ≤ gates.length)
    (hinput : r.shape.samples * r.shape.hidden ≤ input.length)
    (hword : input.length < Word.bound) (hlen : before.length < Word.bound) :
    ∃ values, apply (forward a r gates input) before = (.ok (), values) ∧
      Added a r gates input before r.shape.samples values := by
  have hchecked : (Act.ofOutcome (checkLengths DispatchKernel.forward.name r.shape gates.length
      input.length) : ListAct α Unit) before = .done (.ok (), before) :=
    Act.outcome_done (checkLengths_eq _ hgates hinput (Nat.lt_of_le_of_lt hinput hword)) before
  have hnone : Added a r gates input before 0 before := by
    refine ⟨rfl, ?_, fun _ _ => rfl⟩
    intro sample hlt
    exact absurd hlt (Nat.not_lt_zero sample)
  obtain ⟨values, hrun, hadded⟩ := Act.forEach_range_reaches
    (I := fun samples values => Added a r gates input before samples values) hnone
    fun _ hlt _ h => h.step hrows hgates hinput hword hlen hlt
  exact ⟨values, apply_eq_of_done ((Act.bind_done hchecked).trans hrun), hadded⟩

end Dispatch

end ExpertExchange
