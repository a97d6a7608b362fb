import ExpertExchange.Proofs.Act.Atomic
import ExpertExchange.Proofs.Device.Elements
import ExpertExchange.Proofs.Operator.Adjoint

/-!
# Dispatches on host buffers

A dispatch may get any host buffers and any extents. Types, lengths and rows are checked before the
first value is written, and the checks settle all indexing after them. One product is taken before
it is checked: the number of values that all samples have. When it is no word the call faults, and
this is the only way to a fault.
-/

namespace ExpertExchange

namespace Routing

lemma faultless_checkSample (op : String) (r : Routing) (len sample : Nat) :
    (checkSample op r len sample).Faultless := by
  unfold checkSample
  split
  · exact .ok ()
  · simp only
    split
    · exact .ensure _ _
    · exact .error _

lemma faultless_checkSamples (op : String) (r : Routing) (len : Nat) (samples : List Nat) :
    (checkSamples op r len samples).Faultless := by
  induction samples with
  | nil => exact .ok ()
  | cons sample rest ih => exact .bind (faultless_checkSample op r len sample) fun _ => ih

/-- The check of a routing ends with the routing or with an error. -/
lemma faultless_create (op : String) (experts slots : List Int) (shape : DispatchShape)
    (len : Nat) : (create op experts slots shape len).Faultless := by
  refine .bind (.ensure _ _) fun _ => .bind (.ensure _ _) fun _ => ?_
  exact .bind (faultless_checkSamples op _ len _) fun _ => .ok _

end Routing

namespace Dispatch

section Samples

variable {α : Type} {a : Arithmetic α} {r : Routing} {gates input dispatched values : List α}
  {start sample : Nat}

def KeepsLength (m : ListAct α Unit) (values : List α) : Prop :=
  ∃ values', m values = .done (.ok (), values') ∧ values'.length = values.length

lemma keepsLength_replaceAt {part : List α} (hroom : start + part.length ≤ values.length) :
    KeepsLength (replaceAt start part) values :=
  ⟨replaced values start part, rfl, length_replaced hroom⟩

/-- Values that are there can be read. -/
lemma exists_window {len : Nat} (hword : start + len < Word.bound)
    (hstop : start + len ≤ values.length) :
    ∃ part, window values start len = .ok part ∧ part.length = len := by
  refine ⟨_, window_eq values hword hstop, ?_⟩
  rw [List.length_take, List.length_drop]
  omega

/-- The values of a sample, if there are enough for all samples. -/
lemma window_sample (hword : r.shape.samples * r.shape.hidden < Word.bound)
    (hvalues : r.shape.samples * r.shape.hidden ≤ values.length)
    (hsample : sample < r.shape.samples) :
    ∃ part, window values (sample * r.shape.hidden) r.shape.hidden = .ok part ∧
      part.length = r.shape.hidden := by
  have hstop := block_end_le r.shape.hidden hsample
  exact exists_window (by omega) (by omega)

/-- The values of a row of an accepted routing. -/
lemma window_row {row : Nat} (hfits : r.Fits values.length) (hsample : sample < r.shape.samples)
    (hrow : r.row? sample = some row) :
    ∃ part, window values row r.shape.hidden = .ok part ∧ part.length = r.shape.hidden := by
  exact exists_window (hfits.word sample hsample row hrow) (hfits.inside sample hsample row hrow)

lemma valueAt_sample (hgates : r.shape.samples ≤ gates.length)
    (hsample : sample < r.shape.samples) :
    ∃ gate, gates[sample]? = some gate := ⟨_, List.getElem?_eq_getElem (by omega)⟩

lemma keepsLength_forwardSample (hfits : r.Fits values.length)
    (hgates : r.shape.samples ≤ gates.length)
    (hinput : r.shape.samples * r.shape.hidden ≤ input.length)
    (hword : r.shape.samples * r.shape.hidden < Word.bound) (hsample : sample < r.shape.samples) :
    KeepsLength (forwardSample a r gates input sample) values := by
  cases hrow : r.row? sample with
  | none =>
    refine ⟨values, ?_, rfl⟩
    rw [forwardSample, hrow]
    rfl
  | some row =>
    obtain ⟨gate, hgate⟩ := valueAt_sample hgates hsample
    obtain ⟨source, hsource, hsourceLength⟩ := window_sample hword hinput hsample
    obtain ⟨target, htarget, htargetLength⟩ := window_row hfits hsample hrow
    have hinside := hfits.inside sample hsample row hrow
    rw [KeepsLength, forwardSample_done hrow hgate hsource htarget]
    apply keepsLength_replaceAt
    rw [List.length_zipWith]
    omega

lemma keepsLength_backwardDataSample (hfits : r.Fits dispatched.length)
    (hgates : r.shape.samples ≤ gates.length)
    (hvalues : r.shape.samples * r.shape.hidden ≤ values.length)
    (hsample : sample < r.shape.samples) :
    KeepsLength (backwardDataSample a r gates dispatched sample) values := by
  have hstop := block_end_le r.shape.hidden hsample
  cases hrow : r.row? sample with
  | none =>
    unfold backwardDataSample
    rw [hrow]
    apply keepsLength_replaceAt
    rw [List.length_replicate]
    omega
  | some row =>
    obtain ⟨gate, hgate⟩ := valueAt_sample hgates hsample
    obtain ⟨source, hsource, hsourceLength⟩ := window_row hfits hsample hrow
    have hgated : (Act.ofOutcome (valueAt gates sample) : ListAct α α) values =
        .done (.ok gate, values) := by
      rw [valueAt, hgate]
      rfl
    have hread : (Act.ofOutcome (window dispatched row r.shape.hidden) : ListAct α (List α))
        values = .done (.ok source, values) := Act.outcome_done hsource values
    have hlast : KeepsLength (replaceAt (sample * r.shape.hidden) (source.map (a.mul gate)))
        values := by
      apply keepsLength_replaceAt
      rw [List.length_map]
      omega
    unfold backwardDataSample
    rw [hrow]
    obtain ⟨values', hrun, hlength⟩ := hlast
    exact ⟨values', (Act.bind_done hgated).trans ((Act.bind_done hread).trans hrun), hlength⟩

lemma keepsLength_backwardGateSample (hfits : r.Fits dispatched.length)
    (hvalues : r.shape.samples ≤ values.length)
    (hinput : r.shape.samples * r.shape.hidden ≤ input.length)
    (hword : r.shape.samples * r.shape.hidden < Word.bound) (hsample : sample < r.shape.samples) :
    KeepsLength (backwardGateSample a r dispatched input sample) values := by
  obtain ⟨cleared, hclear, hcleared⟩ : KeepsLength (replaceAt sample [a.zero]) values := by
    apply keepsLength_replaceAt
    rw [List.length_singleton]
    omega
  cases hrow : r.row? sample with
  | none =>
    refine ⟨cleared, ?_, hcleared⟩
    unfold backwardGateSample
    rw [hrow]
    exact Act.bind_done hclear
  | some row =>
    obtain ⟨source, hsource, -⟩ := window_sample hword hinput hsample
    obtain ⟨target, htarget, -⟩ := window_row hfits hsample hrow
    have hread : (Act.ofOutcome (window input (sample * r.shape.hidden) r.shape.hidden) :
        ListAct α (List α)) cleared = .done (.ok source, cleared) :=
      Act.outcome_done hsource cleared
    have hfound : (Act.ofOutcome (window dispatched row r.shape.hidden) : ListAct α (List α))
        cleared = .done (.ok target, cleared) := Act.outcome_done htarget cleared
    obtain ⟨values', hrun, hlength⟩ : KeepsLength
        (replaceAt sample [(List.zipWith a.mul target source).foldl a.add a.zero]) cleared := by
      apply keepsLength_replaceAt
      rw [List.length_singleton]
      omega
    unfold backwardGateSample
    rw [hrow]
    refine ⟨values', ?_, hlength.trans hcleared⟩
    exact (Act.bind_done hclear).trans ((Act.bind_done hread).trans
      ((Act.bind_done hfound).trans hrun))

/-- What one sample keeps, all samples keep. -/
lemma keepsLength_forEach {samples : Nat} {f : Nat → ListAct α Unit}
    (h : ∀ sample < samples, ∀ values' : List α, values'.length = values.length →
      KeepsLength (f sample) values') :
    KeepsLength (Act.forEach (List.range samples) f) values := by
  refine Act.forEach_range_reaches (I := fun _ (values' : List α) =>
    values'.length = values.length) rfl ?_
  intro sample hsample values' hlength
  obtain ⟨next, hrun, hnext⟩ := h sample hsample values' hlength
  exact ⟨next, hrun, hnext.trans hlength⟩

/-- The gates are enough, but a word cannot count the values of all samples. -/
def Uncountable (shape : DispatchShape) (gates : Nat) : Prop :=
  shape.samples ≤ gates ∧ Word.bound ≤ shape.samples * shape.hidden

/-- The check of the lengths, before an act that needs no more than these lengths. -/
lemma atomic_checkLengths {op : String} {shape : DispatchShape} {gateCount inputCount : Nat}
    {m : ListAct α Unit}
    (hm : shape.samples ≤ gateCount → shape.samples * shape.hidden ≤ inputCount →
      shape.samples * shape.hidden < Word.bound → KeepsLength m values) :
    ((Act.ofOutcome (checkLengths op shape gateCount inputCount)).bind fun _ => m).Atomic values
      (·.length = values.length) (Uncountable shape gateCount) := by
  by_cases hgates : shape.samples ≤ gateCount
  · rcases Nat.lt_or_ge (shape.samples * shape.hidden) Word.bound with hword | hover
    · have hsound : ¬ Uncountable shape gateCount := fun h => absurd h.2 (Nat.not_le.2 hword)
      by_cases hinput : shape.samples * shape.hidden ≤ inputCount
      · obtain ⟨values', hrun, hlength⟩ := hm hgates hinput hword
        have hchecked := checkLengths_eq op hgates hinput hword
        exact .succeeds values' ((Act.bind_done (Act.outcome_done hchecked values)).trans hrun)
          hlength hsound
      · have hshort : checkLengths op shape gateCount inputCount =
            .error (.shapeMismatch op [shape.samples * shape.hidden] [inputCount]) := by
          simp only [checkLengths, Routing.checkLength, Outcome.ensure, if_pos hgates,
            Outcome.bind, Word.mul_eq hword, if_neg hinput]
        rw [hshort]
        exact .refuses _ rfl hsound
    · have hbroken : checkLengths op shape gateCount inputCount = .fault none := by
        simp only [checkLengths, Routing.checkLength, Outcome.ensure, if_pos hgates,
          Outcome.bind, Word.mul_fault hover]
      rw [hbroken]
      exact .faults rfl ⟨hgates, hover⟩
  · have hshort : checkLengths op shape gateCount inputCount =
        .error (.shapeMismatch op [shape.samples] [gateCount]) := by
      simp only [checkLengths, Routing.checkLength, Outcome.ensure, if_neg hgates, Outcome.bind]
    rw [hshort]
    exact .refuses _ rfl fun h => hgates h.1

lemma atomic_forward (hfits : r.Fits values.length) :
    (forward a r gates input).Atomic values (·.length = values.length)
      (Uncountable r.shape gates.length) := by
  apply atomic_checkLengths
  intro hgates hinput hword
  apply keepsLength_forEach
  intro sample hsample values' hlength
  exact keepsLength_forwardSample (hlength ▸ hfits) hgates hinput hword hsample

lemma atomic_backwardData (hfits : r.Fits dispatched.length) :
    (backwardData a r gates dispatched).Atomic values (·.length = values.length)
      (Uncountable r.shape gates.length) := by
  refine .after (a := values.length) rfl (atomic_checkLengths ?_)
  intro hgates hinput _
  apply keepsLength_forEach
  intro sample hsample values' hlength
  exact keepsLength_backwardDataSample hfits hgates (hlength ▸ hinput) hsample

lemma atomic_backwardGate (hfits : r.Fits dispatched.length) :
    (backwardGate a r dispatched input).Atomic values (·.length = values.length)
      (Uncountable r.shape values.length) := by
  refine .after (a := values.length) rfl (atomic_checkLengths ?_)
  intro hgates hinput hword
  apply keepsLength_forEach
  intro sample hsample values' hlength
  exact keepsLength_backwardGateSample hfits (hlength ▸ hgates) hinput hword hsample

end Samples

section Buffers

variable {S : Service} {heap : Heap} {k : DispatchKernel} {b : DispatchBuffers}
  {shape : DispatchShape} {a : Arithmetic Nat} {dtype : Dtype}

lemma onHeap_done {α : Type} {m : Act S Heap DeviceError α} {x : α} {heap' : Heap}
    (h : m heap = .done (.ok x, heap')) : onHeap m heap = .done (.ok x, heap') :=
  Act.mapError_done h

/-- Writing back what an operator has made of the elements of a buffer. -/
lemma atomic_update {out : Buffer} {c : Bytes} {m : ListAct Nat Unit} {breaks : Prop}
    (hout : heap.Holds out c) (hdtype : dtype = out.dtype)
    (hm : m.Atomic (heap.elements out) (·.length = (heap.elements out).length) breaks) :
    (update out dtype m (heap.elements out) : Act S Heap OperatorError Unit).Atomic heap
      (heap.Rewritten out) breaks := by
  cases hm with
  | succeeds values runs reached sound =>
    have hcount : values.length * out.dtype.size = c.length := by
      rw [reached, hout.length_elements_mul]
    have happly := apply_eq_of_done runs
    refine .succeeds _ ?_ (hout.rewritten hcount) sound
    refine (Act.bind_done (Act.outcome_done (congrArg Prod.fst happly) heap)).trans ?_
    rw [happly]
    exact onHeap_done (hout.setWords_eq hdtype hcount)
  | refuses e runs sound =>
    have happly : (apply m (heap.elements out)).1 = .error e := by
      rw [apply, runs]
      rfl
    refine .refuses e ?_ sound
    apply Act.bind_error
    rw [happly]
    rfl
  | faults runs broken =>
    have happly : (apply m (heap.elements out)).1 = .fault none := by
      rw [apply, runs]
      rfl
    refine .faults ?_ broken
    apply Act.bind_fault
    rw [happly]
    rfl

end Buffers

end Dispatch

def DispatchKernel.written (k : DispatchKernel) (b : DispatchBuffers) : Buffer :=
  match k with
  | .forward => b.dispatched
  | .backwardData => b.input
  | .backwardGate => b.gates

def DispatchBuffers.all (b : DispatchBuffers) : List Buffer :=
  [b.gates, b.experts, b.slots, b.input, b.dispatched]

namespace Dispatch

/-- Everything that is checked before the lengths is right, and there are enough gates; but the
number of values that all samples have is no word. -/
structure Breaks (k : DispatchKernel) (b : DispatchBuffers) (shape : DispatchShape) (heap : Heap) :
    Prop where
  experts_dtype : b.experts.dtype = .i64
  slots_dtype : b.slots.dtype = .i64
  input_dtype : b.input.dtype = b.gates.dtype
  dispatched_dtype : b.dispatched.dtype = b.gates.dtype
  supported : ∃ a, Arithmetic.of? b.gates.dtype = some a
  accepted : ∃ r, Routing.create k.name ((heap.elements b.experts).map Word.toSigned64)
    ((heap.elements b.slots).map Word.toSigned64) shape (heap.elements b.dispatched).length = .ok r
  gates_enough : shape.samples ≤ (heap.elements b.gates).length
  overflow : Word.bound ≤ shape.samples * shape.hidden

section Buffers

variable {S : Service} {heap : Heap} {k : DispatchKernel} {b : DispatchBuffers}
  {shape : DispatchShape}

lemma atomic_runIn {a : Arithmetic Nat} (hlive : ∀ buffer ∈ b.all, heap.Live buffer)
    (hexperts : b.experts.dtype = .i64) (hslots : b.slots.dtype = .i64)
    (hinput : b.input.dtype = b.gates.dtype) (hdispatched : b.dispatched.dtype = b.gates.dtype)
    (hsupported : Arithmetic.of? b.gates.dtype = some a) :
    (runIn a b.gates.dtype k b shape : Act S Heap OperatorError Unit).Atomic heap
      (heap.Rewritten (k.written b)) (Breaks k b shape heap) := by
  simp only [DispatchBuffers.all, List.forall_mem_cons] at hlive
  obtain ⟨⟨cg, hg⟩, ⟨ce, he⟩, ⟨cs, hs⟩, ⟨ci, hi⟩, ⟨cd, hd⟩, -⟩ := hlive
  -- The buffers are read one after the other, which leaves the heap as it is.
  refine .after (onHeap_done (he.words_eq hexperts.symm)) ?_
  refine .after (onHeap_done (hs.words_eq hslots.symm)) ?_
  refine .after (onHeap_done (hg.words_eq rfl)) ?_
  refine .after (onHeap_done (hi.words_eq hinput.symm)) ?_
  refine .after (onHeap_done (hd.words_eq hdispatched.symm)) ?_
  refine .look (Routing.faultless_create _ _ _ _ _) (·.accepted) ?_
  intro r hr
  obtain ⟨hshape, hfits⟩ := Routing.fits_of_create hr
  have hbreaks : Uncountable r.shape (heap.elements b.gates).length ↔ Breaks k b shape heap := by
    rw [hshape]
    constructor
    · rintro ⟨henough, hover⟩
      exact ⟨hexperts, hslots, hinput, hdispatched, ⟨a, hsupported⟩, ⟨r, hr⟩, henough, hover⟩
    · intro h
      exact ⟨h.gates_enough, h.overflow⟩
  rw [← hbreaks]
  cases k with
  | forward => exact atomic_update hd hdispatched.symm (atomic_forward hfits)
  | backwardData => exact atomic_update hi hinput.symm (atomic_backwardData hfits)
  | backwardGate => exact atomic_update hg rfl (atomic_backwardGate hfits)

/-- For every operator, any five host buffers, of any types, shapes and contents and possibly
sharing their memory, and all extents: the call succeeds and has rewritten the one buffer that the
operator writes, or it is refused and has changed nothing; and it faults, changing nothing either,
exactly when all samples together have more values than a word can count. -/
theorem run_atomic (k : DispatchKernel) (shape : DispatchShape)
    (hlive : ∀ buffer ∈ b.all, heap.Live buffer) :
    (run k b shape : Act S Heap OperatorError Unit).Atomic heap (heap.Rewritten (k.written b))
      (Breaks k b shape heap) := by
  refine .ensureAll (p := fun routing : Buffer => routing.dtype = .i64) ?_ ?_
  · intro h
    simp [h.experts_dtype, h.slots_dtype]
  intro hrouting
  simp only [List.forall_mem_cons] at hrouting
  obtain ⟨hexperts, hslots, -⟩ := hrouting
  refine .ensureAll (p := fun values : Buffer => values.dtype = b.gates.dtype) ?_ ?_
  · intro h
    simp [h.input_dtype, h.dispatched_dtype]
  intro hvalues
  simp only [List.forall_mem_cons] at hvalues
  obtain ⟨hinput, hdispatched, -⟩ := hvalues
  cases hsupported : Arithmetic.of? b.gates.dtype with
  | none =>
    refine .refuses (.unsupportedDtype k.name b.gates.dtype) rfl ?_
    intro h
    obtain ⟨a, ha⟩ := h.supported
    cases hsupported.symm.trans ha
  | some a =>
    exact atomic_runIn hlive hexperts hslots hinput hdispatched hsupported

end Buffers

/-- A sample that is kept and one that is dropped, with the gates 2 and 3, the inputs 1.5 and 1, and
1 where the first goes. -/
def oneKept : Heap :=
  [⟨.host [0, 0, 0, 0x40, 0, 0, 0x40, 0x40], [Heap.hostOwner 0], 1⟩,
    ⟨.host (List.replicate 8 0 ++ List.replicate 8 255), [Heap.hostOwner 0], 1⟩,
    ⟨.host (List.replicate 16 0), [Heap.hostOwner 0], 1⟩,
    ⟨.host [0, 0, 0xc0, 0x3f, 0, 0, 0x80, 0x3f], [Heap.hostOwner 0], 1⟩,
    ⟨.host [0, 0, 0x80, 0x3f], [Heap.hostOwner 0], 1⟩]

/-- Two gates, two samples with negative experts, one input and one dispatched value. -/
def twoDropped : Heap :=
  [⟨.host (List.replicate 8 0), [Heap.hostOwner 0], 1⟩,
    ⟨.host (List.replicate 16 255), [Heap.hostOwner 0], 1⟩,
    ⟨.host (List.replicate 16 0), [Heap.hostOwner 0], 1⟩,
    ⟨.host (List.replicate 4 0), [Heap.hostOwner 0], 1⟩,
    ⟨.host (List.replicate 4 0), [Heap.hostOwner 0], 1⟩]

/-- The buffers of two samples, with so many inputs. -/
def buffersOfTwo (inputs : Nat) : DispatchBuffers :=
  ⟨⟨.f32, [2], 0, 0⟩, ⟨.i64, [2], 0, 1⟩, ⟨.i64, [2], 0, 2⟩, ⟨.f32, [inputs], 0, 3⟩,
    ⟨.f32, [1], 0, 4⟩⟩

/-- Buffers are live whose cells hold as many bytes as type and shape ask for. -/
lemma live_of_cells {heap : Heap} {b : DispatchBuffers}
    (h : ∀ buffer ∈ b.all, ∃ c, heap[buffer.cell]? = some ⟨.host c, [Heap.hostOwner 0], 1⟩ ∧
      Buffer.sizeOf? buffer.dtype buffer.shape = some c.length ∧
      c.length ≤ Word.allocationBound) :
    ∀ buffer ∈ b.all, heap.Live buffer := by
  intro buffer hmem
  obtain ⟨c, hcell, hsize, hsmall⟩ := h buffer hmem
  exact ⟨c, ⟨⟨_, _, hcell⟩, hsize, hsmall⟩⟩

lemma live_oneKept : ∀ buffer ∈ (buffersOfTwo 2).all, oneKept.Live buffer := by
  refine live_of_cells ?_
  simp only [DispatchBuffers.all, List.forall_mem_cons]
  exact ⟨⟨_, rfl, rfl, by decide⟩, ⟨_, rfl, rfl, by decide⟩, ⟨_, rfl, rfl, by decide⟩,
    ⟨_, rfl, rfl, by decide⟩, ⟨_, rfl, rfl, by decide⟩, by simp⟩

lemma live_twoDropped : ∀ buffer ∈ (buffersOfTwo 1).all, twoDropped.Live buffer := by
  refine live_of_cells ?_
  simp only [DispatchBuffers.all, List.forall_mem_cons]
  exact ⟨⟨_, rfl, rfl, by decide⟩, ⟨_, rfl, rfl, by decide⟩, ⟨_, rfl, rfl, by decide⟩,
    ⟨_, rfl, rfl, by decide⟩, ⟨_, rfl, rfl, by decide⟩, by simp⟩

/-- The forward operator adds 2 times 1.5 to 1, and writes nothing else. -/
theorem run_atomic_one_kept :
    (∀ buffer ∈ (buffersOfTwo 2).all, oneKept.Live buffer) ∧
      ∃ heap', (run .forward (buffersOfTwo 2) ⟨2, 1, 1⟩ : Act Silence Heap OperatorError Unit)
          oneKept = .done (.ok (), heap') ∧
        heap' = oneKept.write (buffersOfTwo 2).dispatched [0, 0, 0x80, 0x40] ∧
        oneKept.Rewritten (buffersOfTwo 2).dispatched heap' ∧
        ¬ Breaks .forward (buffersOfTwo 2) ⟨2, 1, 1⟩ oneKept := by
  have hend : (run .forward (buffersOfTwo 2) ⟨2, 1, 1⟩ : Act Silence Heap OperatorError Unit)
      oneKept = .done (.ok (), oneKept.write (buffersOfTwo 2).dispatched [0, 0, 0x80, 0x40]) :=
    Program.eq_done_of_value (by decide +kernel)
  refine ⟨live_oneKept, _, hend, rfl, ?_⟩
  cases run_atomic (S := Silence) .forward ⟨2, 1, 1⟩ live_oneKept with
  | succeeds heap' hdone hwritten hsound =>
    cases hend.symm.trans hdone
    exact ⟨hwritten, hsound⟩
  | refuses e hdone _ => cases hend.symm.trans hdone
  | faults hdone _ => cases hend.symm.trans hdone

/-- Two samples of half the range of a word are dropped, and yet their values are counted. -/
theorem dropped_values_counted :
    (∀ buffer ∈ (buffersOfTwo 1).all, twoDropped.Live buffer) ∧
      (run .forward (buffersOfTwo 1) ⟨2, Word.signedBound, 1⟩ :
        Act Silence Heap OperatorError Unit) twoDropped = .done (.fault none, twoDropped) := by
  constructor
  · exact live_twoDropped
  · exact Program.eq_done_of_value (by decide +kernel)

end Dispatch

end ExpertExchange
