import ExpertExchange.Proofs.Act.Atomic
import ExpertExchange.Proofs.Device.Elements
import ExpertExchange.Proofs.Exchange.Narrowed
import ExpertExchange.Proofs.Operator.Added
import ExpertExchange.Proofs.Operator.Columns

/-!
# Arguments of the own kernels

Every host platform starts with kernels of its own. They take whatever arguments a launch has, in
any number and order, and check them: how many there are, that the scalars are counts, that the
buffers are large enough and of the right types. What the checks do not see are products that are no
word and, for the sum, an output whose elements have another size.
-/

namespace ExpertExchange

namespace Argument

variable {buffers buffers' : List Buffer} {scalars scalars' : List Scalar} {args : List Argument}

lemma split?_scalars (scalars : List Scalar) :
    split? (scalars.map .scalar) = some ([], scalars) := by
  induction scalars with
  | nil => rfl
  | cons s rest ih => simp [split?, ih]

lemma split?_list (buffers : List Buffer) (scalars : List Scalar) :
    split? (list buffers scalars) = some (buffers, scalars) := by
  induction buffers with
  | nil => exact split?_scalars scalars
  | cons b rest ih =>
    have hrest : split? (rest.map .buffer ++ scalars.map .scalar) = some (rest, scalars) := ih
    simp [list, split?, hrest]

lemma eq_list_of_split? (h : split? args = some (buffers, scalars)) :
    args = list buffers scalars := by
  induction args generalizing buffers scalars with
  | nil =>
    cases h
    rfl
  | cons a rest ih =>
    cases a with
    | buffer b =>
      obtain ⟨⟨bs, ss⟩, hrest, hparts⟩ := Option.map_eq_some_iff.1 h
      cases hparts
      rw [ih hrest]
      rfl
    | scalar s =>
      obtain ⟨⟨bs, ss⟩, hrest, hparts⟩ := Option.bind_eq_some_iff.1 h
      split at hparts
      · rename_i hnone
        cases hparts
        obtain rfl : bs = [] := hnone
        rw [ih hrest]
        rfl
      · cases hparts

lemma list_inj (h : list buffers scalars = list buffers' scalars') :
    buffers = buffers' ∧ scalars = scalars' := by
  have hsplit := congrArg split? h
  rw [split?_list, split?_list] at hsplit
  cases hsplit
  exact ⟨rfl, rfl⟩

variable {entry : String} {n k index : Nat}

lemma faultless_split (entry : String) (args : List Argument) (n k : Nat) :
    (split entry args n k).Faultless :=
  .bind (.orError _ _) fun _ => .bind (.ensure _ _) fun _ => .ok _

/-- Arguments are taken apart as they were put together. -/
lemma split_eq_ok_iff : split entry args n k = .ok (buffers, scalars) ↔
    args = list buffers scalars ∧ buffers.length = n ∧ scalars.length = k := by
  constructor
  · intro h
    obtain ⟨p, hp, h⟩ := Outcome.bind_eq_ok_iff.1 h
    obtain ⟨_, hcounts, h⟩ := Outcome.bind_eq_ok_iff.1 h
    cases h
    cases hsplit : split? args with
    | none =>
      rw [hsplit] at hp
      cases hp
    | some q =>
      rw [hsplit] at hp
      cases hp
      exact ⟨eq_list_of_split? hsplit, Outcome.ensure_eq_ok hcounts⟩
  · rintro ⟨rfl, hn, hk⟩
    simp [split, split?_list, Outcome.orError, Outcome.bind, Outcome.ensure, hn, hk]

section Atomic

variable {S : Service} {σ : Type} {s : σ} {reaches : σ → Prop} {breaks : Prop}

/-- A kernel takes its arguments apart, or is refused. -/
lemma atomic_split {f : List Buffer × List Scalar → Act S σ DeviceError Unit}
    (hsound : breaks → ∃ buffers scalars, args = list buffers scalars ∧ buffers.length = n ∧
      scalars.length = k)
    (hf : ∀ buffers scalars, args = list buffers scalars → buffers.length = n →
      scalars.length = k → (f (buffers, scalars)).Atomic s reaches breaks) :
    ((Act.ofOutcome (split entry args n k)).bind f).Atomic s reaches breaks := by
  refine .look (faultless_split entry args n k) ?_ ?_
  · intro hbreaks
    obtain ⟨buffers, scalars, h⟩ := hsound hbreaks
    exact ⟨(buffers, scalars), split_eq_ok_iff.2 h⟩
  · rintro ⟨buffers, scalars⟩ h
    obtain ⟨hargs, hn, hk⟩ := split_eq_ok_iff.1 h
    exact hf buffers scalars hargs hn hk

/-- A scalar is read as a count, or the kernel is refused. -/
lemma atomic_countAt {x : Scalar} {f : Nat → Act S σ DeviceError Unit}
    (hat : scalars[index]? = some x) (hsound : breaks → ∃ n, x.toNat? = some n)
    (hf : ∀ n, x.toNat? = some n → (f n).Atomic s reaches breaks) :
    ((Act.ofOutcome (countAt entry scalars index)).bind f).Atomic s reaches breaks := by
  cases hx : x.toNat? with
  | none =>
    refine .refuses _ (Act.bind_refused (Regroup.countAt_none hat hx)) ?_
    intro hbreaks
    obtain ⟨n, hn⟩ := hsound hbreaks
    cases hx.symm.trans hn
  | some n => exact .after (Act.outcome_done (Regroup.countAt_eq hat hx) s) (hf n hx)

end Atomic

end Argument

/-- A product that is no word breaks the call. -/
lemma Word.atomic_mul {S : Service} {σ ε : Type} {s : σ} {reaches : σ → Prop} {breaks : Prop}
    {a b : Nat} {f : Nat → Act S σ ε Unit} (hover : bound ≤ a * b → breaks)
    (hf : a * b < bound → (f (a * b)).Atomic s reaches breaks) :
    ((Act.ofOutcome (mul a b)).bind f).Atomic s reaches breaks := by
  rcases Nat.lt_or_ge (a * b) bound with hlt | hge
  · exact .after (Act.outcome_done (mul_eq hlt) s) (hf hlt)
  · exact .faults (Act.bind_broken (mul_fault hge)) (hover hge)

namespace Regroup

/-- Some product of the extents, from the left, is no word; or there are no bytes to move, but a
word cannot count the chunks. -/
def TooLarge (unit : RegroupUnit) (n height width : Nat) : Prop :=
  Word.bound ≤ n * unit.bytes ∨ Word.bound ≤ n * unit.bytes * height ∨
    Word.bound ≤ n * unit.bytes * height * width ∨ (n = 0 ∧ Word.bound ≤ height * width)

/-- The arguments are two buffers and three counts, and the counts are too large. -/
def Breaks (unit : RegroupUnit) (args : List Argument) : Prop :=
  ∃ out input size x y n height width, args = Argument.list [out, input] [size, x, y] ∧
    size.toNat? = some n ∧ x.toNat? = some height ∧ y.toNat? = some width ∧
    TooLarge unit n height width

variable {heap : Heap} {unit : RegroupUnit} {out input : Buffer} {n height width : Nat}
  {before content : Bytes}

lemma bytes_pos (unit : RegroupUnit) : 0 < unit.bytes := by cases unit <;> decide

/-- A grid that cannot be counted has words of bytes only if it has none. -/
lemma eq_zero_of_countless (hneeded : n * unit.bytes * height * width < Word.bound)
    (hover : Word.bound ≤ height * width) : n = 0 := by
  by_contra hn
  have hpos : 0 < n * unit.bytes := Nat.mul_pos (Nat.pos_of_ne_zero hn) (bytes_pos unit)
  have hle : height * width ≤ n * unit.bytes * (height * width) := Nat.le_mul_of_pos_left _ hpos
  rw [← Nat.mul_assoc] at hle
  omega

lemma breaks_list_iff {size x y : Scalar} :
    Breaks unit (Argument.list [out, input] [size, x, y]) ↔
      ∃ n height width, size.toNat? = some n ∧ x.toNat? = some height ∧ y.toNat? = some width ∧
        TooLarge unit n height width := by
  constructor
  · rintro ⟨out', input', size', x', y', n, height, width, hargs, h⟩
    obtain ⟨-, hscalars⟩ := Argument.list_inj hargs
    simp only [List.cons.injEq] at hscalars
    obtain ⟨rfl, rfl, rfl, -⟩ := hscalars
    exact ⟨n, height, width, h⟩
  · rintro ⟨n, height, width, h⟩
    exact ⟨out, input, size, x, y, n, height, width, rfl, h⟩

/-- With room for all chunks, the chunks are moved, unless they cannot be counted. -/
lemma atomic_move (hout : heap.Holds out before) (hinput : heap.Holds input content)
    (hbefore : n * unit.bytes * height * width ≤ before.length)
    (hcontent : n * unit.bytes * height * width ≤ content.length) {breaks : Prop}
    (hbreaks : breaks ↔ Word.bound ≤ height * width) :
    (((Heap.setBytes out (run before content (n * unit.bytes) height width :
        Outcome DeviceError Unit × Bytes).2).bind fun _ =>
      Act.ofOutcome (run before content (n * unit.bytes) height width).1 :
        Act Silence Heap DeviceError Unit)).Atomic heap (heap.Rewritten out) breaks := by
  have hgrid : n * unit.bytes * height * width = height * width * (n * unit.bytes) := by
    rw [Nat.mul_assoc, Nat.mul_comm]
  rw [hgrid] at hbefore hcontent
  rcases Nat.lt_or_ge (height * width) Word.bound with hcount | hover
  · have hlength : (regrouped (n * unit.bytes) height width content before).length =
        before.length := length_regrouped hcontent hbefore
    rw [run_eq (Nat.lt_of_le_of_lt hcontent hinput.length_lt) hcontent hbefore hcount]
    refine .succeeds _ ((Act.bind_done (hout.setBytes hlength)).trans rfl)
      ⟨_, _, hout, hlength, rfl⟩ ?_
    rw [hbreaks]
    omega
  · have hrun : (run before content (n * unit.bytes) height width : Outcome DeviceError Unit × _) =
        (.fault none, before) := by
      rw [run, Word.mul?, if_neg (by omega)]
    rw [hrun]
    refine .faults ?_ (hbreaks.2 hover)
    rw [Act.bind_done (hout.setBytes rfl), hout.write_self]
    rfl

/-- Both regrouping kernels, on any arguments. -/
lemma atomic_hostKernel (unit : RegroupUnit) (geometry : Geometry) {args : List Argument}
    (hlive : ∀ b, .buffer b ∈ args → heap.Live b) :
    (hostKernel unit geometry args).Atomic heap
      (fun heap' => ∃ out, args[0]? = some (.buffer out) ∧ heap.Rewritten out heap')
      (Breaks unit args) := by
  refine Argument.atomic_split ?_ ?_
  · rintro ⟨out, input, size, x, y, n, height, width, rfl, -⟩
    exact ⟨[out, input], [size, x, y], rfl, rfl, rfl⟩
  intro buffers scalars hargs hbuffers hscalars
  obtain ⟨out, input, rfl⟩ := List.length_eq_two.1 hbuffers
  obtain ⟨size, x, y, rfl⟩ := List.length_eq_three.1 hscalars
  subst hargs
  rw [breaks_list_iff]
  refine Argument.atomic_countAt rfl (fun ⟨n, _, _, hn, _⟩ => ⟨n, hn⟩) ?_
  intro n hn
  refine Argument.atomic_countAt rfl (fun ⟨_, height, _, _, hx, _⟩ => ⟨height, hx⟩) ?_
  intro height hx
  refine Argument.atomic_countAt rfl (fun ⟨_, _, width, _, _, hy, _⟩ => ⟨width, hy⟩) ?_
  intro width hy
  have hlarge : (∃ n height width, size.toNat? = some n ∧ x.toNat? = some height ∧
      y.toNat? = some width ∧ TooLarge unit n height width) ↔ TooLarge unit n height width := by
    simp [hn, hx, hy]
  rw [hlarge]
  -- The three products are taken before anything is checked; the number of chunks comes last.
  refine Word.atomic_mul .inl ?_
  intro hchunk
  refine Word.atomic_mul (.inr ∘ .inl) ?_
  intro hcolumn
  refine Word.atomic_mul (.inr ∘ .inr ∘ .inl) ?_
  intro hneeded
  obtain ⟨before, hout⟩ := hlive out (by simp [Argument.list])
  obtain ⟨content, hinput⟩ := hlive input (by simp [Argument.list])
  have hsizes : ∀ b ∈ [out, input], (b.byteCount : Outcome DeviceError Nat) =
      .ok (heap.content b).length := by
    intro b hb
    obtain ⟨c, hc⟩ := hlive b (by simpa [Argument.list] using hb)
    rw [hc.byteCount, hc.content_eq]
  have hover : TooLarge unit n height width ↔ n = 0 ∧ Word.bound ≤ height * width := by
    unfold TooLarge
    omega
  refine .checkEach (p := (n * unit.bytes * height * width ≤ ·)) hsizes ?_ ?_
  · intro h
    simp [(hover.1 h).1]
  intro hroom
  simp only [List.forall_mem_cons, hout.content_eq, hinput.content_eq] at hroom
  have hcountless : TooLarge unit n height width ↔ Word.bound ≤ height * width := by
    rw [hover, and_iff_right_iff_imp]
    exact eq_zero_of_countless hneeded
  refine .after hinput.bytes (.after hout.bytes ?_)
  exact (atomic_move hout hinput hroom.1 hroom.2.1 hcountless).mono fun _ h => ⟨out, rfl, h⟩

end Regroup

namespace RunningLocation

/-- The arguments are two buffers and a count, and the blocks of the launch have more cells than a
word can count. -/
def Breaks (geometry : Geometry) (args : List Argument) : Prop :=
  ∃ input output x samples, args = Argument.list [input, output] [x] ∧ x.toNat? = some samples ∧
    Word.bound ≤ samples * geometry.blocks.x

variable {heap : Heap} {samples batch : Nat}

lemma breaks_list_iff {geometry : Geometry} {input output : Buffer} {x : Scalar} :
    Breaks geometry (Argument.list [input, output] [x]) ↔
      ∃ samples, x.toNat? = some samples ∧ Word.bound ≤ samples * geometry.blocks.x := by
  constructor
  · rintro ⟨input', output', x', samples, hargs, h⟩
    obtain ⟨-, hscalars⟩ := Argument.list_inj hargs
    simp only [List.cons.injEq] at hscalars
    obtain ⟨rfl, -⟩ := hscalars
    exact ⟨samples, h⟩
  · rintro ⟨samples, h⟩
    exact ⟨input, output, x, samples, rfl, h⟩

/-- A mask that fills the grid has locations that fill it. -/
lemma run_of_filled {ε : Type} {mask : List Int} (hmask : mask.length = samples * batch)
    (hword : samples * batch < Word.bound) (hsmall : 8 * (samples * batch) ≤ Word.allocationBound) :
    ∃ cells, (run mask samples batch : Outcome ε (List Int)) = .ok cells ∧
      cells.length = samples * batch := by
  exact ⟨_, run_eq hmask hword hsmall,
    length_rowsFrom List.length_replicate (Nat.le_of_eq hmask.symm)⟩

/-- With a mask and an output that fill the grid, only their types are left to check. -/
lemma atomic_scan {input output : Buffer} {c d : Bytes} {breaks : Prop}
    (hinput : heap.Holds input c) (houtput : heap.Holds output d)
    (hinputCount : input.shape.prod = samples * batch)
    (houtputCount : output.shape.prod = samples * batch)
    (hword : samples * batch < Word.bound) (hsound : ¬ breaks) :
    ((Heap.words input .i64).bind fun mask =>
      (Act.ofOutcome (run (mask.map Word.toSigned64) samples batch)).bind fun locations =>
        (Heap.setWords output .i64 (locations.map Word.ofInt) :
          Act Silence Heap DeviceError Unit)).Atomic heap (heap.Rewritten output) breaks := by
  by_cases hinputType : Dtype.i64 = input.dtype
  · have hlength : c.length = samples * batch * 8 := by
      rw [hinput.length_eq, hinputCount, ← hinputType]
      rfl
    have hmask : ((heap.elements input).map Word.toSigned64).length = samples * batch := by
      have hfill := hinput.length_elements_mul
      rw [← hinputType, hlength] at hfill
      rw [List.length_map]
      exact Nat.eq_of_mul_eq_mul_right (by decide) hfill
    have hsmall := hinput.small
    obtain ⟨cells, hrun, hcells⟩ := run_of_filled (ε := DeviceError) hmask hword (by omega)
    refine .after (hinput.words_eq hinputType) (.after (Act.outcome_done hrun heap) ?_)
    by_cases houtputType : Dtype.i64 = output.dtype
    · have hvalues : (cells.map Word.ofInt).length * output.dtype.size = d.length := by
        rw [List.length_map, hcells, houtput.length_eq, houtputCount]
      exact .succeeds _ (houtput.setWords_eq houtputType hvalues) (houtput.rewritten hvalues)
        hsound
    · obtain ⟨e, he⟩ := Heap.setWords_refused (S := Silence) (h := heap) houtputType
        (cells.map Word.ofInt)
      exact .refuses e he hsound
  · obtain ⟨e, he⟩ := Heap.words_refused (S := Silence) (h := heap) hinputType
    exact .refuses e (Act.bind_error he) hsound

/-- The kernel of the running locations, on any arguments. -/
lemma atomic_hostKernel (geometry : Geometry) {args : List Argument}
    (hlive : ∀ b, .buffer b ∈ args → heap.Live b) :
    (hostKernel geometry args).Atomic heap
      (fun heap' => ∃ out, args[1]? = some (.buffer out) ∧ heap.Rewritten out heap')
      (Breaks geometry args) := by
  refine Argument.atomic_split ?_ ?_
  · rintro ⟨input, output, x, samples, rfl, -⟩
    exact ⟨[input, output], [x], rfl, rfl, rfl⟩
  intro buffers scalars hargs hbuffers hscalars
  obtain ⟨input, output, rfl⟩ := List.length_eq_two.1 hbuffers
  obtain ⟨x, rfl⟩ := List.length_eq_one_iff.1 hscalars
  subst hargs
  rw [breaks_list_iff]
  refine Argument.atomic_countAt rfl (fun ⟨samples, hx, _⟩ => ⟨samples, hx⟩) ?_
  intro samples hx
  have hover : (∃ samples, x.toNat? = some samples ∧ Word.bound ≤ samples * geometry.blocks.x) ↔
      Word.bound ≤ samples * geometry.blocks.x := by
    simp [hx]
  rw [hover]
  obtain ⟨c, hinput⟩ := hlive input (by simp [Argument.list])
  obtain ⟨d, houtput⟩ := hlive output (by simp [Argument.list])
  rcases Nat.lt_or_ge (samples * geometry.blocks.x) Word.bound with hword | hword
  · have hsound : ¬ Word.bound ≤ samples * geometry.blocks.x := Nat.not_le.2 hword
    have hcounts : ∀ b ∈ [input, output], (b.count : Outcome DeviceError Nat) =
        .ok b.shape.prod := by
      intro b hb
      obtain ⟨c, hc⟩ := hlive b (by simpa [Argument.list] using hb)
      exact hc.count_eq
    simp only [Word.mul_eq hword]
    refine .checkEach (p := (· = samples * geometry.blocks.x)) hcounts (absurd · hsound) ?_
    intro hfilled
    simp only [List.forall_mem_cons] at hfilled
    obtain ⟨hinputCount, houtputCount, -⟩ := hfilled
    exact (atomic_scan hinput houtput hinputCount houtputCount hword hsound).mono
      fun _ h => ⟨output, rfl, h⟩
  · refine .faults ?_ hword
    apply Act.bind_fault
    apply Act.bind_fault
    refine (Act.bind_done (Act.outcome_done hinput.count_eq heap)).trans ?_
    exact Act.bind_broken (Word.mul_fault hword)

end RunningLocation

namespace Add

variable {plus : Addition} {heap : Heap} {x y out : Buffer} {a b d : Bytes} {n : Nat}
  {reaches : Heap → Prop} {breaks : Prop}

/-- Two buffers with something to add, of one shape and of one type with tensors. -/
structure Summands (x y : Buffer) (n : Nat) : Prop where
  pos : 0 < n
  hasTensor : x.dtype.hasTensor = true
  dtype : y.dtype = x.dtype
  shape : y.shape = x.shape

/-- Some sum of two elements lies outside the type. -/
def Overflows (plus : Addition) (heap : Heap) (x y : Buffer) : Prop :=
  Number.addAll? plus x.dtype (heap.elements x) (heap.elements y) = none

/-- The first operand is of a type with tensors, but there are none of its shape; or so it is with
the second one. -/
def Strideless (x y : Buffer) : Prop :=
  x.dtype.hasTensor = true ∧ (¬ Strided x.shape ∨ y.dtype.hasTensor = true ∧ ¬ Strided y.shape)

/-- Two operands and an output of `n` elements each break the sum: an operand is read as a tensor
that there is not, a sum lies outside the type, or the elements of the output have another size than
the sums. -/
def Spoil (plus : Addition) (heap : Heap) (x y out : Buffer) (n : Nat) : Prop :=
  Strideless x y ∨
    Summands x y n ∧ (Overflows plus heap x y ∨ out.dtype.size ≠ x.dtype.size)

/-- The arguments are three buffers and the number of elements in each of them, and the buffers
break the sum. -/
def Breaks (plus : Addition) (args : List Argument) (heap : Heap) : Prop :=
  ∃ x y out s n, args = Argument.list [x, y, out] [s] ∧ s.toNat? = some n ∧
    (∀ b ∈ [x, y, out], b.shape.prod = n) ∧ Spoil plus heap x y out n

lemma breaks_list_iff {s : Scalar} :
    Breaks plus (Argument.list [x, y, out] [s]) heap ↔ ∃ n, s.toNat? = some n ∧
      (∀ b ∈ [x, y, out], b.shape.prod = n) ∧ Spoil plus heap x y out n := by
  constructor
  · rintro ⟨x', y', out', s', n, hargs, h⟩
    obtain ⟨hbuffers, hscalars⟩ := Argument.list_inj hargs
    simp only [List.cons.injEq] at hbuffers hscalars
    obtain ⟨rfl, rfl, rfl, -⟩ := hbuffers
    obtain ⟨rfl, -⟩ := hscalars
    exact ⟨n, h⟩
  · rintro ⟨n, h⟩
    exact ⟨x, y, out, s, n, rfl, h⟩

lemma length_elements (hx : heap.Holds x a) (htensor : x.dtype.hasTensor = true) :
    (heap.elements x).length = x.shape.prod := by
  have hfill := hx.length_elements_mul
  rw [hx.length_eq] at hfill
  exact Nat.eq_of_mul_eq_mul_right (Dtype.size_pos htensor) hfill

variable [TensorLibrary]

def fill (out : Buffer) (sum : Tensor) : Act Silence Heap DeviceError Unit :=
  (Act.ofOutcome sum.bytes).bind fun content => Heap.setBytes out content

/-- A tensor is copied to a buffer of its size; a buffer of another size breaks the copy. -/
lemma atomic_fill {sum : Tensor} {zs : List Nat} (hout : heap.Holds out d)
    (hsum : sum.Reads x.dtype x.shape zs) (ht : x.dtype.hasTensor = true) (hx : heap.Holds x a)
    (hzs : zs.length = (heap.elements x).length)
    (hbreaks : breaks ↔ zs.length * x.dtype.size ≠ d.length) :
    (fill out sum).Atomic heap (heap.Rewritten out) breaks := by
  have hsize : Buffer.sizeOf? x.dtype x.shape = some (zs.length * x.dtype.size) := by
    rw [hx.size, hzs, hx.length_elements_mul]
  refine .after (Act.outcome_done (hsum.bytes_eq ht hsize) heap) ?_
  have hlength := Bytes.length_encodeWords x.dtype.size zs
  by_cases hfits : (Bytes.encodeWords x.dtype.size zs).length = d.length
  · refine .succeeds _ (hout.setBytes hfits) ⟨d, _, hout, hfits, rfl⟩ ?_
    rw [hbreaks]
    omega
  · refine .faults ((Act.bind_done hout.bytes).trans ?_) (hbreaks.2 (by omega))
    rw [if_neg hfits]
    rfl

/-- Summands are added, unless a sum lies outside the type, and copied to an output with elements of
the same size. -/
lemma atomic_summands (laws : TensorLaws plus) {left right : Tensor} (hx : heap.Holds x a)
    (hy : heap.Holds y b) (hout : heap.Holds out d) (hcount : ∀ b ∈ [x, y, out], b.shape.prod = n)
    (h : Summands x y n) (hleft : left.Reads x.dtype x.shape (heap.elements x))
    (hright : right.Reads x.dtype x.shape (heap.elements y)) :
    ((Act.ofOutcome ((TensorLibrary.add left right).mapError .tensor)).bind (fill out)).Atomic heap
      (heap.Rewritten out) (Overflows plus heap x y ∨ out.dtype.size ≠ x.dtype.size) := by
  simp only [List.forall_mem_cons] at hcount
  obtain ⟨hxn, hyn, houtn, -⟩ := hcount
  have hxs := (length_elements hx h.hasTensor).trans hxn
  have hys := (length_elements hy (h.dtype ▸ h.hasTensor)).trans hyn
  have hd : d.length = n * out.dtype.size := houtn ▸ hout.length_eq
  have hsame := hys.trans hxs.symm
  cases hsum : Number.addAll? plus x.dtype (heap.elements x) (heap.elements y) with
  | none =>
    rw [laws.add_none _ _ _ _ _ _ hleft hright hsame hsum]
    exact .faults rfl (.inl hsum)
  | some zs =>
    obtain ⟨sum, hadd, hreads⟩ := laws.add_some _ _ _ _ _ _ _ hleft hright hsame hsum
    have hlength := Number.length_addAll? hsum hsame
    have hnot : ¬ Overflows plus heap x y := by
      rw [Overflows, hsum]
      simp
    rw [hadd]
    refine .after rfl (atomic_fill hout hreads h.hasTensor hx hlength ?_)
    rw [hlength, hxs, hd, or_iff_right hnot, ne_comm, ne_eq, ne_eq, Nat.mul_right_inj h.pos.ne']

/-- The sum of any two tensors, with as many elements as the output. -/
lemma atomic_sum (laws : TensorLaws plus) {left right : Tensor} (hx : heap.Holds x a)
    (hy : heap.Holds y b) (hout : heap.Holds out d) (hcount : ∀ b ∈ [x, y, out], b.shape.prod = n)
    (htx : x.dtype.hasTensor = true) (hty : y.dtype.hasTensor = true)
    (hleft : left.Reads x.dtype x.shape (heap.elements x))
    (hright : right.Reads y.dtype y.shape (heap.elements y))
    (hbreaks : breaks ↔ Summands x y n ∧
      (Overflows plus heap x y ∨ out.dtype.size ≠ x.dtype.size)) :
    ((Act.ofOutcome ((TensorLibrary.add left right).mapError .tensor)).bind (fill out)).Atomic heap
      (heap.Rewritten out) breaks := by
  have hcounts := hcount
  simp only [List.forall_mem_cons] at hcounts
  obtain ⟨hxn, hyn, houtn, -⟩ := hcounts
  have hxs := (length_elements hx htx).trans hxn
  have hys := (length_elements hy hty).trans hyn
  by_cases hshape : x.shape = y.shape
  · rcases Nat.eq_zero_or_pos n with rfl | hpos
    · -- Nothing is added, and the output has no bytes either.
      have hnone := List.eq_nil_of_length_eq_zero hxs
      have hnone' := List.eq_nil_of_length_eq_zero hys
      rw [hnone] at hleft
      rw [hnone', ← hshape] at hright
      obtain ⟨sum, hadd, hreads⟩ := laws.add_empty _ _ _ _ _ hleft hright
      rw [hadd]
      refine .after rfl (atomic_fill hout hreads htx hx (congrArg _ hnone.symm) ?_)
      have hd : d.length = 0 := by rw [hout.length_eq, houtn, Nat.zero_mul]
      rw [hbreaks, hd, List.length_nil, Nat.zero_mul]
      constructor
      · rintro ⟨h, -⟩
        exact absurd h.pos (Nat.lt_irrefl 0)
      · simp
    · by_cases hdtype : x.dtype = y.dtype
      · have h : Summands x y n := ⟨hpos, htx, hdtype.symm, hshape.symm⟩
        rw [← hdtype, ← hshape] at hright
        rw [hbreaks, and_iff_right h]
        exact atomic_summands laws hx hy hout hcount h hleft hright
      · have hsome : heap.elements x ≠ [] := List.ne_nil_of_length_pos (hxs ▸ hpos)
        rw [← hshape] at hright
        rw [laws.add_dtype _ _ _ _ _ _ _ hleft hright hdtype hsome]
        exact .refuses _ rfl fun h => hdtype (hbreaks.1 h).1.dtype.symm
  · rw [laws.add_shape _ _ _ _ _ _ _ _ hleft hright hshape]
    exact .refuses _ rfl fun h => hshape (hbreaks.1 h).1.shape.symm

/-- An operand is read as a tensor, is refused for its type, or breaks the sum by its shape. -/
lemma atomic_ofBuffer (laws : TensorLaws plus) {f : Tensor → Act Silence Heap DeviceError Unit}
    (hx : heap.Holds x a) (hsound : breaks → x.dtype.hasTensor = true)
    (hover : x.dtype.hasTensor = true → ¬ Strided x.shape → breaks)
    (hf : ∀ left : Tensor, x.dtype.hasTensor = true → Strided x.shape →
      left.Reads x.dtype x.shape (heap.elements x) → (f left).Atomic heap reaches breaks) :
    ((Tensor.ofBuffer x).bind f).Atomic heap reaches breaks := by
  by_cases ht : x.dtype.hasTensor = true
  · by_cases hstrided : Strided x.shape
    · obtain ⟨left, hmade, hreads⟩ := laws.ofBuffer_eq (S := Silence) hx ht hstrided
      exact .after hmade (hf left ht hstrided hreads)
    · exact .faults (Act.bind_fault (laws.ofBuffer_unstrided hx ht hstrided)) (hover ht hstrided)
  · refine .refuses _ (Act.bind_error (Tensor.ofBuffer_unsupported ?_)) fun h => ht (hsound h)
    exact Bool.eq_false_of_not_eq_true ht

/-- Operands and an output with as many elements each. -/
lemma atomic_operands (laws : TensorLaws plus) (hx : heap.Holds x a) (hy : heap.Holds y b)
    (hout : heap.Holds out d) (hcount : ∀ b ∈ [x, y, out], b.shape.prod = n) :
    ((Tensor.ofBuffer x).bind fun left => (Tensor.ofBuffer y).bind fun right =>
      (Act.ofOutcome ((TensorLibrary.add left right).mapError .tensor)).bind (fill out)).Atomic heap
        (heap.Rewritten out) (Spoil plus heap x y out n) := by
  refine atomic_ofBuffer laws hx ?_ (fun ht hnot => .inl ⟨ht, .inl hnot⟩) ?_
  · rintro (h | h)
    · exact h.1
    · exact h.1.hasTensor
  intro left htx hstrided hleft
  refine atomic_ofBuffer laws hy ?_ (fun ht hnot => .inl ⟨htx, .inr ⟨ht, hnot⟩⟩) ?_
  · rintro (h | h)
    · exact (h.2.resolve_left (not_not.2 hstrided)).1
    · exact h.1.dtype ▸ h.1.hasTensor
  intro right hty hstrided' hright
  refine atomic_sum laws hx hy hout hcount htx hty hleft hright (or_iff_right ?_)
  rintro ⟨-, hnot | ⟨-, hnot⟩⟩
  · exact hnot hstrided
  · exact hnot hstrided'

/-- The kernels of the sums, on any arguments. -/
lemma atomic_hostKernel (laws : TensorLaws plus) (entry : String) (geometry : Geometry)
    {args : List Argument} (hlive : ∀ b, .buffer b ∈ args → heap.Live b) :
    (hostKernel entry geometry args).Atomic heap
      (fun heap' => ∃ out, args[2]? = some (.buffer out) ∧ heap.Rewritten out heap')
      (Breaks plus args heap) := by
  refine Argument.atomic_split ?_ ?_
  · rintro ⟨x, y, out, s, n, rfl, -⟩
    exact ⟨[x, y, out], [s], rfl, rfl, rfl⟩
  intro buffers scalars hargs hbuffers hscalars
  obtain ⟨x, y, out, rfl⟩ := List.length_eq_three.1 hbuffers
  obtain ⟨s, rfl⟩ := List.length_eq_one_iff.1 hscalars
  subst hargs
  rw [breaks_list_iff]
  refine Argument.atomic_countAt rfl (fun ⟨n, hs, _⟩ => ⟨n, hs⟩) ?_
  intro n hs
  have hover : (∃ n, s.toNat? = some n ∧ (∀ b ∈ [x, y, out], b.shape.prod = n) ∧
      Spoil plus heap x y out n) ↔
      (∀ b ∈ [x, y, out], b.shape.prod = n) ∧ Spoil plus heap x y out n := by
    simp [hs]
  rw [hover]
  have hcounts : ∀ b ∈ [x, y, out], (b.count : Outcome DeviceError Nat) = .ok b.shape.prod := by
    intro b hb
    obtain ⟨c, hc⟩ := hlive b (by simpa [Argument.list] using hb)
    exact hc.count_eq
  refine .checkEach (p := (· = n)) hcounts (·.1) ?_
  intro hfilled
  rw [and_iff_right hfilled]
  obtain ⟨a, hx⟩ := hlive x (by simp [Argument.list])
  obtain ⟨b, hy⟩ := hlive y (by simp [Argument.list])
  obtain ⟨d, hout⟩ := hlive out (by simp [Argument.list])
  exact (atomic_operands laws hx hy hout hfilled).mono fun _ h => ⟨out, rfl, h⟩

end Add

/-- The kernels that every host platform starts with. -/
inductive OwnKernel where
  | regroup (unit : RegroupUnit)
  | locations
  | add (entry : String)

namespace OwnKernel

def entry : OwnKernel → String
  | .regroup unit => unit.entry
  | .locations => RunningLocation.entry
  | .add entry => entry

def run [TensorLibrary] : OwnKernel → HostKernel
  | .regroup unit => Regroup.hostKernel unit
  | .locations => RunningLocation.hostKernel
  | .add entry => Add.hostKernel entry

def output : OwnKernel → Nat
  | .regroup _ => 0
  | .locations => 1
  | .add _ => 2

/-- The arguments that break the kernel. -/
def Breaks (plus : Addition) : OwnKernel → Geometry → List Argument → Heap → Prop
  | .regroup unit, _, args, _ => Regroup.Breaks unit args
  | .locations, geometry, args, _ => RunningLocation.Breaks geometry args
  | .add _, _, args, heap => Add.Breaks plus args heap

def all : List OwnKernel :=
  [.regroup .byte, .regroup .vector, .locations] ++
    (Add.variants.filterMap Add.entry?).map .add

lemma ownKernels_eq [TensorLibrary] : Host.ownKernels = all.map fun k => (k.entry, k.run) := rfl

variable {heap : Heap} {args : List Argument}

/-- For every kernel that a host platform starts with, every geometry and every list of arguments,
in any number and order, with any scalars and with host buffers of any types and sizes that may
share their memory: the kernel succeeds and has rewritten its output, or it is refused and has
changed nothing; and it faults, changing nothing either, exactly on the arguments that break it. -/
theorem run_atomic_all [TensorLibrary] {plus : Addition} (laws : TensorLaws plus)
    (geometry : Geometry) (hlive : ∀ b, .buffer b ∈ args → heap.Live b) :
    (Host.ownKernels = all.map fun k => (k.entry, k.run)) ∧
      ∀ k ∈ all, (k.run geometry args).Atomic heap
        (fun heap' => ∃ out, args[k.output]? = some (.buffer out) ∧ heap.Rewritten out heap')
        (k.Breaks plus geometry args heap) := by
  constructor
  · exact ownKernels_eq
  intro k _
  cases k with
  | regroup unit => exact Regroup.atomic_hostKernel unit geometry hlive
  | locations => exact RunningLocation.atomic_hostKernel geometry hlive
  | add entry => exact Add.atomic_hostKernel laws entry geometry hlive

/-- Two numbers of 32 bits and one of 64, each in a buffer of its own. -/
def threeNumbers : Heap :=
  [⟨.host (List.replicate 4 1), [Heap.hostOwner 0], 1⟩,
    ⟨.host (List.replicate 4 1), [Heap.hostOwner 0], 1⟩,
    ⟨.host (List.replicate 8 0), [Heap.hostOwner 0], 1⟩]

def small (cell : Nat) : Buffer := ⟨.u32, [1], 0, cell⟩

def large : Buffer := ⟨.i64, [1], 0, 2⟩

/-- A heap with a buffer of no bytes. -/
def noNumbers : Heap := [⟨.host [], [Heap.hostOwner 0], 1⟩]

/-- No numbers, in a shape whose last extents multiply to more than a word. -/
def nothing : Buffer := ⟨.f32, [0, Word.bound32, Word.bound32], 0, 0⟩

lemma live_threeNumbers : ∀ b ∈ [small 0, small 1, large], threeNumbers.Live b := by
  simp only [List.forall_mem_cons]
  refine ⟨⟨List.replicate 4 1, ?_⟩, ⟨List.replicate 4 1, ?_⟩, ⟨List.replicate 8 0, ?_⟩, by simp⟩
  · exact ⟨⟨_, _, rfl⟩, rfl, by decide⟩
  · exact ⟨⟨_, _, rfl⟩, rfl, by decide⟩
  · exact ⟨⟨_, _, rfl⟩, rfl, by decide⟩

/-- The small numbers, with the first one for their sum. -/
def inPlace : List Argument := Argument.list [small 0, small 1, small 0] [.u64 1]

lemma live_inPlace : ∀ b, .buffer b ∈ inPlace → threeNumbers.Live b := by
  intro b hb
  apply live_threeNumbers
  simp only [inPlace, Argument.list, List.map_cons, List.map_nil, List.cons_append,
    List.nil_append, List.mem_cons, Argument.buffer.injEq, reduceCtorEq, List.not_mem_nil,
    or_false] at hb ⊢
  tauto

open StandIn in
/-- The small numbers are added in place, and no other own kernel takes these arguments. -/
theorem run_atomic_all_in_place :
    (∀ b, .buffer b ∈ inPlace → threeNumbers.Live b) ∧
      (∀ k ∈ all, (k.run .unit inPlace).Atomic threeNumbers
        (fun heap' => ∃ out, inPlace[k.output]? = some (.buffer out) ∧
          threeNumbers.Rewritten out heap') (k.Breaks Number.add? .unit inPlace threeNumbers)) ∧
      (add "x_add_y_u32").run .unit inPlace threeNumbers =
        .done (.ok (), threeNumbers.write (small 0) [2, 2, 2, 2]) ∧
      locations.run .unit inPlace threeNumbers =
        .done (.error (.invalidArguments RunningLocation.entry (.counts 2 1 3 1)),
          threeNumbers) := by
  refine ⟨live_inPlace, (run_atomic_all (RowMajor.laws _) .unit live_inPlace).2, ?_, ?_⟩
  · exact Program.eq_done_of_value (by decide +kernel)
  · exact Program.eq_done_of_value (by decide +kernel)

open StandIn in
/-- A column of more bytes than a word can count, in no rows; chunks without bytes, and more of them
than a word can count; more cells than a word can count; a sum of small numbers in the place of the
large one; a sum of nothing, in a shape whose strides are no words. -/
theorem arguments_break :
    (∀ b ∈ [small 0, small 1, large], threeNumbers.Live b) ∧ noNumbers.Live nothing ∧
      (regroup .byte).run .unit (Argument.list [small 0, small 1]
        [.u64 Word.signedBound, .u64 2, .u64 0]) threeNumbers = .done (.fault none, threeNumbers) ∧
      (regroup .byte).run .unit (Argument.list [small 0, small 1]
        [.u64 0, .u64 Word.bound32, .u64 Word.bound32]) threeNumbers =
          .done (.fault none, threeNumbers) ∧
      locations.run ⟨.ofWidth 2, .one⟩ (Argument.list [small 0, small 1]
        [.u64 Word.signedBound]) threeNumbers = .done (.fault none, threeNumbers) ∧
      (add "x_add_y_u32").run .unit (Argument.list [small 0, small 1, large] [.u64 1])
        threeNumbers = .done (.fault none, threeNumbers) ∧
      (add "x_add_y_f32").run .unit (Argument.list [nothing, nothing, nothing] [.u64 0])
        noNumbers = .done (.fault none, noNumbers) := by
  have hnothing : noNumbers.Live nothing := ⟨[], ⟨⟨_, _, rfl⟩, rfl, by decide⟩⟩
  refine ⟨live_threeNumbers, hnothing, ?_, ?_, ?_, ?_, ?_⟩
  · exact Program.eq_done_of_value (by decide +kernel)
  · exact Program.eq_done_of_value (by decide +kernel)
  · exact Program.eq_done_of_value (by decide +kernel)
  · exact Program.eq_done_of_value (by decide +kernel)
  · exact Program.eq_done_of_value (by decide +kernel)

end OwnKernel

end ExpertExchange
