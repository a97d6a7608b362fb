import ExpertExchange.Proofs.Device.Lawful

/-!
# Elements, bytes and tensors

A host buffer is made from elements, from bytes or from a tensor, and is read as any of them. These
are forms of one content: whichever way a buffer was made, reading it in one form and making a
buffer from that gives the same content again. What does not fit a buffer is refused, and changes
nothing.

The size of a buffer is multiplied from the left. Where a product on the way is not a word, making
the buffer faults, also if the shape has no elements at all because a later extent is zero. The
strides of a tensor are multiplied from the right, and there is no tensor where these are not words.
-/

namespace ExpertExchange

namespace Buffer

variable {ε : Type} {t : Dtype} {shape : List Nat} {n : Nat}

/-- A product on the way to the size in bytes of a buffer is not a word: the product of the first
extents, or that of all extents with the size of an element. -/
def Overruns (t : Dtype) (shape : List Nat) : Prop :=
  (∃ k, Word.bound ≤ (shape.take k).prod) ∨ Word.bound ≤ shape.prod * t.size

lemma sizeOf?_eq_none_iff : sizeOf? t shape = none ↔ Overruns t shape := by
  cases hcount : Word.product? shape with
  | none =>
    have hnone : sizeOf? t shape = none := by rw [sizeOf?, hcount, Option.bind_none]
    exact iff_of_true hnone (.inl (Word.product?_eq_none_iff.1 hcount))
  | some m =>
    have hm := Word.product?_eq_prod hcount
    have hshort : ¬ ∃ k, Word.bound ≤ (shape.take k).prod := by
      rw [← Word.product?_eq_none_iff, hcount]
      exact Option.some_ne_none m
    rw [sizeOf?, hcount, Option.bind_some, hm, Overruns, or_iff_right hshort, Word.mul?]
    by_cases hsize : shape.prod * t.size < Word.bound
    · rw [if_pos hsize]
      exact iff_of_false (Option.some_ne_none _) (Nat.not_le.2 hsize)
    · rw [if_neg hsize]
      exact iff_of_true rfl (Nat.not_lt.1 hsize)

lemma sizeOf?_eq_some (h : ¬ Overruns t shape) : sizeOf? t shape = some (shape.prod * t.size) := by
  rw [← sizeOf?_eq_none_iff] at h
  obtain ⟨n, hn⟩ := Option.ne_none_iff_exists'.1 h
  rw [hn, sizeOf?_eq_prod hn]

/-- Where the size itself is a word, only a shape without elements overruns. -/
lemma Overruns.prod_eq_zero (h : Overruns t shape) (ht : 0 < t.size)
    (hsize : shape.prod * t.size < Word.bound) : shape.prod = 0 := by
  obtain ⟨k, hk⟩ : ∃ k, Word.bound ≤ (shape.take k).prod := by
    refine h.resolve_right ?_
    omega
  by_contra hprod
  have hpos : 0 < shape.prod := Nat.pos_of_ne_zero hprod
  have hfirst : (shape.take k).prod ≤ shape.prod := by
    refine Nat.le_of_dvd hpos ⟨(shape.drop k).prod, ?_⟩
    exact (List.prod_take_mul_prod_drop shape k).symm
  have hall : shape.prod ≤ shape.prod * t.size := Nat.le_mul_of_pos_right _ ht
  omega

end Buffer

namespace Heap

variable {S : Service} {h : Heap} {b : Buffer} {c : Bytes} {t : Dtype} {shape values : List Nat}
  {device n : Nat}

def placed (h : Heap) (device : Nat) (c : Bytes) : Heap := h ++ [⟨.host c, [hostOwner device], 1⟩]

lemma ofBytes_eq (h : Heap) (device : Nat) (hsize : Buffer.sizeOf? t shape = some c.length) :
    (ofBytes device t shape c : Act S Heap DeviceError Buffer) h =
      .done (.ok ⟨t, shape, device, h.length⟩, h.placed device c) := by
  refine (Act.bind_done (Act.outcome_done (Buffer.sizeOf_eq hsize) h)).trans ?_
  exact Act.bind_done (Act.ensure_done rfl _ h)

lemma ofBytes_misfit (hsize : Buffer.sizeOf? t shape = some n) (hc : c.length ≠ n) :
    (ofBytes device t shape c : Act S Heap DeviceError Buffer) h =
      .done (.error (.sizeMismatch n c.length), h) := by
  refine (Act.bind_done (Act.outcome_done (Buffer.sizeOf_eq hsize) h)).trans ?_
  exact Act.bind_error (Act.ensure_error hc _ h)

lemma ofBytes_overrun (hshape : Buffer.Overruns t shape) :
    (ofBytes device t shape c : Act S Heap DeviceError Buffer) h = .done (.fault none, h) := by
  have hsize : (Act.ofOutcome (Buffer.sizeOf t shape) : Act S Heap DeviceError Nat) h =
      .done (.fault none, h) := by
    rw [Buffer.sizeOf_eq_orFault, Buffer.sizeOf?_eq_none_iff.2 hshape]
    rfl
  exact Act.bind_fault hsize

lemma holds_placed (h : Heap) (device : Nat) (hsize : Buffer.sizeOf? t shape = some c.length)
    (hsmall : c.length ≤ Word.allocationBound) :
    (h.placed device c).Holds ⟨t, shape, device, h.length⟩ c where
  host := ⟨[hostOwner device], 1, by simp [placed]⟩
  size := hsize
  small := hsmall

end Heap

namespace Tensor

variable [TensorLibrary] {S : Service} {h : Heap} {x : Tensor} {t : Dtype}
  {shape values : List Nat} {device : Nat}

/-- The elements of a tensor are those of a buffer. -/
lemma Reads.toBuffer_eq (hx : x.Reads t shape values) (ht : t.hasTensor = true) :
    (x.toBuffer device : Act S Heap DeviceError Buffer) h =
      (Heap.ofWords device t values shape : Act S Heap DeviceError Buffer) h := by
  refine (Act.bind_done (Act.outcome_done (hx.content_eq ht) h)).trans ?_
  rw [hx.dtype, hx.shape_eq]
  rfl

/-- No buffer is made from a tensor of a type that buffers are not read as. -/
lemma Reads.toBuffer_unsupported (hx : x.Reads t shape values) (ht : t.hasTensor = false) :
    (x.toBuffer device : Act S Heap DeviceError Buffer) h =
      .done (.error (.unsupported (.tensorType t)), h) := by
  obtain ⟨flat, hflat, -⟩ := hx.elements_eq
  have hcontent : x.content = .error (.unsupported (.tensorType t)) := by
    simp [content, hflat, hx.dtype, Outcome.mapError, Outcome.bind, Outcome.ensure, ht]
  exact Act.bind_error (congrArg (fun o => Program.done (o, h)) hcontent)

end Tensor

namespace Heap

variable {S : Service} {h : Heap} {b : Buffer} {c content : Bytes} {t t' : Dtype}
  {shape values : List Nat} {device n : Nat}

/-- The elements of a buffer make up its bytes. -/
lemma Holds.encodeWords_elements (hb : h.Holds b c) :
    Bytes.encodeWords b.dtype.size (h.elements b) = c := by
  rw [elements, hb.content_eq]
  exact Bytes.encodeWords_decodeWords (Buffer.size_dvd hb.size)

/-- A buffer made from elements that fit its type holds these elements. -/
lemma Holds.elements_encodeWords (ht : b.dtype.hasTensor = true)
    (hfit : ∀ v ∈ values, v < Bytes.wordBound b.dtype.size)
    (hb : h.Holds b (Bytes.encodeWords b.dtype.size values)) : h.elements b = values := by
  rw [elements, hb.content_eq]
  exact Bytes.decodeWords_encodeWords_of_fit (Dtype.size_pos ht) hfit

/-- The elements of a buffer make another one with the same bytes. -/
lemma Holds.ofWords_elements (hb : h.Holds b c) (device : Nat) :
    (ofWords device b.dtype (h.elements b) b.shape : Act S Heap DeviceError Buffer) h =
      .done (.ok ⟨b.dtype, b.shape, device, h.length⟩, h.placed device c) := by
  have hbytes := ofBytes_eq (S := S) h device hb.size
  rw [← hb.encodeWords_elements] at hbytes
  rw [ofWords, hbytes, hb.encodeWords_elements]

lemma setWords_misfit (hsize : (b.byteCount : Outcome DeviceError Nat) = .ok n)
    (hvalues : values.length * b.dtype.size ≠ n) :
    (setWords b b.dtype values : Act S Heap DeviceError Unit) h =
      .done (.error (.sizeMismatch n (values.length * b.dtype.size)), h) := by
  have hlength := Bytes.length_encodeWords b.dtype.size values
  refine (Act.bind_done (Act.ensure_done rfl _ h)).trans ?_
  refine (Act.bind_done (Act.outcome_done hsize h)).trans ?_
  rw [← hlength]
  exact Act.bind_error (Act.ensure_error (hlength ▸ hvalues) _ h)

lemma copyIn_misfit (hsize : (b.byteCount : Outcome DeviceError Nat) = .ok n)
    (hcontent : content.length ≠ n) :
    (copyIn b content : Act S Heap DeviceError Unit) h =
      .done (.error (.sizeMismatch n content.length), h) := by
  refine (Act.bind_done (Act.outcome_done hsize h)).trans ?_
  exact Act.bind_error (Act.ensure_error hcontent _ h)

end Heap

/-- Buffers of type `t`, their elements, their bytes and their tensors are forms of one content, and
what does not fit a buffer is refused and leaves everything as it was. -/
structure Interchanges [TensorLibrary] (S : Service) (t : Dtype) : Prop where
  /-- Elements are read back as they were given. -/
  elements : ∀ (h : Heap) (device : Nat) (shape values : List Nat),
    (∀ v ∈ values, v < Bytes.wordBound t.size) → values.length = shape.prod →
    values.length * t.size ≤ Word.allocationBound → ¬ Buffer.Overruns t shape →
    ∃ b h', (Heap.ofWords device t values shape : Act S Heap DeviceError Buffer) h =
        .done (.ok b, h') ∧ b.dtype = t ∧ b.shape = shape ∧ b.device = device ∧
      (Heap.words b t : Act S Heap DeviceError (List Nat)) h' = .done (.ok values, h')
  /-- Bytes are read as elements that make up the same bytes again. -/
  bytes : ∀ (h : Heap) (device : Nat) (shape : List Nat) (content : Bytes),
    content.length = shape.prod * t.size → content.length ≤ Word.allocationBound →
    ¬ Buffer.Overruns t shape →
    ∃ b h₁ values b' h₂, (Heap.ofBytes device t shape content : Act S Heap DeviceError Buffer) h =
        .done (.ok b, h₁) ∧ b.dtype = t ∧ b.shape = shape ∧
      (Heap.words b t : Act S Heap DeviceError (List Nat)) h₁ = .done (.ok values, h₁) ∧
      (Heap.ofWords device t values shape : Act S Heap DeviceError Buffer) h₁ =
        .done (.ok b', h₂) ∧
      (Heap.bytes b' : Act S Heap DeviceError Bytes) h₂ = .done (.ok content, h₂)
  /-- The tensor of a buffer makes a buffer of the same type, shape and bytes. -/
  tensors : ∀ (h : Heap) (b : Buffer) (content : Bytes) (device : Nat), h.Holds b content →
    b.dtype = t → Strided b.shape →
    ∃ x b' h', (Tensor.ofBuffer b : Act S Heap DeviceError Tensor) h = .done (.ok x, h) ∧
      (Tensor.toBuffer x device : Act S Heap DeviceError Buffer) h = .done (.ok b', h') ∧
      b'.dtype = t ∧ b'.shape = b.shape ∧ b'.device = device ∧
      (Heap.bytes b' : Act S Heap DeviceError Bytes) h' = .done (.ok content, h')
  /-- There are no tensors whose strides are not words. -/
  strideless : ∀ (h : Heap) (b : Buffer) (content : Bytes), h.Holds b content → b.dtype = t →
    ¬ Strided b.shape →
    (Tensor.ofBuffer b : Act S Heap DeviceError Tensor) h = .done (.fault none, h)
  /-- These would be tensors without elements. -/
  strideless_empty : ∀ (h : Heap) (b : Buffer) (content : Bytes), h.Holds b content →
    ¬ Strided b.shape → b.shape.prod = 0
  /-- A buffer of a type without tensors is not read as one. -/
  untensored : ∀ (h : Heap) (b : Buffer), b.dtype.hasTensor = false →
    (Tensor.ofBuffer b : Act S Heap DeviceError Tensor) h =
      .done (.error (.unsupported (.bufferType b.dtype)), h)
  /-- No buffer is made from a tensor of such a type. -/
  unbuffered : ∀ (h : Heap) (x : Tensor) (t' : Dtype) (shape values : List Nat) (device : Nat),
    t'.hasTensor = false → x.Reads t' shape values →
    (Tensor.toBuffer x device : Act S Heap DeviceError Buffer) h =
      .done (.error (.unsupported (.tensorType t')), h)
  /-- A buffer is not read as another type. -/
  unread : ∀ (h : Heap) (b : Buffer) (t' : Dtype), b.dtype = t → t' ≠ t →
    (Heap.words b t' : Act S Heap DeviceError (List Nat)) h =
      .done (.error (.invalidArguments "to_vec" (.readAs t t')), h)
  /-- Elements of another type are not written. -/
  unwritten : ∀ (h : Heap) (b : Buffer) (t' : Dtype) (values : List Nat), b.dtype = t → t' ≠ t →
    (Heap.setWords b t' values : Act S Heap DeviceError Unit) h =
      .done (.error (.invalidArguments "write_slice" (.writtenAs t t')), h)
  /-- Neither are more or fewer elements than the buffer holds. -/
  misfitElements : ∀ (h : Heap) (b : Buffer) (size : Nat) (values : List Nat), b.dtype = t →
    (b.byteCount : Outcome DeviceError Nat) = .ok size → values.length * t.size ≠ size →
    (Heap.setWords b t values : Act S Heap DeviceError Unit) h =
      .done (.error (.sizeMismatch size (values.length * t.size)), h)
  /-- Neither are more or fewer bytes. -/
  misfitBytes : ∀ (h : Heap) (b : Buffer) (size : Nat) (content : Bytes), b.dtype = t →
    (b.byteCount : Outcome DeviceError Nat) = .ok size → content.length ≠ size →
    (Heap.copyIn b content : Act S Heap DeviceError Unit) h =
      .done (.error (.sizeMismatch size content.length), h)
  /-- No buffer is made from more or fewer bytes than its shape asks for. -/
  unmade : ∀ (h : Heap) (device : Nat) (shape : List Nat) (content : Bytes),
    ¬ Buffer.Overruns t shape → content.length ≠ shape.prod * t.size →
    (Heap.ofBytes device t shape content : Act S Heap DeviceError Buffer) h =
      .done (.error (.sizeMismatch (shape.prod * t.size) content.length), h)
  /-- Making a buffer of a shape that overruns is a fault. -/
  overrun : ∀ (h : Heap) (device : Nat) (shape values : List Nat) (content : Bytes),
    Buffer.Overruns t shape →
    (Heap.ofBytes device t shape content : Act S Heap DeviceError Buffer) h =
        .done (.fault none, h) ∧
      (Heap.ofWords device t values shape : Act S Heap DeviceError Buffer) h =
        .done (.fault none, h)
  /-- Of the shapes whose elements fit into memory only some without any elements overrun. -/
  overrun_empty : ∀ shape : List Nat, Buffer.Overruns t shape →
    shape.prod * t.size ≤ Word.allocationBound → shape.prod = 0

open Heap in
/-- For every element type with tensors, all forms of a buffer's content can be exchanged for each
other, as long as the size of its shape can be computed from the left, and for tensors its strides
from the right. -/
theorem conversions_inverse [TensorLibrary] {plus : Addition} (laws : TensorLaws plus) {S : Service}
    {t : Dtype} (ht : t.hasTensor = true) : Interchanges S t where
  elements h device shape values hfit hcount hsmall hshape := by
    have hlength := Bytes.length_encodeWords t.size values
    have hsize : Buffer.sizeOf? t shape = some (Bytes.encodeWords t.size values).length := by
      rw [Buffer.sizeOf?_eq_some hshape, hlength, hcount]
    have hb := holds_placed h device hsize (hlength ▸ hsmall)
    refine ⟨_, _, ofBytes_eq h device hsize, rfl, rfl, rfl, ?_⟩
    rw [hb.words_eq rfl, hb.elements_encodeWords ht hfit]
  bytes h device shape content hlength hsmall hshape := by
    have hsize : Buffer.sizeOf? t shape = some content.length := by
      rw [Buffer.sizeOf?_eq_some hshape, hlength]
    have hb := holds_placed h device hsize hsmall
    have hb' := holds_placed (h.placed device content) device hsize hsmall
    exact ⟨_, _, _, _, _, ofBytes_eq h device hsize, rfl, rfl, hb.words_eq rfl,
      hb.ofWords_elements device, hb'.bytes⟩
  tensors h b content device hb hdtype hstrided := by
    subst hdtype
    have hb' := holds_placed h device hb.size hb.small
    obtain ⟨x, hx, hreads⟩ := laws.ofBuffer_eq (S := S) hb ht hstrided
    refine ⟨x, ⟨b.dtype, b.shape, device, h.length⟩, h.placed device content, hx, ?_, rfl, rfl, rfl,
      hb'.bytes⟩
    rw [hreads.toBuffer_eq ht]
    exact hb.ofWords_elements device
  strideless h b content hb hdtype hstrided := by
    subst hdtype
    exact laws.ofBuffer_unstrided hb ht hstrided
  strideless_empty h b content hb hstrided := by
    obtain ⟨n, hcount, -⟩ := Option.bind_eq_some_iff.1 hb.size
    rw [← Word.product?_eq_prod hcount]
    exact eq_zero_of_not_strided hcount hstrided
  untensored h b hb := Tensor.ofBuffer_unsupported hb
  unbuffered h x t' shape values device ht' hx := hx.toBuffer_unsupported ht'
  unread h b t' hdtype ht' := by
    subst hdtype
    exact Act.bind_error (Act.ensure_error ht' _ h)
  unwritten h b t' values hdtype ht' := by
    subst hdtype
    exact Act.bind_error (Act.ensure_error ht' _ h)
  misfitElements h b size values hdtype hsize hvalues := by
    subst hdtype
    exact setWords_misfit hsize hvalues
  misfitBytes h b size content _ hsize hcontent := copyIn_misfit hsize hcontent
  unmade h device shape content hshape hcontent :=
    ofBytes_misfit (Buffer.sizeOf?_eq_some hshape) hcontent
  overrun h device shape values content hshape := ⟨ofBytes_overrun hshape, ofBytes_overrun hshape⟩
  overrun_empty shape hshape hsmall := by
    refine hshape.prod_eq_zero (Dtype.size_pos ht) ?_
    exact Nat.lt_of_le_of_lt hsmall (by decide)

open StandIn in
/-- Two single-precision numbers, one of them not a number, are read back bit for bit, and are the
bytes of a buffer that is made of the tensor of a buffer with these bytes. -/
theorem conversions_inverse_two_singles :
    Dtype.f32.hasTensor = true ∧
      (∃ b h', (Heap.ofWords 1 .f32 [0x3fc00000, 0x7fc00001] [2, 1] :
          Act Silence Heap DeviceError Buffer) [] = .done (.ok b, h') ∧
        b.dtype = .f32 ∧ b.shape = [2, 1] ∧ b.device = 1 ∧
        (Heap.words b .f32 : Act Silence Heap DeviceError (List Nat)) h' =
          .done (.ok [0x3fc00000, 0x7fc00001], h')) ∧
      let b : Buffer := ⟨.f32, [2, 1], 0, 0⟩
      let h : Heap := [⟨.host [0, 0, 0xc0, 0x3f, 1, 0, 0xc0, 0x7f], [], 1⟩]
      ∃ x b' h', (Tensor.ofBuffer b : Act Silence Heap DeviceError Tensor) h = .done (.ok x, h) ∧
        (Tensor.toBuffer x 1 : Act Silence Heap DeviceError Buffer) h = .done (.ok b', h') ∧
        b'.dtype = .f32 ∧ b'.shape = [2, 1] ∧ b'.device = 1 ∧
        (Heap.bytes b' : Act Silence Heap DeviceError Bytes) h' =
          .done (.ok [0, 0, 0xc0, 0x3f, 1, 0, 0xc0, 0x7f], h') := by
  have hinverse : Interchanges Silence .f32 :=
    conversions_inverse (RowMajor.laws Number.add?) rfl
  refine ⟨rfl, ?_, ?_⟩
  · exact hinverse.elements [] 1 [2, 1] _ (by decide) rfl (by decide)
      (mt Buffer.sizeOf?_eq_none_iff.2 (by decide))
  · intro b h
    exact hinverse.tensors h b _ 1 ⟨⟨[], 1, rfl⟩, rfl, by decide⟩ rfl rfl

/-- A shape without elements for which no buffer is made. -/
theorem empty_shape_overruns :
    ([] : List Nat).length = [0x100000000, 0x100000000, 0].prod ∧
      (Heap.ofWords 0 .f32 [] [0x100000000, 0x100000000, 0] :
        Act Silence Heap DeviceError Buffer) [] = .done (.fault none, []) :=
  ⟨rfl, rfl⟩

end ExpertExchange
