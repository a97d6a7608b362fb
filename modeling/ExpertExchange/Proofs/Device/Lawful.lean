import ExpertExchange.Proofs.Device.Elements
import ExpertExchange.Proofs.Number.Sums
import ExpertExchange.StandIn.Tensors
import Mathlib.Algebra.BigOperators.Group.List.Basic

/-!
# What is known about tensors

The tensor library is not part of this one, so what its calls do is stated as laws, and what is said
about sums holds for every library that keeps them. A tensor is of the type, shape and elements that
it was made of; elements are added by an addition that the laws leave open. The laws also say where
the library faults: on a shape whose strides are not words, and on elements without a sum.
-/

namespace ExpertExchange

/-- Only shapes without elements can have strides that are not words. -/
lemma strided_of_pos {shape : List Nat} {n : Nat} (hcount : Word.product? shape = some n)
    (hpos : 0 < n) : Strided shape := by
  rw [Strided, Option.isSome_iff_ne_none]
  intro hnone
  obtain ⟨k, hk⟩ := Word.product?_eq_none_iff.1 hnone
  have hprod : shape.reverse.prod = n := by
    rw [List.prod_reverse, ← Word.product?_eq_prod hcount]
  have hfirst : (shape.reverse.take k).prod ≤ n := by
    refine Nat.le_of_dvd hpos ⟨(shape.reverse.drop k).prod, ?_⟩
    rw [List.prod_take_mul_prod_drop, hprod]
  exact absurd (Word.product?_lt hcount) (by omega)

lemma eq_zero_of_not_strided {shape : List Nat} {n : Nat} (hcount : Word.product? shape = some n)
    (hstrided : ¬ Strided shape) : n = 0 := by
  by_contra hne
  exact hstrided (strided_of_pos hcount (Nat.pos_of_ne_zero hne))

namespace Tensor

variable [TensorLibrary] {x : Tensor} {t : Dtype} {shape elements : List Nat}

/-- The tensor has this type and shape, and these elements. -/
structure Reads (x : Tensor) (t : Dtype) (shape elements : List Nat) : Prop where
  dtype : TensorLibrary.dtype x = t
  shape_eq : TensorLibrary.shape x = shape
  elements_eq : ∃ flat, TensorLibrary.flatten x = .ok flat ∧
    TensorLibrary.elements flat = .ok elements

lemma Reads.content_eq (hx : x.Reads t shape elements) (ht : t.hasTensor = true) :
    x.content = .ok (Bytes.encodeWords t.size elements) := by
  obtain ⟨flat, hflat, helements⟩ := hx.elements_eq
  simp [content, hflat, hx.dtype, helements, Outcome.mapError, Outcome.bind, Outcome.ensure, ht]

lemma Reads.bytes_eq (hx : x.Reads t shape elements) (ht : t.hasTensor = true)
    (hsize : Buffer.sizeOf? t shape = some (elements.length * t.size)) :
    x.bytes = .ok (Bytes.encodeWords t.size elements) := by
  have hlength := Bytes.length_encodeWords t.size elements
  rw [bytes, hx.content_eq ht, hx.dtype, hx.shape_eq]
  simp [Outcome.bind, Buffer.sizeOf_eq hsize, Outcome.ensure, hlength]

end Tensor

/-- The laws of a tensor library that adds two elements by `plus`. The first and the third are what
its documentation says of making and reading tensors and of adding them. That its sizes and sums are
checked arithmetic, which faults on overflow, are the second and the last. -/
structure TensorLaws [TensorLibrary] (plus : Addition) : Prop where
  /-- A tensor is made of as many elements as its shape asks for, each of which fits its type. -/
  made : ∀ (t : Dtype) (shape elements : List Nat), t.hasTensor = true →
    Word.product? shape = some elements.length → Strided shape →
    (∀ e ∈ elements, e < Bytes.wordBound t.size) →
    ∃ x : Tensor, TensorLibrary.ofElements t elements shape = .ok x ∧ x.Reads t shape elements
  /-- The strides of a tensor are words. -/
  unstrided : ∀ (t : Dtype) (shape elements : List Nat), t.hasTensor = true →
    Word.product? shape = some elements.length → ¬ Strided shape →
    TensorLibrary.ofElements t elements shape = .fault none
  /-- Tensors of one type and shape are added element by element. -/
  add_some : ∀ (x y : Tensor) (t : Dtype) (shape xs ys zs : List Nat), x.Reads t shape xs →
    y.Reads t shape ys → ys.length = xs.length → Number.addAll? plus t xs ys = some zs →
    ∃ z : Tensor, TensorLibrary.add x y = .ok z ∧ z.Reads t shape zs
  /-- Tensors of two shapes are not added. -/
  add_shape : ∀ (x y : Tensor) (t t' : Dtype) (shape shape' xs ys : List Nat),
    x.Reads t shape xs → y.Reads t' shape' ys → shape ≠ shape' →
    TensorLibrary.add x y = .error (.shape shape shape')
  /-- Tensors of two types are not added, unless there is nothing to add. -/
  add_dtype : ∀ (x y : Tensor) (t t' : Dtype) (shape xs ys : List Nat),
    x.Reads t shape xs → y.Reads t' shape ys → t ≠ t' → xs ≠ [] →
    TensorLibrary.add x y = .error (.dtype t t')
  add_empty : ∀ (x y : Tensor) (t t' : Dtype) (shape : List Nat),
    x.Reads t shape [] → y.Reads t' shape [] →
    ∃ z : Tensor, TensorLibrary.add x y = .ok z ∧ z.Reads t shape []
  /-- All sums of elements have to be in the type. -/
  add_none : ∀ (x y : Tensor) (t : Dtype) (shape xs ys : List Nat), x.Reads t shape xs →
    y.Reads t shape ys → ys.length = xs.length → Number.addAll? plus t xs ys = none →
    TensorLibrary.add x y = .fault none

namespace TensorLaws

variable [TensorLibrary] {plus : Addition} {S : Service} {heap : Heap} {b : Buffer} {c : Bytes}
  {t : Dtype} {shape : List Nat}

lemma ofElements_decodeWords (laws : TensorLaws plus) (ht : t.hasTensor = true)
    (hsize : Buffer.sizeOf? t shape = some c.length) (hstrided : Strided shape) :
    ∃ x : Tensor, TensorLibrary.ofElements t (Bytes.decodeWords t.size c) shape = .ok x ∧
      x.Reads t shape (Bytes.decodeWords t.size c) :=
  laws.made t shape _ ht (Buffer.product?_eq_length_decodeWords ht hsize) hstrided
    (Bytes.fit_decodeWords (Buffer.size_dvd hsize))

/-- Bytes that fill a shape are the content of a tensor. -/
lemma ofBytes_eq (laws : TensorLaws plus) (ht : t.hasTensor = true)
    (hsize : Buffer.sizeOf? t shape = some c.length) (hstrided : Strided shape) :
    ∃ x : Tensor, Tensor.ofBytes t shape c = .ok x ∧
      x.Reads t shape (Bytes.decodeWords t.size c) := by
  obtain ⟨x, hmade, hreads⟩ := laws.ofElements_decodeWords ht hsize hstrided
  refine ⟨x, ?_, hreads⟩
  simp [Tensor.ofBytes, Buffer.sizeOf_eq hsize, Outcome.bind, Outcome.ensure, ht, hmade,
    Outcome.mapError]

lemma ofBytes_unstrided (laws : TensorLaws plus) (ht : t.hasTensor = true)
    (hsize : Buffer.sizeOf? t shape = some c.length) (hstrided : ¬ Strided shape) :
    Tensor.ofBytes t shape c = .fault none := by
  have hfault := laws.unstrided t shape (Bytes.decodeWords t.size c) ht
    (Buffer.product?_eq_length_decodeWords ht hsize) hstrided
  simp [Tensor.ofBytes, Buffer.sizeOf_eq hsize, Outcome.bind, Outcome.ensure, ht, hfault,
    Outcome.mapError]

/-- The elements of a buffer are those of a tensor. -/
lemma ofBuffer_eq (laws : TensorLaws plus) (hb : heap.Holds b c) (ht : b.dtype.hasTensor = true)
    (hstrided : Strided b.shape) :
    ∃ x : Tensor, (Tensor.ofBuffer b : Act S Heap DeviceError Tensor) heap =
      .done (.ok x, heap) ∧ x.Reads b.dtype b.shape (heap.elements b) := by
  obtain ⟨x, hmade, hreads⟩ := laws.ofElements_decodeWords ht hb.size hstrided
  rw [← hb.elements_eq] at hmade hreads
  refine ⟨x, ?_, hreads⟩
  refine (Act.bind_done (Act.ensure_done ht _ heap)).trans ?_
  refine (Act.bind_done (hb.words_eq rfl)).trans ?_
  rw [hmade]
  rfl

lemma ofBuffer_unstrided (laws : TensorLaws plus) (hb : heap.Holds b c)
    (ht : b.dtype.hasTensor = true) (hstrided : ¬ Strided b.shape) :
    (Tensor.ofBuffer b : Act S Heap DeviceError Tensor) heap = .done (.fault none, heap) := by
  have hfault := laws.unstrided b.dtype b.shape (heap.elements b) ht ?_ hstrided
  · refine (Act.bind_done (Act.ensure_done ht _ heap)).trans ?_
    refine (Act.bind_done (hb.words_eq rfl)).trans ?_
    rw [hfault]
    rfl
  · rw [hb.elements_eq]
    exact Buffer.product?_eq_length_decodeWords ht hb.size

end TensorLaws

namespace Tensor

variable [TensorLibrary] {S : Service} {heap : Heap} {b : Buffer} {t : Dtype} {shape : List Nat}
  {c : Bytes}

lemma ofBytes_unsupported (hsize : Buffer.sizeOf? t shape = some c.length)
    (ht : t.hasTensor = false) :
    ofBytes t shape c = .error (.unsupported (.bufferType t)) := by
  simp [ofBytes, Buffer.sizeOf_eq hsize, Outcome.bind, Outcome.ensure, ht]

/-- A buffer of a type without tensors is not read as one. -/
lemma ofBuffer_unsupported (hb : b.dtype.hasTensor = false) :
    (ofBuffer b : Act S Heap DeviceError Tensor) heap =
      .done (.error (.unsupported (.bufferType b.dtype)), heap) :=
  Act.bind_error (Act.ensure_error (ne_true_of_eq_false hb) _ heap)

end Tensor

namespace StandIn.RowMajor

variable {plus : Addition}

/-- A tensor of the library that stands in has one type, shape and list of elements. -/
lemma reads_iff {x : RowMajor} {t : Dtype} {shape elements : List Nat} :
    @Tensor.Reads (library plus) x t shape elements ↔ x = ⟨t, shape, elements⟩ := by
  constructor
  · rintro ⟨rfl, rfl, flat, hflat, helements⟩
    cases hflat
    cases helements
    rfl
  · rintro rfl
    exact @Tensor.Reads.mk (library plus) _ _ _ _ rfl rfl ⟨_, rfl, rfl⟩

/-- The library that stands in keeps the laws, whatever it adds elements by. -/
theorem laws (plus : Addition) : @TensorLaws (library plus) plus := by
  apply @TensorLaws.mk (library plus)
  case made =>
    intro t shape elements _ _ hstrided _
    refine ⟨(⟨t, shape, elements⟩ : RowMajor), ?_, reads_iff.2 rfl⟩
    simp [TensorLibrary.ofElements, make, Outcome.ensureOrFault, hstrided, Outcome.bind]
  case unstrided =>
    intro t shape elements _ _ hstrided
    simp [TensorLibrary.ofElements, make, Outcome.ensureOrFault, hstrided, Outcome.bind]
  case add_some =>
    intro x y t shape xs ys zs hx hy _ hsum
    cases reads_iff.1 hx
    cases reads_iff.1 hy
    refine ⟨(⟨t, shape, zs⟩ : RowMajor), ?_, reads_iff.2 rfl⟩
    by_cases hempty : xs = []
    · subst hempty
      obtain rfl : [] = zs := by simpa [Number.addAll?] using hsum
      simp [TensorLibrary.add, add]
    · simp [TensorLibrary.add, add, hempty, hsum, Outcome.orFault, Outcome.bind]
  case add_shape =>
    intro x y t t' shape shape' xs ys hx hy hne
    cases reads_iff.1 hx
    cases reads_iff.1 hy
    simp [TensorLibrary.add, add, hne]
  case add_dtype =>
    intro x y t t' shape xs ys hx hy hne hsome
    cases reads_iff.1 hx
    cases reads_iff.1 hy
    simp [TensorLibrary.add, add, hne, hsome]
  case add_empty =>
    intro x y t t' shape hx hy
    cases reads_iff.1 hx
    cases reads_iff.1 hy
    exact ⟨(⟨t, shape, []⟩ : RowMajor), by simp [TensorLibrary.add, add], reads_iff.2 rfl⟩
  case add_none =>
    intro x y t shape xs ys hx hy _ hsum
    cases reads_iff.1 hx
    cases reads_iff.1 hy
    have hsome : xs ≠ [] := by
      rintro rfl
      simp [Number.addAll?] at hsum
    simp [TensorLibrary.add, add, hsome, hsum, Outcome.orFault, Outcome.bind]

end StandIn.RowMajor

end ExpertExchange
