import ExpertExchange.Proofs.Bytes.Words
import ExpertExchange.Proofs.Device.Held

/-!
# Elements of host buffers

The elements of a buffer that is in host memory: they are what a call reads, and as many of them can
be written back. A buffer that is rewritten has another content of the same size, and nothing else
in the heap changes.
-/

namespace ExpertExchange

lemma Dtype.size_pos {t : Dtype} (ht : t.hasTensor = true) : 0 < t.size := by
  revert ht
  cases t <;> decide

/-- Bytes that fill a shape hold as many elements as it asks for. -/
lemma Buffer.product?_eq_length_decodeWords {t : Dtype} {shape : List Nat} {c : Bytes}
    (ht : t.hasTensor = true) (hsize : Buffer.sizeOf? t shape = some c.length) :
    Word.product? shape = some (Bytes.decodeWords t.size c).length := by
  obtain ⟨n, hcount, -⟩ := Option.bind_eq_some_iff.1 hsize
  rw [Bytes.length_decodeWords, Buffer.sizeOf?_eq_count_mul hsize hcount,
    Nat.mul_div_cancel _ (Dtype.size_pos ht), hcount]

namespace Heap

variable {S : Service} {h h' : Heap} {b : Buffer} {c : Bytes} {t : Dtype} {values : List Nat}

def content (h : Heap) (b : Buffer) : Bytes :=
  match h.allocation? b with
  | some ⟨.host content, _, _⟩ => content
  | _ => []

def elements (h : Heap) (b : Buffer) : List Nat := Bytes.decodeWords b.dtype.size (h.content b)

/-- One buffer has another content of the same size. -/
def Rewritten (h : Heap) (b : Buffer) (h' : Heap) : Prop :=
  ∃ c d, h.Holds b c ∧ d.length = c.length ∧ h' = h.write b d

lemma Holds.content_eq (hb : h.Holds b c) : h.content b = c := by
  obtain ⟨users, handles, hc⟩ := hb.host
  simp [content, allocation?, hc]

lemma Holds.elements_eq (hb : h.Holds b c) :
    h.elements b = Bytes.decodeWords b.dtype.size c := by
  rw [elements, hb.content_eq]

/-- The elements fill the buffer. For a type without whole bytes there are none of either. -/
lemma Holds.length_elements_mul (hb : h.Holds b c) :
    (h.elements b).length * b.dtype.size = c.length := by
  rw [elements, hb.content_eq, Bytes.length_decodeWords]
  exact Nat.div_mul_cancel (Buffer.size_dvd hb.size)

lemma Holds.count_eq {ε : Type} (hb : h.Holds b c) :
    (b.count : Outcome ε Nat) = .ok b.shape.prod := by
  obtain ⟨n, hn, -⟩ := Option.bind_eq_some_iff.1 hb.size
  rw [Buffer.count, Word.product, hn, Outcome.orFault, Word.product?_eq_prod hn]

lemma Holds.length_eq (hb : h.Holds b c) : c.length = b.shape.prod * b.dtype.size :=
  Buffer.sizeOf?_eq_prod hb.size

lemma Holds.words_eq (hb : h.Holds b c) (ht : t = b.dtype) :
    (Heap.words b t : Act S Heap DeviceError (List Nat)) h = .done (.ok (h.elements b), h) := by
  subst ht
  rw [elements, hb.content_eq]
  exact (Act.bind_done (Act.ensure_done rfl _ h)).trans (Act.bind_done hb.bytes)

/-- Elements of another type are not read. -/
lemma words_refused (ht : t ≠ b.dtype) :
    ∃ e, (Heap.words b t : Act S Heap DeviceError (List Nat)) h = .done (.error e, h) := by
  exact ⟨.invalidArguments "to_vec" (.readAs b.dtype t), Act.bind_error (Act.ensure_error ht _ h)⟩

/-- Elements of another type are not written. -/
lemma setWords_refused (ht : t ≠ b.dtype) (values : List Nat) :
    ∃ e, (Heap.setWords b t values : Act S Heap DeviceError Unit) h = .done (.error e, h) := by
  exact ⟨.invalidArguments "write_slice" (.writtenAs b.dtype t),
    Act.bind_error (Act.ensure_error ht _ h)⟩

lemma Holds.setWords_eq (hb : h.Holds b c) (ht : t = b.dtype)
    (hvalues : values.length * b.dtype.size = c.length) :
    (Heap.setWords b t values : Act S Heap DeviceError Unit) h =
      .done (.ok (), h.write b (Bytes.encodeWords b.dtype.size values)) := by
  subst ht
  have hlength : (Bytes.encodeWords b.dtype.size values).length = c.length := by
    rw [Bytes.length_encodeWords, hvalues]
  have hsize : (Act.ofOutcome b.byteCount : Act S Heap DeviceError Nat) h =
      .done (.ok c.length, h) := Act.outcome_done hb.byteCount h
  have hchecked := Act.ensure_done (S := S) hlength
    (DeviceError.sizeMismatch c.length (Bytes.encodeWords b.dtype.size values).length) h
  refine (Act.bind_done (Act.ensure_done rfl _ h)).trans ?_
  exact (Act.bind_done hsize).trans ((Act.bind_done hchecked).trans (hb.setBytes hlength))

lemma Holds.rewritten (hb : h.Holds b c)
    (hvalues : values.length * b.dtype.size = c.length) :
    h.Rewritten b (h.write b (Bytes.encodeWords b.dtype.size values)) :=
  ⟨c, _, hb, by rw [Bytes.length_encodeWords, hvalues], rfl⟩

end Heap

end ExpertExchange
