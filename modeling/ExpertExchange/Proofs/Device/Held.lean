import ExpertExchange.Device.Buffer
import ExpertExchange.Proofs.Act.Ends
import ExpertExchange.Proofs.Bytes.Chunk
import Mathlib.Algebra.Group.Nat.Defs

/-!
# Buffers that hold bytes

`Heap.Holds` says that a buffer is in host memory with a given content of the size that its type
and shape ask for, as every host buffer is from its creation on. `Heap.Keeps` says which buffers
some work on the heap leaves as they are.
-/

namespace ExpertExchange

namespace Word

variable {a n : Nat} {ns : List Nat}

lemma foldlM_mul?_eq (h : ns.foldlM mul? a = some n) :
    n = a * ns.prod := by
  induction ns generalizing a with
  | nil =>
    obtain rfl : a = n := by simpa using h
    exact (Nat.mul_one a).symm
  | cons k ns ih =>
    obtain ⟨m, hm, hrest⟩ := Option.bind_eq_some_iff.1 h
    rw [ih hrest, (mul?_eq_some hm).1, List.prod_cons, Nat.mul_assoc]

lemma product?_eq_prod (h : product? ns = some n) : n = ns.prod := by
  rw [foldlM_mul?_eq h, Nat.one_mul]

lemma foldlM_mul?_eq_none_iff (ha : a < bound) :
    ns.foldlM mul? a = none ↔ ∃ k, bound ≤ a * (ns.take k).prod := by
  induction ns generalizing a with
  | nil =>
    constructor
    · intro h
      cases h
    · rintro ⟨k, hk⟩
      rw [List.take_nil, List.prod_nil, Nat.mul_one] at hk
      omega
  | cons n ns ih =>
    by_cases hn : a * n < bound
    · have hstep : (n :: ns).foldlM mul? a = ns.foldlM mul? (a * n) := by
        rw [List.foldlM_cons, mul?_eq hn]
        rfl
      rw [hstep, ih hn]
      constructor
      · rintro ⟨k, hk⟩
        refine ⟨k + 1, ?_⟩
        rwa [List.take_succ_cons, List.prod_cons, ← Nat.mul_assoc]
      · rintro ⟨k, hk⟩
        cases k with
        | zero =>
          rw [List.take_zero, List.prod_nil, Nat.mul_one] at hk
          omega
        | succ k =>
          refine ⟨k, ?_⟩
          rwa [List.take_succ_cons, List.prod_cons, ← Nat.mul_assoc] at hk
    · have hstep : (n :: ns).foldlM mul? a = none := by
        rw [List.foldlM_cons, mul?, if_neg hn]
        rfl
      refine iff_of_true hstep ⟨1, ?_⟩
      rw [List.take_succ_cons, List.take_zero, List.prod_cons, List.prod_nil, Nat.mul_one]
      omega

/-- The product of a list is not computed exactly if its first numbers multiply to more than a
word. -/
lemma product?_eq_none_iff :
    product? ns = none ↔ ∃ k, bound ≤ (ns.take k).prod := by
  rw [product?, foldlM_mul?_eq_none_iff (by decide)]
  simp only [Nat.one_mul]

lemma foldlM_mul?_lt (ha : a < bound) (h : ns.foldlM mul? a = some n) :
    n < bound := by
  induction ns generalizing a with
  | nil =>
    obtain rfl : a = n := by simpa using h
    exact ha
  | cons k ns ih =>
    obtain ⟨m, hm, hrest⟩ := Option.bind_eq_some_iff.1 h
    exact ih (mul?_eq_some hm).2 hrest

lemma product?_lt (h : product? ns = some n) : n < bound :=
  foldlM_mul?_lt (by decide) h

end Word

namespace Buffer

variable {ε : Type}

/-- Bytes of `shape` elements of type `t`, if all products on the way are words. -/
def sizeOf? (t : Dtype) (shape : List Nat) : Option Nat :=
  (Word.product? shape).bind fun n => Word.mul? n t.size

lemma sizeOf_eq {t : Dtype} {shape : List Nat} {n : Nat} (h : sizeOf? t shape = some n) :
    (sizeOf t shape : Outcome ε Nat) = .ok n := by
  obtain ⟨k, hk, hn⟩ := Option.bind_eq_some_iff.1 h
  simp only [sizeOf, Word.product, hk, Outcome.orFault, Outcome.bind, Word.mul, hn]

lemma sizeOf_eq_orFault (t : Dtype) (shape : List Nat) :
    (sizeOf t shape : Outcome ε Nat) = .orFault (sizeOf? t shape) := by
  rw [sizeOf, sizeOf?, Word.product]
  cases Word.product? shape with
  | none => rfl
  | some n => rfl

lemma sizeOf?_of_ok {t : Dtype} {shape : List Nat} {n : Nat}
    (h : (sizeOf t shape : Outcome ε Nat) = .ok n) : sizeOf? t shape = some n := by
  rw [sizeOf_eq_orFault] at h
  exact Outcome.orFault_eq_ok h

lemma lt_bound_of_sizeOf? {t : Dtype} {shape : List Nat} {n : Nat} (h : sizeOf? t shape = some n) :
    n < Word.bound := by
  obtain ⟨k, _, hn⟩ := Option.bind_eq_some_iff.1 h
  exact (Word.mul?_eq_some hn).2

lemma size_dvd {t : Dtype} {shape : List Nat} {n : Nat} (h : sizeOf? t shape = some n) :
    t.size ∣ n := by
  obtain ⟨k, _, hn⟩ := Option.bind_eq_some_iff.1 h
  exact ⟨k, by rw [(Word.mul?_eq_some hn).1, Nat.mul_comm]⟩

lemma sizeOf?_eq_count_mul {t : Dtype} {shape : List Nat} {m n : Nat}
    (h : sizeOf? t shape = some n) (hcount : Word.product? shape = some m) : n = m * t.size := by
  obtain ⟨k, hk, hn⟩ := Option.bind_eq_some_iff.1 h
  obtain rfl := Option.some.inj (hk.symm.trans hcount)
  exact (Word.mul?_eq_some hn).1

lemma sizeOf?_eq_prod {t : Dtype} {shape : List Nat} {n : Nat} (h : sizeOf? t shape = some n) :
    n = shape.prod * t.size := by
  obtain ⟨k, hk, hn⟩ := Option.bind_eq_some_iff.1 h
  rw [(Word.mul?_eq_some hn).1, Word.product?_eq_prod hk]

end Buffer

namespace Heap

variable {S : Service} {ε : Type} {h h' h'' : Heap} {a b : Buffer} {c d : Bytes}

/-- The buffer is in host memory and holds these bytes, as many as its type and shape ask for and
no more than an allocation can have. -/
structure Holds (h : Heap) (b : Buffer) (c : Bytes) : Prop where
  host : ∃ users handles, h[b.cell]? = some ⟨.host c, users, handles⟩
  size : Buffer.sizeOf? b.dtype b.shape = some c.length
  small : c.length ≤ Word.allocationBound

def write (h : Heap) (b : Buffer) (c : Bytes) : Heap :=
  h.modify b.cell fun a => { a with memory := .host c }

lemma Holds.byteCount (hb : h.Holds b c) : (b.byteCount : Outcome ε Nat) = .ok c.length :=
  Buffer.sizeOf_eq hb.size

lemma Holds.length_lt (hb : h.Holds b c) : c.length < Word.bound :=
  Buffer.lt_bound_of_sizeOf? hb.size

lemma Holds.cell_lt (hb : h.Holds b c) : b.cell < h.length := by
  obtain ⟨users, handles, hc⟩ := hb.host
  exact (List.getElem?_eq_some_iff.1 hc).1

lemma Holds.isHost (hb : h.Holds b c) : h.isHost b = true := by
  obtain ⟨users, handles, hc⟩ := hb.host
  simp [Heap.isHost, allocation?, hc]

lemma Holds.bytes (hb : h.Holds b c) : (Heap.bytes b : Act S Heap DeviceError Bytes) h =
    .done (.ok c, h) := by
  obtain ⟨users, handles, hc⟩ := hb.host
  simp [Heap.bytes, allocation?, hc]

lemma Holds.setBytes (hb : h.Holds b c) (hd : d.length = c.length) :
    (Heap.setBytes b d : Act S Heap DeviceError Unit) h = .done (.ok (), h.write b d) := by
  change Act.bind (Heap.bytes b) _ h = _
  simp only [Act.bind, hb.bytes, Program.bind, hd, if_true]
  rfl

lemma Holds.write_self (hb : h.Holds b c) : h.write b c = h := by
  obtain ⟨users, handles, hc⟩ := hb.host
  refine List.ext_getElem? fun i => ?_
  simp only [write, List.getElem?_modify]
  by_cases hi : b.cell = i
  · subst hi
    simp [hc]
  · simp [hi]

lemma write_write (h : Heap) (b : Buffer) (c d : Bytes) :
    (h.write b c).write b d = h.write b d := by
  refine List.ext_getElem? fun i => ?_
  simp only [write, List.getElem?_modify]
  by_cases hi : b.cell = i <;> simp [hi, Function.comp_def]

/-- What is written to a buffer is what it holds then. -/
lemma Holds.written (hb : h.Holds b c) (hd : d.length = c.length) : (h.write b d).Holds b d where
  host := by
    obtain ⟨users, handles, hc⟩ := hb.host
    exact ⟨users, handles, by simp [write, hc]⟩
  size := by rw [hd, hb.size]
  small := hd ▸ hb.small

lemma Holds.of_getElem? (hb : h.Holds b c) (hc : h'[b.cell]? = h[b.cell]?) : h'.Holds b c :=
  ⟨hc ▸ hb.host, hb.size, hb.small⟩

/-- All allocations are still there, and buffers outside the touched cells hold what they held. -/
structure Keeps (touched : Nat → Prop) (h h' : Heap) : Prop where
  length_le : h.length ≤ h'.length
  holds : ∀ b c, ¬ touched b.cell → h.Holds b c → h'.Holds b c

variable {touched touched' : Nat → Prop}

lemma Keeps.refl (h : Heap) : Keeps touched h h := ⟨Nat.le_refl _, fun _ _ _ hb => hb⟩

lemma Keeps.trans (hk : Keeps touched h h') (hk' : Keeps touched h' h'') :
    Keeps touched h h'' :=
  ⟨Nat.le_trans hk.length_le hk'.length_le, fun b c ht hb => hk'.holds b c ht (hk.holds b c ht hb)⟩

/-- Cells that were not there before cannot have held anything. -/
lemma Keeps.mono (hk : Keeps touched h h')
    (ht : ∀ i, i < h.length → touched i → touched' i) : Keeps touched' h h' :=
  ⟨hk.length_le, fun b c hb hc => hk.holds b c (fun hi => hb (ht _ hc.cell_lt hi)) hc⟩

lemma keeps_write (h : Heap) (b : Buffer) (c : Bytes) : Keeps (· = b.cell) h (h.write b c) where
  length_le := by simp [write]
  holds a d ha hd := hd.of_getElem? (by simp [write, Ne.symm ha])

lemma keeps_markUsed (h : Heap) (b : Buffer) (stream : Stream) :
    Keeps (fun _ => False) h (h.markUsed b stream) where
  length_le := by simp [markUsed]
  holds a d _ hd := by
    obtain ⟨users, handles, hc⟩ := hd.host
    refine ⟨?_, hd.size, hd.small⟩
    simp only [markUsed, List.getElem?_modify, hc]
    by_cases hi : b.cell = a.cell
    · by_cases hs : stream ∈ users <;> simp [hi, hs]
    · simp [hi]

lemma keeps_append (h : Heap) (a : Allocation) : Keeps (fun _ => False) h (h ++ [a]) where
  length_le := by simp
  holds b c _ hb := hb.of_getElem? (List.getElem?_append_left hb.cell_lt)

/-- The buffer is in host memory and holds as many bytes as it should. -/
def Live (h : Heap) (b : Buffer) : Prop := ∃ c, h.Holds b c

/-- Every handle to a cell lives as long as its content keeps its length. -/
lemma Holds.of_sameCell (ha : h.Holds a c) (hb : h.Holds b d) (hcell : a.cell = b.cell) {d' : Bytes}
    (hb' : h'.Holds b d') : h'.Holds a d' := by
  have hlength : d'.length = d.length := Option.some.inj (hb'.size.symm.trans hb.size)
  obtain ⟨users, handles, hc⟩ := ha.host
  obtain ⟨users', handles', hd⟩ := hb.host
  rw [hcell, hd] at hc
  simp only [Option.some.injEq, Allocation.mk.injEq, Memory.host.injEq] at hc
  obtain ⟨rfl, -, -⟩ := hc
  exact ⟨hcell ▸ hb'.host, by rw [hlength, ha.size], hb'.small⟩

/-- Work that fills one buffer anew leaves all buffers alive. -/
lemma Keeps.live (hk : Keeps (· = b.cell) h h') (hb : h.Holds b c) (hb' : h'.Holds b d)
    (ha : h.Live a) : h'.Live a := by
  obtain ⟨x, hx⟩ := ha
  by_cases hcell : a.cell = b.cell
  · exact ⟨d, hx.of_sameCell hb hcell hb'⟩
  · exact ⟨x, hk.holds a x hcell hx⟩

/-- The heap with a zeroed buffer of `n` bytes at its end. -/
def allocated (h : Heap) (n : Nat) (owner : Stream) : Heap :=
  h ++ [⟨.host (List.replicate n 0), [owner], 1⟩]

lemma zeros_eq {t : Dtype} {shape : List Nat} {n : Nat} (owner : Stream)
    (hn : Buffer.sizeOf? t shape = some n) (hsmall : n ≤ Word.allocationBound) :
    (Heap.zeros t shape owner : Act S Heap ε Buffer) h =
      .done (.ok ⟨t, shape, owner.device, h.length⟩, h.allocated n owner) := by
  change Act.bind (Act.ofOutcome (Buffer.sizeOf t shape)) _ h = _
  simp only [Act.bind, Act.ofOutcome, Buffer.sizeOf_eq hn, Program.bind,
    if_neg (Nat.not_lt.2 hsmall)]
  rfl

lemma holds_allocated {b : Buffer} {n : Nat} (owner : Stream) (hcell : b.cell = h.length)
    (hn : Buffer.sizeOf? b.dtype b.shape = some n) (hsmall : n ≤ Word.allocationBound) :
    (h.allocated n owner).Holds b (List.replicate n 0) where
  host := ⟨[owner], 1, by simp [allocated, hcell]⟩
  size := by rw [hn, List.length_replicate]
  small := by rwa [List.length_replicate]

end Heap

end ExpertExchange
