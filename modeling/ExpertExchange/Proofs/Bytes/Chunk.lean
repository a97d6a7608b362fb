import ExpertExchange.Bytes
import Mathlib.Tactic.Lemma

/-!
# Bytes in chunks

Reading a byte sequence as chunks of one size: which chunks a block of consecutive chunks has, and
which chunks change when blocks are overwritten.
-/

namespace ExpertExchange

namespace Word

variable {ε : Type} {a b : Nat}

lemma add?_eq (h : a + b < bound) : add? a b = some (a + b) := if_pos h

lemma mul?_eq (h : a * b < bound) : mul? a b = some (a * b) := if_pos h

lemma add_eq (h : a + b < bound) : (add a b : Outcome ε Nat) = .ok (a + b) := by
  rw [add, add?_eq h, Outcome.orFault]

lemma mul_eq (h : a * b < bound) : (mul a b : Outcome ε Nat) = .ok (a * b) := by
  rw [mul, mul?_eq h, Outcome.orFault]

lemma mul_fault (h : bound ≤ a * b) : (mul a b : Outcome ε Nat) = .fault none := by
  rw [mul, mul?, if_neg (Nat.not_lt.2 h), Outcome.orFault]

end Word

lemma ByteRange.span_eq {ε : Type} {offset len : Nat} (h : offset + len < Word.bound) :
    (span offset len : Outcome ε ByteRange) = .ok ⟨offset, offset + len⟩ := by
  rw [span, Word.add_eq h, Outcome.bind]

@[simp] lemma ByteRange.length_add (offset len : Nat) :
    (ByteRange.mk offset (offset + len)).length = len := by
  simp [ByteRange.length]

lemma block_div {m p k : Nat} (hk : k < m) : (p * m + k) / m = p := by
  rw [Nat.mul_comm, Nat.mul_add_div (by omega), Nat.div_eq_of_lt hk, Nat.add_zero]

lemma block_mod {m p k : Nat} (hk : k < m) : (p * m + k) % m = k := by
  rw [Nat.mul_comm, Nat.mul_add_mod, Nat.mod_eq_of_lt hk]

/-- A block ends before the later ones begin. -/
lemma block_end_le {p q : Nat} (m : Nat) (h : p < q) : p * m + m ≤ q * m := by
  rw [← Nat.succ_mul]
  exact Nat.mul_le_mul_right m h

lemma block_lt {W m p k : Nat} (hp : p < W) (hk : k < m) : p * m + k < W * m := by
  have := block_end_le m hp
  omega

lemma div_lt_of_block {W m j : Nat} (hj : j < W * m) : j / m < W :=
  Nat.div_lt_of_lt_mul (Nat.mul_comm W m ▸ hj)

namespace Bytes

variable {size count k i j t : Nat} {b d src : Bytes}

/-- Chunk `i` of the chunks of `size` bytes. -/
def chunk (size : Nat) (b : Bytes) (i : Nat) : Bytes := b.slice ⟨i * size, i * size + size⟩

lemma getElem?_slice (b : Bytes) (r : ByteRange) (n : Nat) :
    (b.slice r)[n]? = if n < r.length then b[r.start + n]? else none := by
  simp only [slice, List.getElem?_take, List.getElem?_drop]

lemma getElem?_overwrite {offset : Nat} (h : offset ≤ b.length) (n : Nat) :
    (b.overwrite offset src)[n]? =
      if n < offset then b[n]?
      else if n < offset + src.length then src[n - offset]? else b[n]? := by
  simp only [overwrite, List.append_assoc]
  by_cases h₁ : n < offset
  · rw [if_pos h₁, List.getElem?_append_left (by simp; omega), List.getElem?_take, if_pos h₁]
  · have hlen : (b.take offset).length = offset := by simp [h]
    rw [if_neg h₁, List.getElem?_append_right (by omega), hlen]
    by_cases h₂ : n < offset + src.length
    · rw [if_pos h₂, List.getElem?_append_left (by omega)]
    · rw [if_neg h₂, List.getElem?_append_right (by omega), List.getElem?_drop]
      congr 1
      omega

lemma getElem?_chunk (b : Bytes) (i n : Nat) :
    (b.chunk size i)[n]? = if n < size then b[i * size + n]? else none := by
  rw [chunk, getElem?_slice, ByteRange.length_add]

lemma length_chunk (h : (i + 1) * size ≤ b.length) : (b.chunk size i).length = size := by
  rw [Nat.succ_mul] at h
  rw [chunk, length_slice ⟨by simp, h⟩, ByteRange.length_add]

lemma chunk_zero_of_length (h : b.length = size) : b.chunk size 0 = b := by
  rw [chunk, slice, ByteRange.length_add, ← h, Nat.zero_mul, List.drop_zero, List.take_length]

/-- A sequence made of chunks is determined by its chunks. -/
lemma ext_chunk {b' : Bytes} (hb : b.length = k * size) (hb' : b'.length = k * size)
    (h : ∀ i < k, b.chunk size i = b'.chunk size i) : b = b' := by
  refine List.ext_getElem? fun n => ?_
  by_cases hn : n < k * size
  · have hsize : 0 < size := by
      refine Nat.pos_of_ne_zero ?_
      rintro rfl
      simp at hn
    have hi : n / size < k := Nat.div_lt_of_lt_mul (Nat.mul_comm k size ▸ hn)
    have hchunk := congrArg (fun b => b[n % size]?) (h (n / size) hi)
    simpa only [getElem?_chunk, Nat.mod_lt _ hsize, if_true, Nat.mul_comm _ size,
      Nat.div_add_mod] using hchunk
  · rw [List.getElem?_eq_none (by omega), List.getElem?_eq_none (by omega)]

/-- The chunks of a block of consecutive chunks. -/
lemma chunk_slice (ht : t < count) :
    (b.slice ⟨i * size, i * size + count * size⟩).chunk size t = b.chunk size (i + t) := by
  have hle := block_end_le size ht
  refine List.ext_getElem? fun n => ?_
  rw [getElem?_chunk, getElem?_chunk, getElem?_slice, ByteRange.length_add, Nat.add_mul,
    Nat.add_assoc]
  by_cases hn : n < size
  · rw [if_pos hn, if_pos hn, if_pos (by omega)]
  · rw [if_neg hn, if_neg hn]

/-- The chunks of a chunk. -/
lemma chunk_chunk (ht : t < count) :
    (b.chunk (count * size) i).chunk size t = b.chunk size (i * count + t) := by
  have hblock : b.chunk (count * size) i =
      b.slice ⟨i * count * size, i * count * size + count * size⟩ := by
    rw [chunk, Nat.mul_assoc]
  rw [hblock, chunk_slice ht]

/-- A block is overwritten: its chunks are those of the new bytes. -/
lemma chunk_overwrite_inside (hsrc : src.length = count * size)
    (hfit : (i + count) * size ≤ b.length) (ht : t < count) :
    (b.overwrite (i * size) src).chunk size (i + t) = src.chunk size t := by
  have hle := block_end_le size ht
  rw [Nat.add_mul] at hfit
  refine List.ext_getElem? fun n => ?_
  rw [getElem?_chunk, getElem?_chunk, getElem?_overwrite (by omega), Nat.add_mul]
  by_cases hn : n < size
  · rw [if_pos hn, if_pos hn, if_neg (by omega), if_pos (by omega)]
    congr 1
    omega
  · rw [if_neg hn, if_neg hn]

/-- A block is overwritten: the chunks outside it stay. -/
lemma chunk_overwrite_outside (hsrc : src.length = count * size)
    (hfit : (i + count) * size ≤ b.length) (hj : j < i ∨ i + count ≤ j) :
    (b.overwrite (i * size) src).chunk size j = b.chunk size j := by
  have hj' : (j + 1) * size ≤ i * size ∨ (i + count) * size ≤ j * size := by
    obtain hj | hj := hj
    · exact .inl (Nat.mul_le_mul_right size hj)
    · exact .inr (Nat.mul_le_mul_right size hj)
  rw [Nat.succ_mul, Nat.add_mul] at hj'
  rw [Nat.add_mul] at hfit
  refine List.ext_getElem? fun n => ?_
  rw [getElem?_chunk, getElem?_chunk, getElem?_overwrite (by omega)]
  by_cases hn : n < size
  · rw [if_pos hn, if_pos hn]
    obtain hj' | hj' := hj'
    · rw [if_pos (by omega)]
    · rw [if_neg (by omega), if_neg (by omega)]
  · rw [if_neg hn, if_neg hn]

/-- The bytes with several stretches replaced, in order; each is given by its offset. -/
def overwriteAll (b : Bytes) (parts : List (Nat × Bytes)) : Bytes :=
  parts.foldl (fun b x => b.overwrite x.1 x.2) b

@[simp] lemma overwriteAll_nil (b : Bytes) : b.overwriteAll [] = b := rfl

@[simp] lemma overwriteAll_cons (b : Bytes) (x : Nat × Bytes) (parts : List (Nat × Bytes)) :
    b.overwriteAll (x :: parts) = (b.overwrite x.1 x.2).overwriteAll parts := rfl

lemma overwriteAll_append (b : Bytes) (xs ys : List (Nat × Bytes)) :
    b.overwriteAll (xs ++ ys) = (b.overwriteAll xs).overwriteAll ys := List.foldl_append

@[simp] lemma overwrite_nil (b : Bytes) (offset : Nat) : b.overwrite offset [] = b := by
  rw [overwrite, List.append_nil, List.length_nil, Nat.add_zero, List.take_append_drop]

lemma length_in_a_row {at_ : Nat → Nat} {part : Nat → Bytes} {k : Nat} (hstart : at_ 0 = 0)
    (hnext : ∀ p < k, at_ (p + 1) = at_ p + (part p).length) :
    ((List.range k).flatMap part).length = at_ k := by
  induction k with
  | zero => rw [hstart]; rfl
  | succ k ih =>
    rw [List.range_succ, List.flatMap_append, List.length_append, List.flatMap_singleton,
      ih fun p hp => hnext p (by omega), hnext k (Nat.lt_succ_self k)]

/-- Parts that are put in place one after the other, from the start on, each where the one before
it ends. -/
lemma overwriteAll_in_a_row {at_ : Nat → Nat} {part : Nat → Bytes} {k : Nat} (hstart : at_ 0 = 0)
    (hnext : ∀ p < k, at_ (p + 1) = at_ p + (part p).length) (hfit : at_ k ≤ b.length) :
    b.overwriteAll ((List.range k).map fun p => (at_ p, part p)) =
      (List.range k).flatMap part ++ b.drop (at_ k) := by
  induction k with
  | zero => rw [hstart]; rfl
  | succ k ih =>
    have hk := hnext k (Nat.lt_succ_self k)
    have hbefore := length_in_a_row hstart fun p (hp : p < k) => hnext p (by omega)
    have hold := ih (fun p hp => hnext p (by omega)) (by omega)
    rw [List.range_succ, List.map_append, List.flatMap_append, overwriteAll_append, hold,
      List.map_singleton, List.flatMap_singleton, overwriteAll_cons, overwriteAll_nil, overwrite,
      List.take_left' hbefore, ← hk, List.drop_append, List.drop_eq_nil_of_le (by omega),
      List.nil_append, List.drop_drop, hbefore]
    congr 2
    omega

lemma length_overwriteAll {parts : List (Nat × Bytes)}
    (h : ∀ x ∈ parts, x.1 + x.2.length ≤ b.length) : (b.overwriteAll parts).length = b.length := by
  induction parts generalizing b with
  | nil => rfl
  | cons x parts ih =>
    have hx := length_overwrite (h x List.mem_cons_self)
    rw [overwriteAll_cons, ih fun y hy => hx ▸ h y (List.mem_cons_of_mem x hy), hx]

/-- Blocks of `count` chunks at different places: block `j`, at chunk `at_ j`, gets the bytes
`new j`. -/
structure Blocks (size count k : Nat) (place : Nat → Nat) (new : Nat → Bytes) (b : Bytes) :
    Prop where
  length : ∀ j < k, (new j).length = count * size
  fits : ∀ j < k, (place j + count) * size ≤ b.length
  apart : ∀ j < k, ∀ j' < k, j ≠ j' → place j + count ≤ place j' ∨ place j' + count ≤ place j

def withBlocks (size k : Nat) (place : Nat → Nat) (new : Nat → Bytes) (b : Bytes) : Bytes :=
  b.overwriteAll ((List.range k).map fun j => (place j * size, new j))

variable {place : Nat → Nat} {new : Nat → Bytes}

lemma withBlocks_succ (b : Bytes) :
    withBlocks size (k + 1) place new b =
      (withBlocks size k place new b).overwrite (place k * size) (new k) := by
  simp [withBlocks, List.range_succ, overwriteAll_append]

lemma Blocks.of_succ (h : Blocks size count (k + 1) place new b) :
    Blocks size count k place new b :=
  ⟨fun j hj => h.length j (by omega), fun j hj => h.fits j (by omega),
    fun j hj j' hj' => h.apart j (by omega) j' (by omega)⟩

lemma Blocks.length_withBlocks (h : Blocks size count k place new b) :
    (withBlocks size k place new b).length = b.length := by
  refine length_overwriteAll fun x hx => ?_
  obtain ⟨j, hj, rfl⟩ := List.mem_map.1 hx
  have hj := List.mem_range.1 hj
  simpa only [h.length j hj, Nat.add_mul] using h.fits j hj

/-- Each block has its new bytes in the end. -/
lemma Blocks.chunk_inside (h : Blocks size count k place new b) (hj : j < k) (ht : t < count) :
    (withBlocks size k place new b).chunk size (place j + t) = (new j).chunk size t := by
  induction k with
  | zero => omega
  | succ k ih =>
    have hfits : (place k + count) * size ≤ (withBlocks size k place new b).length :=
      h.of_succ.length_withBlocks ▸ h.fits k (by omega)
    rw [withBlocks_succ]
    by_cases hjk : j = k
    · subst hjk
      exact chunk_overwrite_inside (h.length j hj) hfits ht
    · rw [chunk_overwrite_outside (h.length k (by omega)) hfits, ih h.of_succ (by omega)]
      have := h.apart j hj k (by omega) hjk
      omega

/-- Blocks that follow each other without gaps. -/
lemma blocks_in_a_row (hnew : ∀ j < k, (new j).length = count * size)
    (hb : b.length = k * count * size) : Blocks size count k (fun j => j * count) new b where
  length := hnew
  fits j hj := by
    rw [hb]
    exact Nat.mul_le_mul_right size (block_end_le count hj)
  apart j _ j' _ hne := by
    rcases Nat.lt_or_gt_of_ne hne with h | h
    · exact .inl (block_end_le count h)
    · exact .inr (block_end_le count h)

/-- Chunks of no block stay. -/
lemma Blocks.chunk_outside (h : Blocks size count k place new b)
    (hi : ∀ j < k, i < place j ∨ place j + count ≤ i) :
    (withBlocks size k place new b).chunk size i = b.chunk size i := by
  induction k with
  | zero => rfl
  | succ k ih =>
    have hfits : (place k + count) * size ≤ (withBlocks size k place new b).length :=
      h.of_succ.length_withBlocks ▸ h.fits k (by omega)
    rw [withBlocks_succ, chunk_overwrite_outside (h.length k (by omega)) hfits (hi k (by omega))]
    exact ih h.of_succ fun j hj => hi j (by omega)

end Bytes

end ExpertExchange
