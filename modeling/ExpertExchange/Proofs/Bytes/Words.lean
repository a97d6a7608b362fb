import ExpertExchange.Bytes
import Mathlib.Tactic.Lemma

/-!
# Numbers in bytes

Numbers of a fixed width and the bytes that they are written in are two forms of one content:
numbers that fit the width are read as they were written, and bytes that make up whole numbers are
written again as they were.
-/

namespace ExpertExchange

namespace Bytes

variable {width count : Nat} {ns : List Nat} {b : Bytes}

lemma length_encodeWords (width : Nat) (ns : List Nat) :
    (encodeWords width ns).length = ns.length * width := by
  induction ns with
  | nil => rw [encodeWords, List.flatMap_nil, List.length_nil, List.length_nil, Nat.zero_mul]
  | cons n ns ih =>
    rw [encodeWords, List.flatMap_cons, List.length_append, length_encodeWord, List.length_cons,
      Nat.succ_mul, Nat.add_comm]
    rw [encodeWords] at ih
    rw [ih]

lemma length_takeWords (width count : Nat) (b : Bytes) :
    (takeWords width count b).length = count := by
  induction count generalizing b with
  | zero => rfl
  | succ count ih => rw [takeWords, List.length_cons, ih]

lemma length_decodeWords (width : Nat) (b : Bytes) :
    (decodeWords width b).length = b.length / width := length_takeWords _ _ _

/-- Bytes are written again as they were read. -/
lemma encodeWord_decodeWord (b : Bytes) : encodeWord b.length (decodeWord b) = b := by
  induction b with
  | nil => rfl
  | cons x b ih =>
    have hlow : UInt8.ofNat (x.toNat + 256 * decodeWord b) = x := by
      refine UInt8.toNat_inj.1 ?_
      rw [UInt8.toNat_ofNat', Nat.add_mul_mod_self_left, Nat.mod_eq_of_lt x.toNat_lt]
    have hhigh : (x.toNat + 256 * decodeWord b) / 256 = decodeWord b := by
      have := x.toNat_lt
      omega
    rw [List.length_cons, decodeWord, encodeWord, hlow, hhigh, ih]

/-- What is read fits the width. -/
lemma decodeWord_lt (b : Bytes) : decodeWord b < wordBound b.length := by
  induction b with
  | nil => exact Nat.zero_lt_one
  | cons x b ih =>
    have := x.toNat_lt
    rw [decodeWord, List.length_cons, wordBound]
    omega

lemma encodeWords_cons (width n : Nat) (ns : List Nat) :
    encodeWords width (n :: ns) = encodeWord width n ++ encodeWords width ns := List.flatMap_cons

lemma takeWords_encodeWords (width : Nat) (ns : List Nat) :
    takeWords width ns.length (encodeWords width ns) = ns.map (· % wordBound width) := by
  induction ns with
  | nil => rfl
  | cons n ns ih =>
    have hword := length_encodeWord width n
    rw [List.length_cons, takeWords, encodeWords_cons, List.take_left' hword,
      List.drop_left' hword, decodeWord_encodeWord, ih, List.map_cons]

lemma decodeWords_encodeWords (hwidth : 0 < width) (ns : List Nat) :
    decodeWords width (encodeWords width ns) = ns.map (· % wordBound width) := by
  rw [decodeWords, length_encodeWords, Nat.mul_div_cancel _ hwidth, takeWords_encodeWords]

/-- Numbers that fit are read as they were written. -/
lemma decodeWords_encodeWords_of_fit (hwidth : 0 < width) (hfit : ∀ n ∈ ns, n < wordBound width) :
    decodeWords width (encodeWords width ns) = ns := by
  have hkept : ns.map (· % wordBound width) = ns.map id :=
    List.map_congr_left fun n hn => Nat.mod_eq_of_lt (hfit n hn)
  rw [decodeWords_encodeWords hwidth, hkept, List.map_id]

/-- Bytes that make up numbers are written again as they were read. -/
lemma encodeWords_takeWords (hlength : b.length = count * width) :
    encodeWords width (takeWords width count b) = b := by
  induction count generalizing b with
  | zero =>
    rw [Nat.zero_mul] at hlength
    rw [List.length_eq_zero_iff.1 hlength]
    rfl
  | succ count ih =>
    rw [Nat.succ_mul] at hlength
    have hfirst : (b.take width).length = width := by
      rw [List.length_take]
      omega
    have hrest : (b.drop width).length = count * width := by
      rw [List.length_drop]
      omega
    have hword := encodeWord_decodeWord (b.take width)
    rw [hfirst] at hword
    rw [takeWords, encodeWords_cons, hword, ih hrest, List.take_append_drop]

lemma fit_takeWords (hlength : b.length = count * width) :
    ∀ n ∈ takeWords width count b, n < wordBound width := by
  induction count generalizing b with
  | zero => exact nofun
  | succ count ih =>
    rw [Nat.succ_mul] at hlength
    have hfirst : (b.take width).length = width := by
      rw [List.length_take]
      omega
    have hrest : (b.drop width).length = count * width := by
      rw [List.length_drop]
      omega
    have hword := decodeWord_lt (b.take width)
    rw [hfirst] at hword
    exact List.forall_mem_cons.2 ⟨hword, ih hrest⟩

/-- Numbers that are read fit. -/
lemma fit_decodeWords (hlength : width ∣ b.length) :
    ∀ n ∈ decodeWords width b, n < wordBound width :=
  fit_takeWords (Nat.div_mul_cancel hlength).symm

lemma encodeWords_decodeWords (hlength : width ∣ b.length) :
    encodeWords width (decodeWords width b) = b :=
  encodeWords_takeWords (Nat.div_mul_cancel hlength).symm

end Bytes

end ExpertExchange
