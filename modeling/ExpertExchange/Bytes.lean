import ExpertExchange.Word

/-!
# Bytes

Byte sequences, ranges of byte positions, and numbers written in little-endian order.
-/

namespace ExpertExchange

/-- The content of a stretch of memory, first byte first. -/
abbrev Bytes := List UInt8

/-- The byte positions from `start` up to `stop`, exclusive. -/
structure ByteRange where
  start : Nat
  stop : Nat
  deriving Repr, DecidableEq

namespace ByteRange

def length (r : ByteRange) : Nat := r.stop - r.start

/-- The `len` positions from `offset` on. A fault if the end is not a word. -/
def span {ε : Type} (offset len : Nat) : Outcome ε ByteRange :=
  (Word.add offset len).bind fun stop => .ok ⟨offset, stop⟩

def Within (r : ByteRange) (size : Nat) : Prop := r.start ≤ r.stop ∧ r.stop ≤ size

instance (r : ByteRange) (size : Nat) : Decidable (r.Within size) :=
  inferInstanceAs (Decidable (_ ∧ _))

def text (r : ByteRange) : String := s!"{r.start}..{r.stop}"

end ByteRange

namespace Bytes

/-- The bytes at the positions of a range. -/
def slice (b : Bytes) (r : ByteRange) : Bytes := (b.drop r.start).take r.length

/-- The bytes with those from position `offset` on replaced by `src`. -/
def overwrite (b : Bytes) (offset : Nat) (src : Bytes) : Bytes :=
  b.take offset ++ src ++ b.drop (offset + src.length)

/-- The lowest `width` bytes of a number, lowest first. -/
def encodeWord : (width : Nat) → Nat → Bytes
  | 0, _ => []
  | w + 1, n => UInt8.ofNat n :: encodeWord w (n / 256)

/-- The number written by some bytes, lowest first. -/
def decodeWord : Bytes → Nat
  | [] => 0
  | b :: rest => b.toNat + 256 * decodeWord rest

def wordBound : (width : Nat) → Nat
  | 0 => 1
  | w + 1 => 256 * wordBound w

/-- Numbers of `width` bytes each, one after the other. -/
def encodeWords (width : Nat) (ns : List Nat) : Bytes := ns.flatMap (encodeWord width)

def takeWords (width : Nat) : (count : Nat) → Bytes → List Nat
  | 0, _ => []
  | n + 1, b => decodeWord (b.take width) :: takeWords width n (b.drop width)

/-- The numbers of `width` bytes each; bytes that do not fill a number are left out. -/
def decodeWords (width : Nat) (b : Bytes) : List Nat := takeWords width (b.length / width) b

theorem length_slice {b : Bytes} {r : ByteRange} (h : r.Within b.length) :
    (b.slice r).length = r.length := by
  simp only [slice, List.length_take, List.length_drop, ByteRange.length]
  have := h.2
  omega

theorem length_overwrite {b src : Bytes} {offset : Nat} (h : offset + src.length ≤ b.length) :
    (b.overwrite offset src).length = b.length := by
  simp only [overwrite, List.length_append, List.length_take, List.length_drop]
  omega

theorem length_encodeWord (w n : Nat) : (encodeWord w n).length = w := by
  induction w generalizing n with
  | zero => rfl
  | succ w ih => simp [encodeWord, ih]

theorem decodeWord_encodeWord (w n : Nat) : decodeWord (encodeWord w n) = n % wordBound w := by
  induction w generalizing n with
  | zero => simp [encodeWord, decodeWord, wordBound, Nat.mod_one]
  | succ w ih =>
    simp only [encodeWord, decodeWord, wordBound, ih, UInt8.toNat_ofNat', Nat.mod_mul]

end Bytes

end ExpertExchange
