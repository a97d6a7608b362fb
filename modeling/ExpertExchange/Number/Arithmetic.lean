import ExpertExchange.Bytes
import ExpertExchange.Dtype
import ExpertExchange.Number.Half

/-!
# Sums of elements

Elements are handled as bit patterns of the width of their type. Whole numbers are added exactly
and a sum outside the type is an overflow; floating-point numbers are added in their format, the
half-precision ones in single precision with one rounding at the end.
-/

namespace ExpertExchange

/-- A way to add two elements of a type, given by their bits; `none` where the sum is a fault. -/
abbrev Addition := Dtype → Nat → Nat → Option Nat

namespace Number

/-- Bits of the sum of two single-precision numbers given by their bits. -/
def addSingle (a b : Nat) : Nat :=
  (Float32.ofBits (UInt32.ofNat a) + Float32.ofBits (UInt32.ofNat b)).toBits.toNat

/-- Bits of the product of two single-precision numbers given by their bits. -/
def mulSingle (a b : Nat) : Nat :=
  (Float32.ofBits (UInt32.ofNat a) * Float32.ofBits (UInt32.ofNat b)).toBits.toNat

/-- Bits of the sum of two double-precision numbers given by their bits. -/
def addDouble (a b : Nat) : Nat :=
  (Float.ofBits (UInt64.ofNat a) + Float.ofBits (UInt64.ofNat b)).toBits.toNat

/-- Bits of the product of two double-precision numbers given by their bits. -/
def mulDouble (a b : Nat) : Nat :=
  (Float.ofBits (UInt64.ofNat a) * Float.ofBits (UInt64.ofNat b)).toBits.toNat

/-- Bits of the sum of two half-precision numbers given by their bits. -/
def addHalf (f : Half.Format) (a b : Nat) : Nat := f.round (addSingle (f.widen a) (f.widen b))

/-- Bits of the sum of two elements, or `none` on overflow and for types that are not added. -/
def add? : Addition := fun t a b =>
  match t with
  | .u8 => if a + b < 256 then some (a + b) else none
  | .u32 => if a + b < Word.bound32 then some (a + b) else none
  | .i64 =>
    let sum := Word.toSigned64 a + Word.toSigned64 b
    if -(Word.signedBound : Int) ≤ sum ∧ sum < Word.signedBound then some (Word.ofInt sum) else none
  | .bf16 => some (addHalf Half.brain16 a b)
  | .f16 => some (addHalf Half.binary16 a b)
  | .f32 => some (addSingle a b)
  | .f64 => some (addDouble a b)
  | _ => none

/-- Elementwise sum of two lists, or `none` where two elements have no sum. -/
def addAll? (plus : Addition) (t : Dtype) (xs ys : List Nat) : Option (List Nat) :=
  (xs.zip ys).mapM fun p => plus t p.1 p.2

end Number

end ExpertExchange
