/-!
# Half-precision formats

The two formats of 16 bits, as bit patterns. Both are computed with in single precision: a value
is widened exactly, and a result is rounded to the nearest value of the format, a tie to the one
with an even last bit. `Format.round` does this on the bits of a single-precision number.
-/

namespace ExpertExchange.Half

/-- A binary format of 16 bits: one sign bit, then exponent and fraction. -/
structure Format where
  exponentBits : Nat
  fractionBits : Nat

/-- Five bits of exponent, ten of fraction. -/
def binary16 : Format := ⟨5, 10⟩

/-- Eight bits of exponent, seven of fraction. -/
def brain16 : Format := ⟨8, 7⟩

/-- The exponent that stands for infinities and NaNs. -/
def Format.top (f : Format) : Nat := (1 <<< f.exponentBits) - 1

def Format.bias (f : Format) : Nat := (1 <<< (f.exponentBits - 1)) - 1

/-- `n` shifted to the right, rounded to the nearest integer, a tie to the even one. -/
def roundShift (n shift : Nat) : Nat :=
  let unit := 1 <<< shift
  let quotient := n / unit
  let twice := 2 * (n % unit)
  if twice > unit ∨ (twice = unit ∧ quotient % 2 = 1) then quotient + 1 else quotient

/-- The bits of the single-precision number equal to a number of the format. -/
def Format.widen (f : Format) (bits : Nat) : Nat :=
  let sign := (bits >>> 15) % 2
  let e := (bits >>> f.fractionBits) % (1 <<< f.exponentBits)
  let m := bits % (1 <<< f.fractionBits)
  let spare := 23 - f.fractionBits
  let magnitude :=
    if e = f.top then (255 <<< 23) + (if m = 0 then 0 else (1 <<< 22) + (m <<< spare) % (1 <<< 22))
    else if f.exponentBits = 8 then (e <<< 23) + (m <<< spare)
    else if e = 0 then
      if m = 0 then 0
      else
        let high := Nat.log2 m
        let exponent := 127 - f.bias + 1 + high - f.fractionBits
        (exponent <<< 23) + ((m - (1 <<< high)) <<< (23 - high))
    else ((e + 127 - f.bias) <<< 23) + (m <<< spare)
  (sign <<< 31) + magnitude

/-- The bits of the number of the format nearest to a single-precision number. -/
def Format.round (f : Format) (bits : Nat) : Nat :=
  let sign := (bits >>> 31) % 2
  let e := (bits >>> 23) % (1 <<< 8)
  let m := bits % (1 <<< 23)
  let spare := 23 - f.fractionBits
  let infinity := f.top <<< f.fractionBits
  let magnitude :=
    if e = 255 then
      let quiet := 1 <<< (f.fractionBits - 1)
      if m = 0 then infinity else infinity + quiet + (m >>> spare) % quiet
    else
      let significand := if e = 0 then m else (1 <<< 23) + m
      let exponent := max e 1
      -- the significand in units of the last place of the result
      if exponent + f.bias > 127 then
        let target := exponent + f.bias - 127
        min infinity (((target - 1) <<< f.fractionBits) + roundShift significand spare)
      else
        let shift := spare + (128 - (exponent + f.bias))
        min infinity (roundShift significand shift)
  (sign <<< 15) + magnitude

end ExpertExchange.Half
