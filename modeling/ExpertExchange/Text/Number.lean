/-!
# Numbers in texts

A whole number is read from a sequence of ASCII digits, at least one, after an optional sign. A plus
sign is always allowed; a minus sign only where the number may be negative. No blanks, separators or
other digits. A duration is shown in the largest of its units that makes the whole part positive,
with as many decimals as it needs: `30s`, `1.5s`, `300ms`, `0ns`.
-/

namespace ExpertExchange.Text

def digitValue? (c : Char) : Option Nat :=
  if '0' ≤ c ∧ c ≤ '9' then some (c.toNat - '0'.toNat) else none

/-- The value of a non-empty sequence of ASCII digits, continuing from `acc`. -/
def digitsFrom (acc : Nat) : List Char → Option Nat
  | [] => some acc
  | c :: rest => (digitValue? c).bind fun d => digitsFrom (10 * acc + d) rest

def digitsValue? : List Char → Option Nat
  | [] => none
  | cs => digitsFrom 0 cs

/-- A number without a minus sign, below `bound`. -/
def natural? (bound : Nat) (s : String) : Option Nat :=
  let cs := match s.toList with
    | '+' :: rest => rest
    | cs => cs
  (digitsValue? cs).filter (· < bound)

/-- A number with an optional sign, at least `-bound` and below `bound`. -/
def integer? (bound : Nat) (s : String) : Option Int :=
  match s.toList with
  | '-' :: rest => ((digitsValue? rest).filter (· ≤ bound)).map fun n => -(n : Int)
  | '+' :: rest => ((digitsValue? rest).filter (· < bound)).map Int.ofNat
  | cs => ((digitsValue? cs).filter (· < bound)).map Int.ofNat

/-- A fraction with `places` decimals, without trailing zeros; empty for zero. -/
def decimals (places n : Nat) : String :=
  let digits := (Nat.toDigits 10 n).reverse
  let padded := (digits ++ List.replicate (places - digits.length) '0').reverse
  let kept := (padded.reverse.dropWhile (· == '0')).reverse
  if kept.isEmpty then "" else "." ++ String.ofList kept

def milliseconds (ms : Nat) : String :=
  if ms = 0 then "0ns"
  else if ms < 1000 then s!"{ms}ms"
  else toString (ms / 1000) ++ decimals 3 (ms % 1000) ++ "s"

end ExpertExchange.Text
