import ExpertExchange.Toml.Node
import ExpertExchange.Toml.Text
import ExpertExchange.Word

/-!
# TOML scalars

Truth values, numbers, dates and times, each read from a whole word.
-/

namespace ExpertExchange.Toml.Scalar

def isWordChar (c : Char) : Bool :=
  c.isAlphanum || c == '_' || c == '+' || c == '-' || c == '.' || c == ':'

/-- Digits without the underscores that may stand between two of them. -/
def ungrouped? (isDigit : Char → Bool) : List Char → Option (List Char)
  | [] => none
  | [c] => if isDigit c then some [c] else none
  | c :: '_' :: d :: rest =>
    if isDigit c && isDigit d then (ungrouped? isDigit (d :: rest)).map (c :: ·) else none
  | c :: rest => if isDigit c then (ungrouped? isDigit rest).map (c :: ·) else none

def number? (base : Nat) (cs : List Char) : Option Nat := do
  let value (c : Char) : Option Nat := (Text.hexValue? c).filter (· < base)
  let digits ← ungrouped? (fun c => (value c).isSome) cs
  digits.foldlM (fun n c => (value c).map (base * n + ·)) 0

/-- A word without its sign, and whether that is a minus. -/
def sign : List Char → Bool × List Char
  | '-' :: rest => (true, rest)
  | '+' :: rest => (false, rest)
  | cs => (false, cs)

/-- Digits without a zero in front of others. -/
def isCanonical : List Char → Bool
  | ['0'] => true
  | '0' :: _ => false
  | _ => true

/-- A whole number of 64 bits. Only decimal ones have a sign. -/
def integer? : List Char → Option Int
  | '0' :: 'x' :: rest => bounded? false (number? 16 rest)
  | '0' :: 'o' :: rest => bounded? false (number? 8 rest)
  | '0' :: 'b' :: rest => bounded? false (number? 2 rest)
  | cs =>
    let (negative, digits) := sign cs
    if isCanonical digits then bounded? negative (number? 10 digits) else none
where
  /-- The number with its sign, if it has 64 bits. -/
  bounded? (negative : Bool) (n : Option Nat) : Option Int := do
    let n ← n
    if negative then if n ≤ Word.signedBound then some (-(n : Int)) else none
    else if n < Word.signedBound then some (n : Int) else none

/-- Split at the first character that passes a test, which is left out. -/
def splitAtChar (p : Char → Bool) (cs : List Char) : List Char × Option (List Char) :=
  match cs.dropWhile (fun c => !p c) with
  | [] => (cs, none)
  | _ :: rest => (cs.takeWhile (fun c => !p c), some rest)

/-- The smallest number that is rounded to infinity: half a unit of the last place more than the
largest finite one. -/
def floatBound : Nat := ((1 <<< 54) - 1) <<< 970

/-- Whether `n` times ten to the power of `exponent` is rounded to infinity. -/
def overflows (n : Nat) (exponent : Int) : Bool :=
  let places := ((toString n).length : Int) + exponent
  if n = 0 ∨ places < 309 then false
  else if 310 < places then true
  else if 0 ≤ exponent then floatBound ≤ n * Nat.pow 10 exponent.toNat
  else floatBound * Nat.pow 10 (-exponent).toNat ≤ n

/-- The exponent of a float; none is zero. -/
def exponent? : Option (List Char) → Option Int
  | none => some 0
  | some cs =>
    let (negative, digits) := sign cs
    (number? 10 digits).map fun n => if negative then -(n : Int) else n

/-- Whether a word is a float: a fraction or an exponent, and not too large. -/
def isFloat (cs : List Char) : Bool :=
  let (negative, rest) := sign cs
  if rest = "inf".toList ∨ rest = "nan".toList then true
  else
    let (mantissa, exponent) := splitAtChar (fun c => c == 'e' || c == 'E') rest
    let (whole, fraction) := splitAtChar (· == '.') mantissa
    let parts : Option Bool := do
      let _ ← number? 10 whole
      let w ← ungrouped? Char.isDigit whole
      let f ← match fraction with
        | none => some []
        | some f => ungrouped? Char.isDigit f
      let e ← exponent? exponent
      let n ← number? 10 (w ++ f)
      pure (negative || !overflows n (e - f.length))
    isCanonical whole && (fraction.isSome || exponent.isSome) && parts.getD false

def twoDigits? : List Char → Option (Nat × List Char)
  | a :: b :: rest =>
    if a.isDigit && b.isDigit then some (10 * (a.toNat - 48) + (b.toNat - 48), rest) else none
  | _ => none

def twoDigitsIn? (low high : Nat) (cs : List Char) : Option (Nat × List Char) :=
  (twoDigits? cs).filter fun r => low ≤ r.1 ∧ r.1 ≤ high

/-- The rest after a character that has to come first. -/
def after? (c : Char) : List Char → Option (List Char)
  | d :: rest => if d = c then some rest else none
  | [] => none

def daysOf (year month : Nat) : Nat :=
  if month = 2 then
    if year % 4 = 0 ∧ (year % 100 ≠ 0 ∨ year % 400 = 0) then 29 else 28
  else if month = 4 ∨ month = 6 ∨ month = 9 ∨ month = 11 then 30
  else 31

def date? (cs : List Char) : Option (List Char) := do
  let (century, cs) ← twoDigits? cs
  let (year, cs) ← twoDigits? cs
  let cs ← after? '-' cs
  let (month, cs) ← twoDigitsIn? 1 12 cs
  let cs ← after? '-' cs
  let (_, cs) ← twoDigitsIn? 1 (daysOf (100 * century + year) month) cs
  pure cs

/-- A fraction of a second at the start of a word, if there is one. -/
def fraction? : List Char → Option (List Char)
  | '.' :: rest =>
    if (rest.takeWhile Char.isDigit).isEmpty then none else some (rest.dropWhile Char.isDigit)
  | cs => some cs

/-- A time of day at the start of a word. -/
def time? (cs : List Char) : Option (List Char) := do
  let (_, cs) ← twoDigitsIn? 0 23 cs
  let cs ← after? ':' cs
  let (_, cs) ← twoDigitsIn? 0 59 cs
  let cs ← after? ':' cs
  let (_, cs) ← twoDigitsIn? 0 60 cs
  fraction? cs

/-- Whether a word is a time zone, or nothing. -/
def isZone : List Char → Bool
  | [] => true
  | [c] => c == 'Z' || c == 'z'
  | c :: rest =>
    (c == '+' || c == '-') &&
      (do
        let (_, cs) ← twoDigitsIn? 0 23 rest
        let cs ← after? ':' cs
        let (_, cs) ← twoDigitsIn? 0 59 cs
        pure cs) == some ([] : List Char)

/-- Whether a word is a date, a time, or both, and both may have a zone. -/
def isDateTime (cs : List Char) : Bool :=
  match date? cs with
  | some [] => true
  | some (c :: rest) =>
    (c == 'T' || c == 't') &&
      match time? rest with
      | some zone => isZone zone
      | none => false
  | none => time? cs == some []

def ofWord? (cs : List Char) : Option Node :=
  if cs = "true".toList then some (.boolean true)
  else if cs = "false".toList then some (.boolean false)
  else match integer? cs with
    | some n => some (.integer n)
    | none =>
      if isFloat cs then some .float
      else if isDateTime cs then some .dateTime
      else none

/-- A word that goes on after a blank: a date and a time. -/
def joined? (date : List Char) : List Char → Option (List Char × List Char)
  | ' ' :: a :: b :: ':' :: rest =>
    if a.isDigit && b.isDigit && date? date == some [] then
      some (date ++ 'T' :: a :: b :: ':' :: rest.takeWhile isWordChar, rest.dropWhile isWordChar)
    else none
  | _ => none

def read? (cs : List Char) : Option (Node × List Char) :=
  let word := cs.takeWhile isWordChar
  let rest := cs.dropWhile isWordChar
  let (word, rest) := (joined? word rest).getD (word, rest)
  (ofWord? word).map fun node => (node, rest)

end ExpertExchange.Toml.Scalar
