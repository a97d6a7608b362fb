/-!
# TOML strings

A string is written in one of four forms: between single or triple quotation marks, where a
backslash starts an escape, or between single or triple apostrophes, where nothing is escaped. The
triple forms may go over several lines. Reading first splits off what is between the marks and then
takes out the escapes.
-/

namespace ExpertExchange.Toml

/-- A character that may stand in a line as it is. -/
def isPlain (c : Char) : Bool := c == '\t' || (' ' ≤ c && c != '\x7f')

namespace Text

/-- What is before the next quotation mark outside of escapes, and what is after it. -/
def splitBasic : List Char → Option (List Char × List Char)
  | [] => none
  | '"' :: rest => some ([], rest)
  | '\\' :: c :: rest => (splitBasic rest).map fun r => ('\\' :: c :: r.1, r.2)
  | c :: rest => (splitBasic rest).map fun r => (c :: r.1, r.2)

/-- What is before the next apostrophe, and what is after it. -/
def splitLiteral : List Char → Option (List Char × List Char)
  | [] => none
  | '\'' :: rest => some ([], rest)
  | c :: rest => (splitLiteral rest).map fun r => (c :: r.1, r.2)

/-- Up to two marks right after the closing ones still belong to the text. -/
def takeMarks (mark : Char) : List Char → List Char × List Char
  | a :: b :: rest =>
    if a = mark then if b = mark then ([a, b], rest) else ([a], b :: rest) else ([], a :: b :: rest)
  | [a] => if a = mark then ([a], []) else ([], [a])
  | [] => ([], [])

/-- What is before the next three quotation marks outside of escapes, and what is after them. -/
def splitLongBasic : List Char → Option (List Char × List Char)
  | [] => none
  | '"' :: '"' :: '"' :: rest => some (takeMarks '"' rest)
  | '\\' :: c :: rest => (splitLongBasic rest).map fun r => ('\\' :: c :: r.1, r.2)
  | c :: rest => (splitLongBasic rest).map fun r => (c :: r.1, r.2)

/-- What is before the next three apostrophes, and what is after them. -/
def splitLongLiteral : List Char → Option (List Char × List Char)
  | [] => none
  | '\'' :: '\'' :: '\'' :: rest => some (takeMarks '\'' rest)
  | c :: rest => (splitLongLiteral rest).map fun r => (c :: r.1, r.2)

def hexValue? (c : Char) : Option Nat :=
  if '0' ≤ c ∧ c ≤ '9' then some (c.toNat - '0'.toNat)
  else if 'a' ≤ c ∧ c ≤ 'f' then some (c.toNat - 'a'.toNat + 10)
  else if 'A' ≤ c ∧ c ≤ 'F' then some (c.toNat - 'A'.toNat + 10)
  else none

def hexNumber? (digits : List Char) : Option Nat :=
  digits.foldlM (fun n c => (hexValue? c).map (16 * n + ·)) 0

def codePoint? (digits : List Char) : Option Char := do
  let n ← hexNumber? digits
  if n.isValidChar then some (Char.ofNat n) else none

/-- The character that a letter after a backslash stands for. -/
def escaped? : Char → Option Char
  | 'b' => some '\x08'
  | 't' => some '\t'
  | 'n' => some '\n'
  | 'f' => some '\x0c'
  | 'r' => some '\r'
  | '"' => some '"'
  | '\\' => some '\\'
  | _ => none

/-- The characters after the blanks and line ends at the start. -/
def skipBreaks : List Char → List Char
  | '\r' :: '\n' :: rest => skipBreaks rest
  | c :: rest => if c = ' ' ∨ c = '\t' ∨ c = '\n' then skipBreaks rest else c :: rest
  | [] => []

theorem length_skipBreaks (cs : List Char) : (skipBreaks cs).length ≤ cs.length := by
  fun_induction skipBreaks cs with
  | case1 rest ih => simp only [List.length_cons]; omega
  | case2 c rest _ _ ih => simp only [List.length_cons]; omega
  | case3 => exact Nat.le_refl _
  | case4 => exact Nat.le_refl _

/-- Whether only blanks come before the end of the line. -/
def endsLine : List Char → Bool
  | '\n' :: _ => true
  | '\r' :: '\n' :: _ => true
  | c :: rest => if c = ' ' ∨ c = '\t' then endsLine rest else false
  | [] => false

/-- Take out the escapes; line ends are allowed only if the text may go over several lines. -/
def unescape (long : Bool) : List Char → Option (List Char)
  | [] => some []
  | '\\' :: 'u' :: a :: b :: c :: d :: rest => do
    let x ← codePoint? [a, b, c, d]
    let xs ← unescape long rest
    pure (x :: xs)
  | '\\' :: 'U' :: a :: b :: c :: d :: e :: f :: g :: h :: rest => do
    let x ← codePoint? [a, b, c, d, e, f, g, h]
    let xs ← unescape long rest
    pure (x :: xs)
  | '\\' :: rest =>
    if long && endsLine rest then unescape long (skipBreaks rest)
    else match rest with
      | [] => none
      | e :: rest' => do
        let x ← escaped? e
        let xs ← unescape long rest'
        pure (x :: xs)
  | '\r' :: '\n' :: rest => if long then (unescape long rest).map ('\n' :: ·) else none
  | c :: rest =>
    if isPlain c || (long && c == '\n') then (unescape long rest).map (c :: ·) else none
termination_by cs => cs.length
decreasing_by
  all_goals simp only [List.length_cons]
  all_goals first
    | omega
    | exact Nat.lt_succ_of_le (length_skipBreaks _)

/-- The text between apostrophes as it is, with line ends in one form. -/
def verbatim (long : Bool) : List Char → Option (List Char)
  | [] => some []
  | '\r' :: '\n' :: rest => if long then (verbatim long rest).map ('\n' :: ·) else none
  | c :: rest =>
    if isPlain c || (long && c == '\n') then (verbatim long rest).map (c :: ·) else none

/-- The characters after a line end at the start. -/
def dropFirstBreak : List Char → List Char
  | '\n' :: rest => rest
  | '\r' :: '\n' :: rest => rest
  | cs => cs

def finish (content : List Char → Option (List Char)) (split : Option (List Char × List Char)) :
    Option (String × List Char) := do
  let (raw, rest) ← split
  let text ← content raw
  pure (String.ofList text, rest)

def short? : List Char → Option (String × List Char)
  | '"' :: rest => finish (unescape false) (splitBasic rest)
  | '\'' :: rest => finish (verbatim false) (splitLiteral rest)
  | _ => none

def read? : List Char → Option (String × List Char)
  | '"' :: '"' :: '"' :: rest => finish (unescape true) (splitLongBasic (dropFirstBreak rest))
  | '\'' :: '\'' :: '\'' :: rest => finish (verbatim true) (splitLongLiteral (dropFirstBreak rest))
  | cs => short? cs

end Text

end ExpertExchange.Toml
