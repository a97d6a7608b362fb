/-!
# Classes of characters

A class is given by the code points at which membership changes, in ascending order: a character
belongs to the class when an odd number of them is at most its code point. Blanks and decimal
digits are those of every script.
-/

namespace ExpertExchange.Text

/-- A set of characters, as the ascending code points at which membership changes. -/
structure Class where
  changes : List Nat

/-- Whether an odd number of the ascending values is at most `n`. -/
def oddBelow (n : Nat) : List Nat → Bool
  | [] => false
  | x :: rest => if x ≤ n then !oddBelow n rest else false

/-- Whether the character belongs to the class. -/
def Class.has (k : Class) (c : Char) : Bool := oddBelow c.toNat k.changes

def blanks : Class where
  changes := [0x9, 0xe, 0x20, 0x21, 0x85, 0x86, 0xa0, 0xa1, 0x1680, 0x1681, 0x2000, 0x200b,
    0x2028, 0x202a, 0x202f, 0x2030, 0x205f, 0x2060, 0x3000, 0x3001]

/-- Whether the character is white space. -/
def isBlank (c : Char) : Bool := blanks.has c

/-- The characters without the blanks at either end. -/
def trimChars (cs : List Char) : List Char :=
  ((cs.dropWhile isBlank).reverse.dropWhile isBlank).reverse

/-- The text without the blanks at either end. -/
def trim (s : String) : String := String.ofList (trimChars s.toList)

def digits : Class where
  changes := [
  0x30, 0x3a, 0x660, 0x66a, 0x6f0, 0x6fa, 0x7c0, 0x7ca, 0x966, 0x970, 0x9e6, 0x9f0,
  0xa66, 0xa70, 0xae6, 0xaf0, 0xb66, 0xb70, 0xbe6, 0xbf0, 0xc66, 0xc70, 0xce6, 0xcf0,
  0xd66, 0xd70, 0xde6, 0xdf0, 0xe50, 0xe5a, 0xed0, 0xeda, 0xf20, 0xf2a, 0x1040, 0x104a,
  0x1090, 0x109a, 0x17e0, 0x17ea, 0x1810, 0x181a, 0x1946, 0x1950, 0x19d0, 0x19da, 0x1a80, 0x1a8a,
  0x1a90, 0x1a9a, 0x1b50, 0x1b5a, 0x1bb0, 0x1bba, 0x1c40, 0x1c4a, 0x1c50, 0x1c5a, 0xa620, 0xa62a,
  0xa8d0, 0xa8da, 0xa900, 0xa90a, 0xa9d0, 0xa9da, 0xa9f0, 0xa9fa, 0xaa50, 0xaa5a, 0xabf0, 0xabfa,
  0xff10, 0xff1a, 0x104a0, 0x104aa, 0x10d30, 0x10d3a, 0x10d40, 0x10d4a, 0x11066, 0x11070, 0x110f0, 0x110fa,
  0x11136, 0x11140, 0x111d0, 0x111da, 0x112f0, 0x112fa, 0x11450, 0x1145a, 0x114d0, 0x114da, 0x11650, 0x1165a,
  0x116c0, 0x116ca, 0x116d0, 0x116e4, 0x11730, 0x1173a, 0x118e0, 0x118ea, 0x11950, 0x1195a, 0x11bf0, 0x11bfa,
  0x11c50, 0x11c5a, 0x11d50, 0x11d5a, 0x11da0, 0x11daa, 0x11f50, 0x11f5a, 0x16a60, 0x16a6a, 0x16ac0, 0x16aca,
  0x16b50, 0x16b5a, 0x16d70, 0x16d7a, 0x1ccf0, 0x1ccfa, 0x1d7ce, 0x1d800, 0x1e140, 0x1e14a, 0x1e2f0, 0x1e2fa,
  0x1e4f0, 0x1e4fa, 0x1e5f1, 0x1e5fb, 0x1e950, 0x1e95a, 0x1fbf0, 0x1fbfa]

/-- Whether the character is a decimal digit of some script. -/
def isDigit (c : Char) : Bool := digits.has c

end ExpertExchange.Text
