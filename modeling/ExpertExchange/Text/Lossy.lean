import ExpertExchange.Bytes

/-!
# Text of doubtful bytes

Bytes are read as UTF-8. Each longest stretch that starts like a character but is none becomes one
replacement character, and so does each byte that starts none.
-/

namespace ExpertExchange.Text

/-- The character that stands for bytes that are none. -/
def replacement : Char := Char.ofNat 0xfffd

/-- The bytes that may follow the first byte of a character of several bytes: bounds for each, the
first of them depending on the first byte. -/
def continuations (first : Nat) : List (Nat × Nat) :=
  let any := (0x80, 0xbf)
  if 0xc2 ≤ first ∧ first ≤ 0xdf then [any]
  else if first = 0xe0 then [(0xa0, 0xbf), any]
  else if first = 0xed then [(0x80, 0x9f), any]
  else if 0xe1 ≤ first ∧ first ≤ 0xef then [any, any]
  else if first = 0xf0 then [(0x90, 0xbf), any, any]
  else if first = 0xf4 then [(0x80, 0x8f), any, any]
  else if 0xf1 ≤ first ∧ first ≤ 0xf3 then [any, any, any]
  else []

/-- The bits of a first byte that belong to the character, given the number of bytes after it. -/
def leadBits (first count : Nat) : Nat := first % (1 <<< (6 - count))

/-- Read the bytes after the first one: the value so far, and the bytes still due. A byte out of
bounds ends the stretch and is read again. -/
def lossyFrom : (pending : Option (Nat × List (Nat × Nat))) → Bytes → List Char
  | none, [] => []
  | some _, [] => [replacement]
  | none, b :: rest =>
    if b.toNat < 0x80 then Char.ofNat b.toNat :: lossyFrom none rest
    else match continuations b.toNat with
      | [] => replacement :: lossyFrom none rest
      | due => lossyFrom (some (leadBits b.toNat due.length, due)) rest
  | some (value, due), b :: rest =>
    match due with
    | [] => Char.ofNat value :: lossyFrom none rest
    | (low, high) :: due' =>
      if low ≤ b.toNat ∧ b.toNat ≤ high then
        let value' := 64 * value + b.toNat % 64
        if due' = [] then Char.ofNat value' :: lossyFrom none rest
        else lossyFrom (some (value', due')) rest
      else if b.toNat < 0x80 then
        replacement :: Char.ofNat b.toNat :: lossyFrom none rest
      else match continuations b.toNat with
        | [] => replacement :: replacement :: lossyFrom none rest
        | again => replacement :: lossyFrom (some (leadBits b.toNat again.length, again)) rest

def lossy (b : Bytes) : String := String.ofList (lossyFrom none b)

end ExpertExchange.Text
