import ExpertExchange.Outcome

/-!
# Machine words

Sizes, counts and byte offsets are words of 64 bits. They are written as natural numbers, and the
operations that could leave the range of a word say so: `none` where the caller has an answer to
overflow, a fault where it has none.
-/

namespace ExpertExchange.Word

/-- Words are the natural numbers below this bound. -/
def bound : Nat := 0x10000000000000000

/-- Words of 32 bits are the natural numbers below this bound. -/
def bound32 : Nat := 0x100000000

/-- Signed words are the integers from minus this bound up to it, exclusive. -/
def signedBound : Nat := 0x8000000000000000

def portBound : Nat := 0x10000

/-- No allocation is larger than this many bytes. -/
def allocationBound : Nat := 0x7fffffffffffffff

def add? (a b : Nat) : Option Nat := if a + b < bound then some (a + b) else none

def mul? (a b : Nat) : Option Nat := if a * b < bound then some (a * b) else none

/-- The product of a list, multiplied from the left; each partial product has to be a word. -/
def product? (ns : List Nat) : Option Nat := ns.foldlM mul? 1

variable {ε : Type}

/-- The sum; a fault on overflow. -/
def add (a b : Nat) : Outcome ε Nat := .orFault (add? a b)

/-- The product; a fault on overflow. -/
def mul (a b : Nat) : Outcome ε Nat := .orFault (mul? a b)

def product (ns : List Nat) : Outcome ε Nat := .orFault (product? ns)

/-- The quotient; a fault on division by zero. -/
def div (a b : Nat) : Outcome ε Nat := if b = 0 then .fault none else .ok (a / b)

/-- The remainder; a fault on division by zero. -/
def mod (a b : Nat) : Outcome ε Nat := if b = 0 then .fault none else .ok (a % b)

/-- The low 32 bits, read as a signed number. -/
def toSigned32 (n : Nat) : Int := Int.bmod (n : Int) bound32

def toSigned64 (n : Nat) : Int := Int.bmod (n : Int) bound

/-- The 64 bits of an integer in two's complement. -/
def ofInt (i : Int) : Nat := (i % (bound : Int)).toNat

theorem add?_eq_some {a b n : Nat} (h : add? a b = some n) : n = a + b ∧ n < bound := by
  unfold add? at h
  split at h
  · cases h; exact ⟨rfl, ‹_›⟩
  · cases h

theorem mul?_eq_some {a b n : Nat} (h : mul? a b = some n) : n = a * b ∧ n < bound := by
  unfold mul? at h
  split at h
  · cases h; exact ⟨rfl, ‹_›⟩
  · cases h

end ExpertExchange.Word
