/-!
# Outcomes

A call ends in one of three ways: with a value, with an error that the caller can handle, or with
a fault. A fault is the end of a call that broke an arithmetic or indexing rule (a machine word
overflowed, a division by zero, an index outside its list); it carries a text only where the
library itself states the broken rule.
-/

namespace ExpertExchange

/-- The three ways a call can end. -/
inductive Outcome (ε α : Type) where
  | ok (value : α)
  | error (cause : ε)
  | fault (reason : Option String)
  deriving Repr, DecidableEq

namespace Outcome

variable {ε ε' α β : Type}

/-- Continue after success; errors and faults end the call. -/
def bind : Outcome ε α → (α → Outcome ε β) → Outcome ε β
  | .ok a, f => f a
  | .error e, _ => .error e
  | .fault w, _ => .fault w

instance : Monad (Outcome ε) where
  pure := .ok
  bind := bind

/-- Restate the error of a call in the terms of its caller. -/
def mapError (f : ε → ε') : Outcome ε α → Outcome ε' α
  | .ok a => .ok a
  | .error e => .error (f e)
  | .fault w => .fault w

/-- The value if there is one, else a fault. -/
def orFault : Option α → Outcome ε α
  | some a => .ok a
  | none => .fault none

/-- The value if there is one, else the given error. -/
def orError (e : ε) : Option α → Outcome ε α
  | some a => .ok a
  | none => .error e

/-- Go on only if the condition holds. -/
def ensure (p : Prop) [Decidable p] (e : ε) : Outcome ε Unit :=
  if p then .ok () else .error e

/-- Go on only if the condition holds, else fault. -/
def ensureOrFault (p : Prop) [Decidable p] (reason : Option String) : Outcome ε Unit :=
  if p then .ok () else .fault reason

/-- Whether the call ended with a value. -/
def isOk : Outcome ε α → Bool
  | .ok _ => true
  | _ => false

/-- The value, if the call ended with one. -/
def toOption : Outcome ε α → Option α
  | .ok a => some a
  | _ => none

end Outcome

end ExpertExchange
