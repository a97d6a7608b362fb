import ExpertExchange.Outcome
import ExpertExchange.Program

/-!
# Acts

An act is a call that reads and changes a state, may ask a service, and ends in an outcome. The
state survives every outcome: an error or a fault keeps whatever had been done before it.
-/

namespace ExpertExchange

/-- A call over the state `σ` that may ask the service `S` and fail with `ε`. -/
def Act (S : Service) (σ ε α : Type) : Type := σ → Program S (Outcome ε α × σ)

structure Part (β α : Type) where
  get : β → α
  put : β → α → β

namespace Part

variable {α β γ : Type}

def first : Part (α × β) α := ⟨Prod.fst, fun p a => (a, p.2)⟩

def second : Part (α × β) β := ⟨Prod.snd, fun p b => (p.1, b)⟩

def inside (p : Part γ β) (q : Part β α) : Part γ α :=
  ⟨fun s => q.get (p.get s), fun s a => p.put s (q.put (p.get s) a)⟩

end Part

namespace Act

variable {S : Service} {σ τ ε ε' α β : Type}

/-- Continue after success; errors and faults end the act and keep the state. -/
def bind (m : Act S σ ε α) (f : α → Act S σ ε β) : Act S σ ε β := fun s =>
  (m s).bind fun
    | (.ok a, s') => f a s'
    | (.error e, s') => .done (.error e, s')
    | (.fault w, s') => .done (.fault w, s')

instance : Monad (Act S σ ε) where
  pure a := fun s => .done (.ok a, s)
  bind := bind

def get : Act S σ ε σ := fun s => .done (.ok s, s)

def view (f : σ → α) : Act S σ ε α := fun s => .done (.ok (f s), s)

def modify (f : σ → σ) : Act S σ ε Unit := fun s => .done (.ok (), f s)

def fail (e : ε) : Act S σ ε α := fun s => .done (.error e, s)

def fault (reason : Option String) : Act S σ ε α := fun s => .done (.fault reason, s)

/-- A call that touches neither the state nor the service. -/
def ofOutcome (o : Outcome ε α) : Act S σ ε α := fun s => .done (o, s)

/-- Go on only if the condition holds. -/
def ensure (p : Prop) [Decidable p] (e : ε) : Act S σ ε Unit :=
  if p then pure () else fail e

def request (r : S.Request) : Act S σ ε (S.Answer r) := fun s => .ask r fun x => .done (.ok x, s)

/-- An act that asks nothing, over any service. -/
def embed (m : Act Silence σ ε α) : Act S σ ε α := fun s => .done (m s).value

def mapError (f : ε → ε') (m : Act S σ ε α) : Act S σ ε' α := fun s =>
  (m s).bind fun r => .done (r.1.mapError f, r.2)

def within (p : Part τ σ) (m : Act S σ ε α) : Act S τ ε α := fun t =>
  (m (p.get t)).bind fun r => .done (r.1, p.put t r.2)

/-- Run with a further state that nothing else needs. -/
def alongside (t : τ) (m : Act S (σ × τ) ε α) : Act S σ ε α := fun s =>
  (m (s, t)).bind fun r => .done (r.1, r.2.1)

/-- Run and hand the outcome to the caller instead of ending. -/
def attempt (m : Act S σ ε α) : Act S σ ε' (Outcome ε α) := fun s =>
  (m s).bind fun r => .done (.ok r.1, r.2)

/-- Run `m`, then `cleanup` whatever the outcome of `m` was; the outcome is the one of `m`. -/
def andFinally (m : Act S σ ε α) (cleanup : Act S σ ε Unit) : Act S σ ε α := fun s =>
  (m s).bind fun r => (cleanup r.2).bind fun r' => .done (r.1, r'.2)

/-- Run `m`, then `cleanup` unless `m` ended with a value; the outcome is the one of `m`. -/
def orElseClean (m : Act S σ ε α) (cleanup : Act S σ ε Unit) : Act S σ ε α := fun s =>
  (m s).bind fun
    | (.ok a, s') => .done (.ok a, s')
    | (o, s') => (cleanup s').bind fun r => .done (o, r.2)

/-- Run the act for every element, in order, up to the first that does not succeed. -/
def forEach (xs : List α) (f : α → Act S σ ε Unit) : Act S σ ε Unit :=
  match xs with
  | [] => pure ()
  | x :: rest => bind (f x) fun _ => forEach rest f

end Act

end ExpertExchange
