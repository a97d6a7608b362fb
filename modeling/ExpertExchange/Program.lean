/-!
# Programs over a service

A program computes with pure code and, now and then, asks a service something and waits for the
answer. The service is not part of the program: mailboxes between participants, vendor libraries
and the operating system are all services, and one program can be run against any of them. Every
program is finite along every sequence of answers, so running one needs no fuel.
-/

namespace ExpertExchange

/-- What may be asked, and the kind of answer each request gets. -/
structure Service where
  Request : Type
  Answer : Request → Type

/-- The service that answers no request, since it knows none. -/
def Silence : Service := ⟨Empty, fun _ => Empty⟩

/-- A computation that is finished, or that waits for the answer to one request. -/
inductive Program (S : Service) (α : Type) where
  | done (value : α)
  | ask (request : S.Request) (next : S.Answer request → Program S α)

namespace Program

variable {S : Service} {α β γ : Type}

/-- Continue with `f` once the program is finished. -/
def bind : Program S α → (α → Program S β) → Program S β
  | .done a, f => f a
  | .ask r next, f => .ask r fun x => (next x).bind f

instance : Monad (Program S) where
  pure := .done
  bind := bind

def request (r : S.Request) : Program S (S.Answer r) := .ask r .done

def value : Program Silence α → α
  | .done a => a
  | .ask r _ => nomatch r

theorem bind_done (p : Program S α) : p.bind .done = p := by
  induction p with
  | done => rfl
  | ask r next ih => simp [bind, ih]

theorem bind_assoc (p : Program S α) (f : α → Program S β) (g : β → Program S γ) :
    (p.bind f).bind g = p.bind fun a => (f a).bind g := by
  induction p with
  | done => rfl
  | ask r next ih => simp [bind, ih]

def runWith {μ : Type} (answer : (r : S.Request) → μ → S.Answer r × μ) :
    Program S α → μ → α × μ
  | .done a, m => (a, m)
  | .ask r next, m => (next (answer r m).1).runWith answer (answer r m).2

end Program

end ExpertExchange
