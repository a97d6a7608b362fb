import ExpertExchange.Exchange.Context
import ExpertExchange.Session.Kernels

/-!
# Sessions

A session keeps, over one platform, an exchange context and an event pool, and buffers, loaded
kernels and links under names. Commands work on a session and answer replies; a value that is
stored under a used name replaces the old one, which goes away after the new one was made.
-/

namespace ExpertExchange

structure Session (S : Service) (σ F E T : Type) where
  state : σ
  context : Option (Context S σ F E T)
  pool : Option (Slots E)
  installed : Installed
  buffers : Shelf Buffer
  functions : Shelf F
  links : Shelf T

/-- A stream in a command: one that is just made up, or one that the platform is asked for. -/
inductive StreamSource where
  | given (s : Stream)
  | asked (device : Nat) (kind : StreamKind)
  deriving Repr, DecidableEq

inductive NamedArgument where
  | buffer (name : String)
  | scalar (s : Scalar)
  deriving Repr, DecidableEq

namespace Session

variable {S : Service} {σ F E T ε α : Type}

def start (state : σ) : Session S σ F E T := ⟨state, none, none, .none, [], [], []⟩

abbrev SessionAct (S : Service) (σ F E T α : Type) := Act S (Session S σ F E T) SessionError α

def statePart : Part (Session S σ F E T) σ :=
  ⟨Session.state, fun s state => { s with state := state }⟩

def onState (fail : ε → SessionError) (m : Act S σ ε α) : SessionAct S σ F E T α :=
  (m.mapError fail).within statePart

def onDevice (m : Act S σ DeviceError α) : SessionAct S σ F E T α := onState .device m

def onHeap (site : Site S σ F E) (m : Act S Heap DeviceError α) : SessionAct S σ F E T α :=
  onDevice (m.within site.memory)

def onContext (m : Act S (σ × Context S σ F E T) ExchangeError α) : SessionAct S σ F E T α :=
  fun s => match s.context with
    | none => .done (.fault none, s)
    | some c => (m (s.state, c)).bind fun r =>
        .done (r.1.mapError .exchange, { s with state := r.2.1, context := some r.2.2 })

/-- Run on the kernels of the exchange context, which has to be there. -/
def onBench (m : Bench.BenchAct S σ F α) : SessionAct S σ F E T α := fun s =>
  match s.context with
  | none => .done (.fault none, s)
  | some c => (m ⟨s.state, c.invoker, s.installed, s.buffers⟩).bind fun r =>
      .done (r.1, { s with
        state := r.2.state
        context := some { c with invoker := r.2.invoker }
        installed := r.2.installed
        buffers := r.2.buffers })

/-- Run on the event pool of the session, or on the slots of its global group. -/
def onPool (global : Bool) (m : Act S (σ × Slots E) ExchangeError α) : SessionAct S σ F E T α :=
  fun s =>
  if global then onContext (Context.onSlots m) s
  else match s.pool with
    | none => .done (.fault none, s)
    | some pool => (m (s.state, pool)).bind fun r =>
        .done (r.1.mapError .exchange, { s with state := r.2.1, pool := some r.2.2 })

def find (name : String) : SessionAct S σ F E T Buffer := do
  match (← Act.view fun s => s.buffers.find? name) with
  | some b => pure b
  | none => Act.fail (.unknownBuffer name)

def findAll : List String → SessionAct S σ F E T (List Buffer)
  | [] => pure []
  | name :: rest =>
    Act.bind (find name) fun b => Act.bind (findAll rest) fun bs => pure (b :: bs)

def release (P : Platform S σ F E) (b : Buffer) : SessionAct S σ F E T Unit :=
  onDevice (P.release b)

def store (P : Platform S σ F E) (name : String) (b : Buffer) : SessionAct S σ F E T Reply := do
  let old ← Act.view fun s => s.buffers.find? name
  Act.modify fun s => { s with buffers := s.buffers.put name b }
  match old with
  | some o => release P o
  | none => pure ()
  pure (.buffer b)

/-- Keep buffers under a name with numbers after it. -/
def storeAll (P : Platform S σ F E) (name : String) :
    (number : Nat) → List Buffer → SessionAct S σ F E T (List Reply)
  | _, [] => pure []
  | number, b :: rest =>
    Act.bind (store P s!"{name}{number}" b) fun r =>
    Act.bind (storeAll P name (number + 1) rest) fun rs => pure (r :: rs)

def streamOf (P : Platform S σ F E) : StreamSource → Act S σ DeviceError Stream
  | .given s => pure s
  | .asked device kind => P.stream device kind

def arguments : List NamedArgument → SessionAct S σ F E T (List Argument)
  | [] => pure []
  | .buffer name :: rest =>
    Act.bind (find name) fun b => Act.bind (arguments rest) fun args => pure (.buffer b :: args)
  | .scalar s :: rest => Act.bind (arguments rest) fun args => pure (.scalar s :: args)

end Session

end ExpertExchange
