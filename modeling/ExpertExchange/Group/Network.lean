import ExpertExchange.Bytes
import ExpertExchange.Program

/-!
# The simulated network

Participants of one process share a network. A group is formed by the participants that join under
one id; between each ordered pair of its ranks messages arrive in the order they were posted. The
network is a service: a request that cannot be answered yet, for want of a participant or of a
message, is not `ready`, and `answer` gives it the answer it gets once it has waited long enough.
-/

namespace ExpertExchange

/-- A message on its way. -/
structure Letter where
  source : Nat
  target : Nat
  payload : Bytes
  deriving Repr, DecidableEq

/-- One group: its id, its size, how many joined, and all messages not yet taken, oldest first. -/
structure NetworkGroup where
  id : Bytes
  worldSize : Nat
  joined : Nat
  letters : List Letter
  deriving Repr, DecidableEq

namespace NetworkGroup

/-- The messages from one rank to another, oldest first. -/
def mailbox (g : NetworkGroup) (source target : Nat) : List Bytes :=
  g.letters.filterMap fun l =>
    if l.source = source ∧ l.target = target then some l.payload else none

def post (g : NetworkGroup) (l : Letter) : NetworkGroup := { g with letters := g.letters ++ [l] }

/-- The oldest message from one rank to another, and the others. -/
def takeFrom (source target : Nat) : List Letter → Option (Bytes × List Letter)
  | [] => none
  | l :: rest =>
    if l.source = source ∧ l.target = target then some (l.payload, rest)
    else (takeFrom source target rest).map fun r => (r.1, l :: r.2)

end NetworkGroup

/-- All groups ever formed, and how many ids were handed out. -/
structure Network where
  groups : List NetworkGroup
  ids : Nat
  deriving Repr, DecidableEq

/-- What happens to a participant that wants to join. -/
inductive JoinAnswer where
  | joined
  /-- The group was formed with another size. -/
  | otherSize (formed : Nat)
  /-- A group of this size has more mailboxes than an allocation can hold. -/
  | tooLarge
  deriving Repr, DecidableEq

inductive NetworkRequest where
  /-- Join a group, forming it if there is none of this id. -/
  | join (group : Bytes) (worldSize : Nat)
  /-- Wait for all participants. -/
  | await (group : Bytes)
  | post (group : Bytes) (letter : Letter)
  /-- Wait for a message. -/
  | take (group : Bytes) (source target : Nat)
  /-- An id that was not handed out before. -/
  | freshId
  deriving Repr, DecidableEq

def Net : Service where
  Request := NetworkRequest
  Answer
    | .join _ _ => JoinAnswer
    | .await _ => Bool
    | .post _ _ => Unit
    | .take _ _ _ => Option Bytes
    | .freshId => Bytes

namespace Network

/-- A network without groups. -/
def empty : Network := ⟨[], 0⟩

def group? (n : Network) (id : Bytes) : Option NetworkGroup := n.groups.find? (·.id = id)

def modifyGroup (n : Network) (id : Bytes) (f : NetworkGroup → NetworkGroup) : Network :=
  { n with groups := n.groups.map fun g => if g.id = id then f g else g }

/-- The messages between two ranks of a group. -/
def mailbox (n : Network) (id : Bytes) (source target : Nat) : List Bytes :=
  match n.group? id with
  | some g => g.mailbox source target
  | none => []

def mailboxSize : Nat := 48

/-- Whether a group of this size can be formed. -/
def Formable (worldSize : Nat) : Prop :=
  mailboxSize * (worldSize * worldSize) ≤ Word.allocationBound

instance (worldSize : Nat) : Decidable (Formable worldSize) := inferInstanceAs (Decidable (_ ≤ _))

/-- Join a group, forming it if there is none of this id. -/
def join (n : Network) (id : Bytes) (worldSize : Nat) : JoinAnswer × Network :=
  match n.group? id with
  | some g =>
    if g.worldSize = worldSize then
      (.joined, n.modifyGroup id fun g => { g with joined := g.joined + 1 })
    else (.otherSize g.worldSize, n)
  | none =>
    if Formable worldSize then (.joined, { n with groups := n.groups ++ [⟨id, worldSize, 1, []⟩] })
    else (.tooLarge, n)

/-- Whether every participant of a group has joined. -/
def isFull (n : Network) (id : Bytes) : Bool :=
  match n.group? id with
  | some g => decide (g.worldSize ≤ g.joined)
  | none => false

def idLength : Nat := 128

/-- Whether a request can be answered without waiting. -/
def ready (n : Network) : Net.Request → Bool
  | .await id => n.isFull id
  | .take id source target => !(n.mailbox id source target).isEmpty
  | _ => true

/-- The answer to a request that is ready, or that has waited in vain: a participant that has
waited for the others leaves again, and one that has waited for a message gets none. -/
def answer : (r : Net.Request) → Network → Net.Answer r × Network
  | .join id worldSize, n => n.join id worldSize
  | .await id, n =>
    if n.isFull id then (true, n)
    else (false, n.modifyGroup id fun g => { g with joined := g.joined - 1 })
  | .post id letter, n => ((), n.modifyGroup id (·.post letter))
  | .take id source target, n =>
    match (n.group? id).bind fun g => NetworkGroup.takeFrom source target g.letters with
    | some (payload, rest) => (some payload, n.modifyGroup id fun g => { g with letters := rest })
    | none => (none, n)
  | .freshId, n => (Bytes.encodeWord idLength (n.ids + 1), { n with ids := n.ids + 1 })

end Network

end ExpertExchange
