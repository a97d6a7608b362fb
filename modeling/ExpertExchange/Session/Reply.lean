import ExpertExchange.Device.Argument
import ExpertExchange.Device.Geometry
import ExpertExchange.Group.Error
import ExpertExchange.Log
import ExpertExchange.Settings.Basic

/-!
# Replies

What the commands of a session answer, and what they can fail with.
-/

namespace ExpertExchange

inductive SessionError where
  /-- No buffer was stored under this name. -/
  | unknownBuffer (name : String)
  | device (cause : DeviceError)
  | kernel (cause : KernelError)
  | operator (cause : OperatorError)
  | exchange (cause : ExchangeError)
  deriving Repr, DecidableEq

/-- The error in words; of an unknown buffer, its name. -/
def SessionError.message : SessionError → String
  | .unknownBuffer name => name
  | .device e => e.message
  | .kernel e => e.message
  | .operator e => e.message
  | .exchange e => e.message

/-- All that can be seen of a buffer besides its content. -/
structure Inspection where
  buffer : Buffer
  isHost : Bool
  address : Option Nat
  users : List Stream
  description : String
  deriving Repr, DecidableEq

/-- What a command answers when it succeeds. -/
inductive Reply where
  | nothing
  | flag (b : Bool)
  | number (n : Int)
  | text (s : String)
  | numbers (ns : List Nat)
  | bytes (content : Bytes)
  /-- Elements of a type, by their bytes. -/
  | elements (dtype : Dtype) (content : Bytes)
  | buffer (b : Buffer)
  | stream (s : Stream)
  | inspection (i : Inspection)
  | settings (s : Settings)
  /-- How a part of the command ended. -/
  | ended (o : Outcome SessionError Reply)
  | list (items : List Reply)
  | fields (items : List (String × Reply))

namespace Reply

def count (n : Nat) : Reply := .number n

def orNothing {α : Type} (f : α → Reply) : Option α → Reply
  | some a => f a
  | none => .nothing

def words (t : Dtype) (ws : List Nat) : Reply := .elements t (Bytes.encodeWords t.size ws)

def extent (e : Extent) : Reply := .numbers [e.x, e.y, e.z]

def image (i : Image) : Reply := .fields [("kind", .text i.kind), ("content", .text i.content)]

def geometry (g : Geometry) : Reply :=
  .fields [("blocks", extent g.blocks), ("threads", extent g.threads)]

end Reply

structure Answered where
  outcome : Outcome SessionError Reply
  records : List LogRecord

end ExpertExchange
