import ExpertExchange.Device.Buffer
import ExpertExchange.Group.Error

/-!
# Transports

A transport moves bytes between the participants of a group. Its operations are enqueued on a
stream and do not wait for the peers, unless the transport is simulated; transfers between
`groupStart` and `groupEnd` form a round, within which order does not matter. The link of a
participant is its state; it is created by joining a group under an id that travels to all
participants by other means.
-/

namespace ExpertExchange

/-- The operations of a transport, on platform state `σ` and link `T`. -/
structure Transport (S : Service) (σ T : Type) where
  rank : T → Nat
  worldSize : T → Nat
  /-- The device that the participant's buffers have to be on. -/
  device : T → Nat
  /-- Open a round; rounds may nest, and the outermost one counts. -/
  groupStart : Act S (σ × T) ExchangeError Unit
  /-- Close a round; closing the outermost one issues it. -/
  groupEnd : Act S (σ × T) ExchangeError Unit
  /-- Send some bytes of a buffer to a rank. -/
  send : Buffer → ByteRange → Nat → Stream → Act S (σ × T) ExchangeError Unit
  /-- Receive some bytes of a buffer from a rank. -/
  recv : Buffer → ByteRange → Nat → Stream → Act S (σ × T) ExchangeError Unit
  /-- Replace a buffer by the one of the root, in place. -/
  broadcast : Buffer → Nat → Stream → Act S (σ × T) ExchangeError Unit
  /-- Replace a buffer by the sum over all ranks, in place. -/
  allReduce : Buffer → Stream → Act S (σ × T) ExchangeError Unit
  /-- Leave the group. -/
  close : Act S (σ × T) ExchangeError Unit

/-- A collective library: its transport, and how groups are formed. -/
structure Backend (S : Service) (σ T : Type) where
  /-- Name in records. -/
  name : String
  transport : Transport S σ T
  /-- A fresh group id, for one participant to hand to all. -/
  freshId : Act S σ ExchangeError Bytes
  /-- Join the group of an id with this many participants, as a rank, with a device, waiting for
  the others for so many milliseconds. -/
  connect : Bytes → (worldSize rank device timeout : Nat) → Act S σ ExchangeError T

/-- A waiting time in milliseconds as errors report it: as a word. -/
def reportedTimeout (timeout : Nat) : Nat := timeout % Word.bound

end ExpertExchange
