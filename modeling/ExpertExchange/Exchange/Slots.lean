import ExpertExchange.Device.Platform
import ExpertExchange.Group.Error

/-!
# Event slots

A pool of events, one per pipeline stage. Releasing a slot records its event at the tail of a
stream; acquiring it makes another stream wait for that point. A slot goes from idle to released,
and from there by way of acquired back to idle. The pool does not enforce this cycle; it only
records a warning when a slot is released twice, or acquired without a release.
-/

namespace ExpertExchange

inductive SlotState where
  | idle
  | released (stream : StreamKind)
  | acquired (stream : StreamKind)
  deriving Repr, DecidableEq

/-- A slot: its state, the state before, and how often it went from acquired to idle. -/
structure Slot where
  state : SlotState
  previous : SlotState
  handoffs : Nat
  deriving Repr, DecidableEq

/-- A slot that was never used. -/
def Slot.fresh : Slot := ⟨.idle, .idle, 0⟩

def Slot.enter (s : Slot) (next : SlotState) : Slot where
  state := next
  previous := s.state
  handoffs :=
    match s.state, next with
    | .acquired _, .idle => s.handoffs + 1
    | _, _ => s.handoffs

/-- What is remarkable about a slot's going to its next state: message and values of a record. -/
def Slot.warning? (s : Slot) (index : Nat) (next : SlotState) :
    Option (String × List (String × LogValue)) :=
  match s.state, next with
  | .released before, .released stream =>
    some ("event slot released again before any acquire",
      [("slot", .number index), ("previous", .shown before.name), ("stream", .shown stream.name)])
  | .idle, .acquired stream =>
    some ("event slot acquired before it was released",
      [("slot", .number index), ("stream", .shown stream.name)])
  | _, _ => none

structure Slots (E : Type) where
  device : Nat
  events : List E
  slots : List Slot

namespace Slots

variable {S : Service} {σ F E ε : Type}

def capacity (p : Slots E) : Nat := p.events.length

def onPlatform {α : Type} (m : Act S σ DeviceError α) : Act S (σ × Slots E) ExchangeError α :=
  (m.mapError .device).within Part.first

def destroyAll (P : Platform S σ F E) (events : List E) : Act S σ DeviceError Unit :=
  Act.forEach events P.destroyEvent

/-- The events of the slots from `first` on, added to those made already; when one cannot be made,
all go away again. -/
def createFrom (P : Platform S σ F E) (device : Nat) :
    (first count : Nat) → (made : List E) → Act S σ DeviceError (List E)
  | _, 0, made => pure made
  | first, count + 1, made =>
    Act.bind ((P.createEvent device first).orElseClean (destroyAll P made)) fun e =>
    createFrom P device (first + 1) count (made ++ [e])

def create (P : Platform S σ F E) (device count : Nat) : Act S σ ExchangeError (Slots E) := do
  let events ← (createFrom P device 0 count []).mapError .device
  P.log .debug .slots "event pool created"
    [("device", .number device), ("capacity", .number count)]
  pure ⟨device, events, List.replicate count .fresh⟩

def event (index : Nat) : Act S (σ × Slots E) ExchangeError E := fun s =>
  .done (Outcome.orError (.slotOutOfRange index s.2.capacity) s.2.events[index]?, s)

def transition (P : Platform S σ F E) (index : Nat) (next : SlotState) :
    Act S (σ × Slots E) ExchangeError Unit := do
  match (← Act.view fun s => s.2.slots[index]?) with
  | none => Act.fault none
  | some slot => do
    match slot.warning? index next with
    | some (message, fields) => (P.log .warn .slots message fields).within Part.first
    | none => pure ()
    Act.modify fun s => (s.1, { s.2 with slots := s.2.slots.set index (slot.enter next) })

def release (P : Platform S σ F E) (index : Nat) (stream : Stream) :
    Act S (σ × Slots E) ExchangeError Unit := do
  let e ← event index
  onPlatform (P.recordEvent e stream)
  transition P index (.released stream.kind)

/-- Make a stream wait for the last release of a slot, and register it with the buffers it takes
over. -/
def acquire (P : Platform S σ F E) (index : Nat) (stream : Stream) (buffers : List Buffer) :
    Act S (σ × Slots E) ExchangeError Unit := do
  let e ← event index
  onPlatform (P.waitEvent e stream)
  transition P index (.acquired stream.kind)
  Act.forEach buffers fun b => onPlatform (P.recordStream b stream)
  transition P index .idle

def stream (P : Platform S σ F E) (kind : StreamKind) :
    Act S (σ × Slots E) ExchangeError Stream := do
  let device ← Act.view fun s => s.2.device
  onPlatform (P.stream device kind)

/-- Hand a buffer over at a slot: release it on a stream of the pool's device. The buffer is
returned as a further handle. -/
def releaseOn (P : Platform S σ F E) (kind : StreamKind) (b : Buffer) (index : Nat) :
    Act S (σ × Slots E) ExchangeError Buffer := do
  release P index (← stream P kind)
  onPlatform (P.retain b)
  pure b

/-- Take a buffer over at a slot: acquire it on a stream of the pool's device. The buffer is
returned as a further handle. -/
def acquireOn (P : Platform S σ F E) (kind : StreamKind) (b : Buffer) (index : Nat) :
    Act S (σ × Slots E) ExchangeError Buffer := do
  acquire P index (← stream P kind) [b]
  onPlatform (P.retain b)
  pure b

def close (P : Platform S σ F E) : Act S (σ × Slots E) ExchangeError Unit := do
  let events ← Act.view fun s => s.2.events
  onPlatform (destroyAll P events)

end Slots

end ExpertExchange
