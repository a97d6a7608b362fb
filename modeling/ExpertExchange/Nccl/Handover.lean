import ExpertExchange.Outcome

/-!
# Handing over a late result

A call that may take long runs on a thread of its own, so that the caller can give up. The result
goes through a channel of one place. A caller that has given up drops the channel, with whatever is
in it; a result that is sent after that goes back to the thread, which drops it. A thread that
breaks down sends nothing, and the caller sees that. `Step` is any order of the events; `play` is
the order in which the result comes in time, or the one in which it does not.
-/

namespace ExpertExchange

variable {ε α : Type}

inductive CallerState (ε α : Type) where
  | waiting
  /-- The result was received in time. -/
  | received (result : Outcome ε α)
  /-- The thread has ended without sending a result. -/
  | disconnected
  /-- The time is up, and the channel is about to be dropped. -/
  | givenUp
  | gone
  deriving Repr

/-- Where the thread is. -/
inductive MakerState (ε α : Type) where
  | working
  | made (result : Outcome ε α)
  | finished
  deriving Repr

/-- The caller, the thread, the channel, and the values that were dropped. -/
structure Handover (ε α : Type) where
  caller : CallerState ε α
  maker : MakerState ε α
  channel : Option (Outcome ε α)
  dropped : List α

namespace Handover

def start : Handover ε α := ⟨.waiting, .working, none, []⟩

/-- The value of a result, if it has one, has to be dropped. -/
def dropResult (h : Handover ε α) (result : Outcome ε α) : Handover ε α :=
  { h with dropped := h.dropped ++ result.toOption.toList }

/-- Something that happens to the caller or to the thread. -/
inductive Event (ε α : Type) where
  /-- The thread has a result. -/
  | make (result : Outcome ε α)
  /-- The thread sends its result, or ends without one. -/
  | send
  /-- The caller takes the result from the channel, or sees that none will come. -/
  | receive
  /-- The caller's time is up. -/
  | giveUp
  /-- The caller drops the channel. -/
  | dropChannel
  deriving Repr

/-- The state after an event, if it can happen. -/
def next? (h : Handover ε α) : Event ε α → Option (Handover ε α)
  | .make result =>
    match h.maker with
    | .working => some { h with maker := .made result }
    | _ => none
  | .send =>
    match h.maker, h.caller with
    | .made (.fault _), _ => some { h with maker := .finished }
    | .made result, .gone => some ({ h with maker := .finished }.dropResult result)
    | .made result, _ => some { h with maker := .finished, channel := some result }
    | _, _ => none
  | .receive =>
    match h.caller, h.channel, h.maker with
    | .waiting, some result, _ => some { h with caller := .received result, channel := none }
    | .waiting, none, .finished => some { h with caller := .disconnected }
    | _, _, _ => none
  | .giveUp =>
    match h.caller with
    | .waiting => some { h with caller := .givenUp }
    | _ => none
  | .dropChannel =>
    match h.caller, h.channel with
    | .givenUp, some result => some ({ h with caller := .gone, channel := none }.dropResult result)
    | .givenUp, none => some { h with caller := .gone }
    | _, _ => none

/-- One event. -/
def Step (h h' : Handover ε α) : Prop := ∃ e, h.next? e = some h'

/-- Events in order; an event that cannot happen is left out. -/
def after (h : Handover ε α) (events : List (Event ε α)) : Handover ε α :=
  events.foldl (fun h e => (h.next? e).getD h) h

/-- The order of events for a result that comes in time, or too late. -/
def schedule (late : Bool) (result : Outcome ε α) : List (Event ε α) :=
  if late then [.giveUp, .dropChannel, .make result, .send] else [.make result, .send, .receive]

def play (late : Bool) (result : Outcome ε α) : Handover ε α := start.after (schedule late result)

end Handover

end ExpertExchange
