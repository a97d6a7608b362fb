import ExpertExchange.Device.Buffer

/-!
# Call traces

The host platform and the simulated transport write down every operation they are given, in issue
order. The trace is what the order of streams and events is read from.
-/

namespace ExpertExchange

/-- One operation issued on the host platform or the simulated transport. -/
inductive TraceEvent where
  /-- A kernel was loaded. -/
  | compile (entry : String) (device : Nat)
  | launch (entry : String) (device : Nat) (stream : StreamKind)
  /-- The event of a slot was recorded: the stream released the slot. -/
  | eventRecord (slot : Nat) (stream : StreamKind)
  /-- The stream was made to wait for a slot: it acquired the slot. -/
  | eventWait (slot : Nat) (stream : StreamKind)
  /-- A buffer was registered as used by a stream. -/
  | recordStream (stream : StreamKind)
  | groupStart
  | groupEnd
  | send (peer : Nat) (range : ByteRange) (stream : StreamKind)
  | recv (peer : Nat) (range : ByteRange) (stream : StreamKind)
  | broadcast (root : Nat)
  | allReduce
  deriving Repr, DecidableEq

abbrev Trace := List TraceEvent

namespace Trace

def released (t : Trace) (stream : StreamKind) : List Nat :=
  t.filterMap fun
    | .eventRecord slot s => if s = stream then some slot else none
    | _ => none

def acquired (t : Trace) (stream : StreamKind) : List Nat :=
  t.filterMap fun
    | .eventWait slot s => if s = stream then some slot else none
    | _ => none

def compileCount (t : Trace) (entry : String) : Nat :=
  t.countP fun
    | .compile name _ => name == entry
    | _ => false

end Trace

def TraceEvent.text : TraceEvent → String
  | .compile entry device => s!"compile {entry} device={device}"
  | .launch entry device stream => s!"launch {entry} device={device} {stream.name}"
  | .eventRecord slot stream => s!"event_record slot={slot} {stream.name}"
  | .eventWait slot stream => s!"event_wait slot={slot} {stream.name}"
  | .recordStream stream => s!"record_stream {stream.name}"
  | .groupStart => "group_start"
  | .groupEnd => "group_end"
  | .send peer range stream => s!"send peer={peer} {range.text} {stream.name}"
  | .recv peer range stream => s!"recv peer={peer} {range.text} {stream.name}"
  | .broadcast root => s!"broadcast root={root}"
  | .allReduce => "all_reduce"

end ExpertExchange
