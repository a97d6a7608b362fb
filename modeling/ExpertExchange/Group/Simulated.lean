import ExpertExchange.Device.Tensor
import ExpertExchange.Group.Network
import ExpertExchange.Group.Transport
import ExpertExchange.Host.Platform

/-!
# The simulated transport

Transfers between host buffers of participants of one process. Inside a round nothing moves; the
end of the round posts all its sends and serves its receives after that, so that no order within
rounds can make the participants wait for each other in a circle.
-/

namespace ExpertExchange

inductive TransferKind where
  | send | recv
  deriving Repr, DecidableEq

/-- A transfer that waits for the end of its round. -/
structure Transfer where
  kind : TransferKind
  buffer : Buffer
  range : ByteRange
  peer : Nat
  deriving Repr, DecidableEq

/-- The link of one participant: its group, and the round under way. -/
structure SimulatedLink where
  group : Bytes
  worldSize : Nat
  rank : Nat
  device : Nat
  /-- How long a receive waits, in milliseconds. -/
  patience : Nat
  /-- Number of rounds opened and not closed. -/
  depth : Nat
  pending : List Transfer
  deriving Repr, DecidableEq

namespace SimulatedLink

variable [TensorLibrary]

abbrev LinkAct (α : Type) := Act Net (HostState × SimulatedLink) ExchangeError α

def link : LinkAct SimulatedLink := Act.view (·.2)

def note (e : TraceEvent) : LinkAct Unit := Act.modify fun s => (s.1.note e, s.2)

def onHeap {α : Type} (m : Act Net Heap DeviceError α) : LinkAct α :=
  (m.mapError .device).within (Part.first.inside HostState.memory)

/-- The peer has to be a rank of the group. -/
def checkPeer (peer : Nat) : LinkAct Unit := do
  let l ← link
  Act.ensure (peer < l.worldSize) (.invalidRank peer l.worldSize)

def checkRange (b : Buffer) (range : ByteRange) : LinkAct Unit := do
  let size ← Act.ofOutcome b.byteCount
  Act.ensure (range.Within size) (.transport (.outside range size))

/-- A part of some bytes is addressed by its range. A fault if it is not there. -/
def checkBounds (content : Bytes) (range : ByteRange) : LinkAct Unit :=
  Act.ofOutcome (.ensureOrFault (range.Within content.length) none)

def postBytes (payload : Bytes) (peer : Nat) : LinkAct Unit := do
  let l ← link
  Act.request (S := Net) (.post l.group ⟨l.rank, peer, payload⟩)

def post (b : Buffer) (range : ByteRange) (peer : Nat) : LinkAct Unit := do
  let content ← onHeap (Heap.bytes b)
  checkBounds content range
  postBytes (content.slice range) peer

def take (peer : Nat) : LinkAct Bytes := do
  let l ← link
  let received : Option Bytes ← Act.request (S := Net) (.take l.group peer l.rank)
  match received with
  | some payload => pure payload
  | none => Act.fail (.transport (.silence l.rank peer l.patience))

/-- Wait for the next message of a rank and put it into a part of a buffer. -/
def deliver (b : Buffer) (range : ByteRange) (peer : Nat) : LinkAct Unit := do
  let payload ← take peer
  let l ← link
  Act.ensure (payload.length = range.length)
    (.transport (.wrongLength l.rank range.length peer payload.length))
  let content ← onHeap (Heap.bytes b)
  checkBounds content range
  onHeap (Heap.setBytes b (content.overwrite range.start payload))

def perform (t : Transfer) : LinkAct Unit :=
  match t.kind with
  | .send => post t.buffer t.range t.peer
  | .recv => deliver t.buffer t.range t.peer

/-- Put a transfer into the open round, or perform it at once. -/
def issue (t : Transfer) : LinkAct Unit := do
  let l ← link
  if 0 < l.depth then Act.modify fun s => (s.1, { s.2 with pending := s.2.pending ++ [t] })
  else perform t

def groupStart : LinkAct Unit := do
  Act.modify fun s => (s.1, { s.2 with depth := s.2.depth + 1 })
  note .groupStart

/-- The transfers of a round in the order in which they are performed. -/
def roundOrder (ts : List Transfer) : List Transfer :=
  ts.filter (·.kind = .send) ++ ts.filter (·.kind = .recv)

def groupEnd : LinkAct Unit := do
  let l ← link
  match l.depth with
  | 0 => Act.fail (.transport .noOpenRound)
  | 1 => do
    Act.modify fun s => (s.1, { s.2 with depth := 0, pending := [] })
    note .groupEnd
    Act.forEach (roundOrder l.pending) perform
  | depth + 1 => do
    Act.modify fun s => (s.1, { s.2 with depth := depth })
    note .groupEnd

def send (b : Buffer) (range : ByteRange) (peer : Nat) (stream : Stream) : LinkAct Unit := do
  checkPeer peer
  checkRange b range
  note (.send peer range stream.kind)
  issue ⟨.send, b, range, peer⟩

def recv (b : Buffer) (range : ByteRange) (peer : Nat) (stream : Stream) : LinkAct Unit := do
  checkPeer peer
  checkRange b range
  note (.recv peer range stream.kind)
  issue ⟨.recv, b, range, peer⟩

def others (worldSize rank : Nat) : List Nat := (List.range worldSize).filter (· ≠ rank)

/-- Send the whole buffer from the root to everyone else. -/
def broadcast (b : Buffer) (root : Nat) : LinkAct Unit := do
  checkPeer root
  note (.broadcast root)
  let size ← Act.ofOutcome b.byteCount
  let l ← link
  if l.rank = root then Act.forEach (others l.worldSize root) (post b ⟨0, size⟩)
  else deliver b ⟨0, size⟩ root

def contribution (b : Buffer) (own : Bytes) (peer : Nat) : LinkAct Tensor := do
  let l ← link
  let payload ← if peer = l.rank then pure own else take peer
  Act.ofOutcome ((Tensor.ofBytes b.dtype b.shape payload).mapError .device)

/-- Add the contributions of some ranks to a sum, in order. -/
def addContributions (b : Buffer) (own : Bytes) : List Nat → Tensor → LinkAct Tensor
  | [], sum => pure sum
  | peer :: rest, sum =>
    Act.bind (contribution b own peer) fun part =>
    Act.bind (Act.ofOutcome ((TensorLibrary.add sum part).mapError .tensor)) fun sum' =>
    addContributions b own rest sum'

/-- Sum over all ranks, in rank order, so that every rank gets the same sum. -/
def allReduce (b : Buffer) : LinkAct Unit := do
  note .allReduce
  let own ← onHeap (Heap.bytes b)
  let l ← link
  Act.forEach (others l.worldSize l.rank) (postBytes own)
  match List.range l.worldSize with
  | [] => pure ()
  | first :: rest => do
    let part ← contribution b own first
    let sum ← addContributions b own rest part
    let content ← Act.ofOutcome (sum.bytes.mapError .device)
    onHeap (Heap.setBytes b content)

def transport : Transport Net HostState SimulatedLink where
  rank l := l.rank
  worldSize l := l.worldSize
  device l := l.device
  groupStart := groupStart
  groupEnd := groupEnd
  send := send
  recv := recv
  broadcast b root _ := broadcast b root
  allReduce b _ := allReduce b
  close := pure ()

def log (level : LogLevel) (message : String) (fields : List (String × LogValue)) :
    Act Net HostState ExchangeError Unit :=
  Act.modify (·.report ⟨level, .network, message, fields⟩)

def connect (patience : Nat) (id : Bytes) (worldSize rank device timeout : Nat) :
    Act Net HostState ExchangeError SimulatedLink := do
  Act.ensure (rank < worldSize) (.invalidRank rank worldSize)
  let answer : JoinAnswer ← Act.request (S := Net) (.join id worldSize)
  match answer with
  | .tooLarge => Act.fault none
  | .otherSize formed => Act.fail (.rendezvous (.otherSize formed worldSize))
  | .joined =>
    let complete : Bool ← Act.request (S := Net) (.await id)
    if complete then
      log .debug "simulated transport connected"
        [("rank", .number rank), ("world_size", .number worldSize), ("device", .number device)]
      pure ⟨id, worldSize, rank, device, patience, 0, []⟩
    else
      log .warn "simulated rendezvous timed out"
        [("rank", .number rank), ("world_size", .number worldSize),
          ("timeout", .shown (Text.milliseconds timeout))]
      Act.fail (.rendezvousTimeout (reportedTimeout timeout))

/-- The simulated network as a collective library; a receive waits for `patience` milliseconds. -/
def backend (patience : Nat) : Backend Net HostState SimulatedLink where
  name := "sim"
  transport := transport
  freshId := Act.request (S := Net) .freshId
  connect := connect patience

end SimulatedLink

end ExpertExchange
