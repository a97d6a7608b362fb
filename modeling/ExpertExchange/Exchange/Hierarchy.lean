import ExpertExchange.Group.Error
import ExpertExchange.Group.Topology

/-!
# Layout of the two-level exchange

A buffer holds one chunk per rank. A first round within each node brings the chunks to the device
number they are meant for; a second round between the devices of one number brings them to their
node. Before each round the chunks are regrouped, so that each round moves whole blocks.
-/

namespace ExpertExchange

/-- The layout of one two-level exchange. -/
structure Hierarchy where
  nodes : Nat
  localSize : Nat
  nodeRank : Nat
  localRank : Nat
  /-- Bytes of a chunk. -/
  sliceSize : Nat
  deriving Repr, DecidableEq

namespace Hierarchy

variable {ε : Type}

/-- The layout for a buffer of `total` bytes. -/
def create (total : Nat) (place : Topology) : Outcome ExchangeError Hierarchy :=
  (Outcome.ensure (total % place.worldSize = 0)
    (.invalidSplit (.unevenRanks total place.worldSize))).bind fun _ =>
  (Outcome.ensure (place.worldSize % place.localSize = 0)
    (.invalidSplit (.unevenNodes place.worldSize place.localSize))).bind fun _ =>
  .ok ⟨place.nodes, place.localSize, place.nodeRank, place.localRank, total / place.worldSize⟩

def worldSize (h : Hierarchy) : Nat := h.nodes * h.localSize

/-- Whether one of the two levels has a single member, so that one round does it all. -/
def isFlat (h : Hierarchy) : Bool := h.nodes == 1 || h.localSize == 1

/-- The rank with which block `g` is exchanged within the node. -/
def intraPeer (h : Hierarchy) (g : Nat) : Outcome ε Nat :=
  (Word.mul h.nodeRank h.localSize).bind fun base => Word.add base g

/-- The rank with which block `n` is exchanged between nodes. -/
def interPeer (h : Hierarchy) (n : Nat) : Outcome ε Nat :=
  (Word.mul n h.localSize).bind fun base => Word.add base h.localRank

/-- Block `index` of blocks of `count` chunks. -/
def block (h : Hierarchy) (count index : Nat) : Outcome ε ByteRange :=
  (Word.mul count h.sliceSize).bind fun len =>
  (Word.mul index len).bind fun offset => ByteRange.span offset len

def intraBlock (h : Hierarchy) (g : Nat) : Outcome ε ByteRange := h.block h.nodes g

def interBlock (h : Hierarchy) (n : Nat) : Outcome ε ByteRange := h.block h.localSize n

end Hierarchy

end ExpertExchange
