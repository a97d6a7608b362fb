import ExpertExchange.Word

/-!
# Topology

Participants of a group are numbered by rank, node by node, with the same number of devices on
every node.
-/

namespace ExpertExchange

/-- The place of one participant in its group. -/
structure Topology where
  worldSize : Nat
  rank : Nat
  /-- Devices per node. -/
  localSize : Nat
  /-- Rank within the node. -/
  localRank : Nat
  deriving Repr, DecidableEq

namespace Topology

variable {ε : Type}

/-- The place of a rank. A fault unless the rank is one of the group's and nodes have devices. -/
def create (worldSize rank localSize : Nat) : Outcome ε Topology :=
  (Outcome.ensureOrFault (0 < worldSize) (some "world_size must be > 0")).bind fun _ =>
  (Outcome.ensureOrFault (rank < worldSize)
    (some s!"world_rank {rank} must be < world_size {worldSize}")).bind fun _ =>
  (Outcome.ensureOrFault (0 < localSize) (some "local_size must be > 0")).bind fun _ =>
  .ok ⟨worldSize, rank, localSize, rank % localSize⟩

def nodes (t : Topology) : Nat := t.worldSize / t.localSize

def nodeRank (t : Topology) : Nat := t.rank / t.localSize

end Topology

end ExpertExchange
