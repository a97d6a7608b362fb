import ExpertExchange.Group.Error

/-!
# Layout of the pipelined exchange

A fused buffer holds, for each of its slices `j`, that slice of every stage, one after the other; a
stage buffer holds all slices of one stage. Slices are dealt to the ranks in order, the same number
to each.
-/

namespace ExpertExchange

/-- Whether the stages run from the first to the last or back. -/
inductive Direction where
  | forward | backward
  deriving Repr, DecidableEq

namespace Direction

def name : Direction → String
  | .forward => "forward"
  | .backward => "backward"

def ofBackward (isBackward : Bool) : Direction := if isBackward then .backward else .forward

def stageOrder (d : Direction) (stages : Nat) : List Nat :=
  match d with
  | .forward => List.range stages
  | .backward => (List.range stages).reverse

end Direction

/-- The layout of one pipelined exchange. -/
structure Split where
  stages : Nat
  /-- Slices of one stage. -/
  slices : Nat
  worldSize : Nat
  /-- Bytes of a slice. -/
  sliceSize : Nat
  direction : Direction
  deriving Repr, DecidableEq

namespace Split

variable {ε : Type}

/-- The layout for a fused buffer of `total` bytes. A fault if there are more slices than a word
can count, or no ranks. -/
def create (total stages slices worldSize maxStages : Nat) (direction : Direction) :
    Outcome ExchangeError Split :=
  (Outcome.ensure (stages ≠ 0 ∧ stages ≤ maxStages)
    (.invalidSplit (.stageCount stages maxStages))).bind fun _ =>
  (Outcome.ensure (slices ≠ 0) (.invalidSplit (.sliceCount slices worldSize))).bind fun _ =>
  (Word.mod slices worldSize).bind fun rest =>
  (Outcome.ensure (rest = 0) (.invalidSplit (.sliceCount slices worldSize))).bind fun _ =>
  (Word.mul stages slices).bind fun all =>
  (Outcome.ensure (total % all = 0) (.invalidSplit (.unevenSlices total all))).bind fun _ =>
  .ok ⟨stages, slices, worldSize, total / all, direction⟩

def allSlices (p : Split) : Nat := p.stages * p.slices

def totalBytes (p : Split) : Nat := p.allSlices * p.sliceSize

def stageBytes (p : Split) : Nat := p.slices * p.sliceSize

def stageOrder (p : Split) : List Nat := p.direction.stageOrder p.stages

/-- The rank with which slice `j` of every stage is exchanged. -/
def peer (p : Split) (j : Nat) : Outcome ε Nat :=
  (Word.mul p.worldSize j).bind fun n => .ok (n / p.slices)

/-- Where slice `j` of a stage is in the fused buffer. -/
def fusedRange (p : Split) (j stage : Nat) : Outcome ε ByteRange :=
  (Word.mul j p.stages).bind fun before =>
  (Word.add before stage).bind fun index =>
  (Word.mul index p.sliceSize).bind fun offset =>
  ByteRange.span offset p.sliceSize

def stageRange (p : Split) (j : Nat) : Outcome ε ByteRange :=
  (Word.mul j p.sliceSize).bind fun offset => ByteRange.span offset p.sliceSize

end Split

end ExpertExchange
