import ExpertExchange.Word

/-!
# Launch geometry

A kernel runs on a grid of blocks of threads, each with three extents. Extents are words of 32
bits.
-/

namespace ExpertExchange

/-- Extents along three axes. -/
structure Extent where
  x : Nat
  y : Nat
  z : Nat
  deriving Repr, DecidableEq

namespace Extent

def one : Extent := ⟨1, 1, 1⟩

/-- An extent along the first axis only. -/
def ofWidth (x : Nat) : Extent := ⟨x, 1, 1⟩

/-- Up to three extents; axes that are not given have extent one. -/
def ofList (es : List Nat) : Extent := ⟨es[0]?.getD 1, es[1]?.getD 1, es[2]?.getD 1⟩

/-- Number of cells. A fault if it is not a word. -/
def volume {ε : Type} (e : Extent) : Outcome ε Nat :=
  (Word.mul e.x e.y).bind fun xy => Word.mul xy e.z

def text (e : Extent) : String :=
  "Dim3 \x7b x: " ++ toString e.x ++ ", y: " ++ toString e.y ++ ", z: " ++ toString e.z ++ " \x7d"

end Extent

structure Geometry where
  blocks : Extent
  threads : Extent
  deriving Repr, DecidableEq

def Geometry.unit : Geometry := ⟨.one, .one⟩

/-- A geometry given at a launch; a component left out is taken from the kernel's source. -/
structure GeometryOverride where
  blocks : Option Extent
  threads : Option Extent
  deriving Repr, DecidableEq

namespace GeometryOverride

/-- No component is given. -/
def none : GeometryOverride := ⟨.none, .none⟩

/-- Only the blocks are given. -/
def ofBlocks (es : List Nat) : GeometryOverride := ⟨some (.ofList es), .none⟩

def withThreads (o : GeometryOverride) (es : List Nat) : GeometryOverride :=
  { o with threads := some (.ofList es) }

def resolve (o : GeometryOverride) (declared : Geometry) : Geometry :=
  ⟨o.blocks.getD declared.blocks, o.threads.getD declared.threads⟩

end GeometryOverride

end ExpertExchange
