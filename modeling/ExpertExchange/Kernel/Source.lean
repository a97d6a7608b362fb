import ExpertExchange.Device.Geometry
import ExpertExchange.Kernel.Error
import ExpertExchange.Text.Class
import ExpertExchange.Text.Number

/-!
# Kernel sources

A kernel source holds one function marked `__global__`. Its launch geometry is declared in
comments such as `// [thread_extent] blockIdx.x = 16`; an axis without a declaration has extent
one, and of several declarations of one axis the first readable one counts.
-/

namespace ExpertExchange

/-- Blocks or threads. -/
inductive ExtentTarget where
  | blocks | threads
  deriving Repr, DecidableEq

/-- One of three axes. -/
inductive Axis where
  | x | y | z
  deriving Repr, DecidableEq

structure ExtentDeclaration where
  target : ExtentTarget
  axis : Axis
  value : Nat
  deriving Repr, DecidableEq

structure KernelSource where
  /-- The text to compile. -/
  text : String
  /-- Name of the marked function. -/
  entry : String
  geometry : Geometry
  /-- Most threads of a block. -/
  launchBound : Nat
  deriving Repr, DecidableEq

namespace KernelSource

/-- What follows `word`, if the text starts with it. -/
def after? (word : List Char) (cs : List Char) : Option (List Char) :=
  if word.isPrefixOf cs then some (cs.drop word.length) else none

/-- The text without the blanks it starts with. -/
def skipBlanks (cs : List Char) : List Char := cs.dropWhile Text.isBlank

/-- The text without the blanks it starts with, of which there has to be one. -/
def skipBlanks1? : List Char → Option (List Char)
  | [] => none
  | c :: rest => if Text.isBlank c then some (skipBlanks rest) else none

/-- A number of at least one digit, and what follows it. The digits are those of every script,
but only ASCII digits and values of 32 bits can be read. -/
def extentValue? (cs : List Char) : Option (Option Nat × List Char) :=
  let ds := cs.takeWhile Text.isDigit
  if ds = [] then none
  else some ((Text.digitsValue? ds).filter (· < Word.bound32), cs.dropWhile Text.isDigit)

/-- Blocks or threads, by the name of the index variable. -/
def target? (cs : List Char) : Option (ExtentTarget × List Char) :=
  match after? "blockIdx".toList cs with
  | some rest => some (.blocks, rest)
  | none => (after? "threadIdx".toList cs).map (.threads, ·)

def axis? : List Char → Option (Axis × List Char)
  | 'x' :: rest => some (.x, rest)
  | 'y' :: rest => some (.y, rest)
  | 'z' :: rest => some (.z, rest)
  | _ => none

/-- A declaration at the start of the text, and what follows it. A declaration whose value cannot
be read counts as none. -/
def declaration? (cs : List Char) : Option (Option ExtentDeclaration × List Char) := do
  let cs ← after? "//".toList cs
  let cs ← after? "[thread_extent]".toList (skipBlanks cs)
  let (target, cs) ← target? (skipBlanks cs)
  let cs ← after? ".".toList cs
  let (axis, cs) ← axis? cs
  let cs ← after? "=".toList (skipBlanks cs)
  let (value, cs) ← extentValue? (skipBlanks cs)
  pure (value.map (⟨target, axis, ·⟩), cs)

/-- The declarations in a text, in order, not looking inside the first `skip` characters. -/
def declarationsFrom : (skip : Nat) → List Char → List ExtentDeclaration
  | _, [] => []
  | skip + 1, _ :: rest => declarationsFrom skip rest
  | 0, c :: rest =>
    match declaration? (c :: rest) with
    | none => declarationsFrom 0 rest
    | some (d, after) => d.toList ++ declarationsFrom (rest.length - after.length) rest

def declarations (cs : List Char) : List ExtentDeclaration := declarationsFrom 0 cs

def extentOf (ds : List ExtentDeclaration) (target : ExtentTarget) (axis : Axis) : Nat :=
  match ds.find? fun d => d.target = target ∧ d.axis = axis with
  | some d => d.value
  | none => 1

def extentsOf (ds : List ExtentDeclaration) (target : ExtentTarget) : Extent :=
  ⟨extentOf ds target .x, extentOf ds target .y, extentOf ds target .z⟩

def geometryOf (cs : List Char) : Geometry :=
  ⟨extentsOf (declarations cs) .blocks, extentsOf (declarations cs) .threads⟩

def marker : List Char := "__global__".toList

def boundsAttribute : List Char := "__launch_bounds__".toList

/-- What follows each occurrence of the marker; occurrences do not overlap. The first `skip`
characters are not looked at. -/
def afterMarkersFrom : (skip : Nat) → List Char → List (List Char)
  | _, [] => []
  | skip + 1, _ :: rest => afterMarkersFrom skip rest
  | 0, c :: rest =>
    match after? marker (c :: rest) with
    | some after => after :: afterMarkersFrom (marker.length - 1) rest
    | none => afterMarkersFrom 0 rest

def isNameStart (c : Char) : Bool := c.isAlpha || c == '_'

def isNameChar (c : Char) : Bool := c.isAlphanum || c == '_'

def nameBeforeParen? : List Char → Option (List Char)
  | [] => none
  | c :: rest =>
    if isNameStart c then
      match skipBlanks (rest.dropWhile isNameChar) with
      | '(' :: _ => some (c :: rest.takeWhile isNameChar)
      | _ => none
    else none

/-- What follows a bounds attribute and the blanks after it. The attribute's argument ends at the
first closing parenthesis. -/
def afterBounds? (cs : List Char) : Option (List Char) := do
  let cs ← after? boundsAttribute cs
  let cs ← after? "(".toList (skipBlanks cs)
  let cs ← after? ")".toList (cs.dropWhile (· != ')'))
  pure (skipBlanks cs)

/-- The name of the function declared after the marker: `void`, then the name, with a bounds
attribute before it where leaving that out gives a name. -/
def entryName? (cs : List Char) : Option (List Char) := do
  let cs ← skipBlanks1? cs
  let cs ← after? "void".toList cs
  let cs ← skipBlanks1? cs
  ((afterBounds? cs).bind nameBeforeParen?).or (nameBeforeParen? cs)

/-- The number that an attribute at the start of the text gives, if it is one. -/
def boundAt? (cs : List Char) : Option (Option Nat) := do
  let cs ← after? boundsAttribute cs
  let cs ← after? "(".toList (skipBlanks cs)
  let (value, _) ← extentValue? (skipBlanks cs)
  pure value

/-- The number of the first attribute in the text that gives one. -/
def bound? : List Char → Option Nat
  | [] => none
  | c :: rest =>
    match boundAt? (c :: rest) with
    | some value => value
    | none => bound? rest

/-- The bound where the source gives none that can be read. -/
def defaultBound : Nat := 1024

def headers : String := "#include <cuda_runtime.h>\n#include <cuda_fp16.h>\n"

def parse (body : String) : Except Malformation KernelSource :=
  let cs := body.toList
  match afterMarkersFrom 0 cs with
  | [] => .error .noMarker
  | [after] =>
    match entryName? after with
    | none => .error .noName
    | some name => .ok {
        text := headers ++ body
        entry := String.ofList name
        geometry := geometryOf cs
        launchBound := (bound? cs).getD defaultBound }
  | many => .error (.markers many.length)

end KernelSource

end ExpertExchange
