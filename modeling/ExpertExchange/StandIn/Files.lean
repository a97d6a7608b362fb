import ExpertExchange.StandIn.Shell

/-!
# Files of a stand-in machine

Which libraries, toolkits and environment variables a stand-in machine has. Two directories hold
them: `$STUB` the vendor's libraries, once with all functions and once, below `empty`, with none,
and `$SDK` the toolkits, each with a script in place of the compiler driver.
-/

namespace ExpertExchange.StandIn

/-- A file that is run in place of the compiler driver. -/
structure Script where
  text : String
  executable : Bool
  deriving Repr, DecidableEq

structure Installation where
  /-- Libraries that are found by name alone; `empty:` stands before one without functions. -/
  libraries : List String
  environment : List (String × String)
  /-- Toolkits below `$SDK`, each with its compiler driver; the one without a name is `$SDK`. -/
  toolkits : List (String × Script)
  deriving Repr, DecidableEq

namespace Installation

def bare : Installation := ⟨[], [], []⟩

def vendorLibraries : List String :=
  ["libcudart.so.12", "libcudart.so.11", "libcudart.so", "libcuda.so.1", "libcuda.so",
    "libnvrtc.so.12", "libnvrtc.so.11.2", "libnvrtc.so", "libnccl.so.2", "libnccl.so"]

abbrev Path := List String

def libraryRoot : Path := ["$STUB"]

/-- Where the libraries without functions are. -/
def emptyRoot : Path := ["$STUB", "empty"]

def toolkitRoot (name : String) : Path := if name = "" then ["$SDK"] else ["$SDK", name]

def directories (i : Installation) : List Path :=
  [[], ["tmp"], ["usr"], ["usr", "lib"], libraryRoot, emptyRoot, ["$SDK"]] ++
    i.toolkits.flatMap fun t => [toolkitRoot t.1, toolkitRoot t.1 ++ ["bin"]]

def files (i : Installation) : List Path :=
  vendorLibraries.map (libraryRoot ++ [·]) ++ vendorLibraries.map (emptyRoot ++ [·]) ++
    i.toolkits.map fun t => toolkitRoot t.1 ++ ["bin", "nvcc"]

/-- Follow a path from a directory; every component but the last has to be a directory. -/
def follow (i : Installation) (place : Path) : List String → Option Path
  | [] => some place
  | name :: rest =>
    if place ∉ i.directories then none
    else if name = "" ∨ name = "." then follow i place rest
    else if name = ".." then follow i place.dropLast rest
    else follow i (place ++ [name]) rest

/-- What a path leads to. A path starts at the root or at one of the two directories. -/
def resolve (i : Installation) (path : String) : Option Path :=
  match path.splitOn "/" with
  | "" :: rest => i.follow [] rest
  | "$STUB" :: rest => i.follow libraryRoot rest
  | "$SDK" :: rest => i.follow ["$SDK"] rest
  | _ => none

def script? (i : Installation) (path : String) : Option Script := do
  let place ← i.resolve path
  let toolkit ← i.toolkits.find? fun t => toolkitRoot t.1 ++ ["bin", "nvcc"] = place
  pure toolkit.2

/-- Whether there is a file or a directory at a path. -/
def fileExists (i : Installation) (path : String) : Bool :=
  match i.resolve path with
  | some place => decide (place ∈ i.files ∨ place ∈ i.directories)
  | none => false

def libraryByName? (i : Installation) (name : String) : Option Path :=
  i.libraries.findSome? fun listed =>
    if listed = name then some (libraryRoot ++ [name])
    else if listed = "empty:" ++ name then some (emptyRoot ++ [name])
    else none

/-- What is said about a library that is not there. -/
def noLibrary (name : String) : String :=
  s!"{name}: cannot open shared object file: No such file or directory"

/-- The file of a library, asked for by name or by path; or why it cannot be opened. -/
def openLibrary (i : Installation) (name : String) : Except String Path :=
  let asked := if '/' ∈ name.toList ∨ name = "$STUB" ∨ name = "$SDK" then i.resolve name
    else i.libraryByName? name
  match asked with
  | none => .error (noLibrary name)
  | some place =>
    if place ∈ i.directories then .error s!"{name}: cannot read file data: Is a directory"
    else if place.dropLast = libraryRoot ∨ place.dropLast = emptyRoot then
      if place ∈ i.files then .ok place else .error (noLibrary name)
    else if place ∈ i.files then .error s!"{name}: file too short"
    else .error (noLibrary name)

def runCompiler (i : Installation) (path source : String) (options : List String) : CompilerRun :=
  match i.script? path with
  | none => .notStarted "No such file or directory (os error 2)"
  | some script =>
    if script.executable then Shell.runScript path script.text source options
    else .notStarted "Permission denied (os error 13)"

end Installation

end ExpertExchange.StandIn
