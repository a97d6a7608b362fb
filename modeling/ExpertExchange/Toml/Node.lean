/-!
# Tables of a TOML document

What a document says, as a tree, and the rules by which pairs and headers build it: a key is given
once, a table is defined once, and keys in dots extend only tables that were made by keys in dots.
-/

namespace ExpertExchange.Toml

inductive Origin where
  /-- On the way to a table with a header of its own. -/
  | implicit
  /-- On the way to a pair with a key in dots. -/
  | dotted
  /-- By a header of its own. -/
  | explicit
  deriving Repr, DecidableEq

/-- A value, a table, or several tables under one header. -/
inductive Node where
  | string (s : String)
  | integer (n : Int)
  | boolean (b : Bool)
  | float
  | dateTime
  | array (items : List Node)
  /-- A table between braces, to which nothing can be added. -/
  | inlineTable (entries : List (String × Node))
  | table (origin : Origin) (entries : List (String × Node))
  /-- Tables under one header, oldest first. -/
  | tables (items : List (List (String × Node)))

abbrev Entries := List (String × Node)

abbrev Path := List String

namespace Entries

def find? (es : Entries) (key : String) : Option Node := (List.find? (·.1 == key) es).map (·.2)

def replace (es : Entries) (key : String) (node : Node) : Entries :=
  es.map fun e => if e.1 == key then (key, node) else e

def modifyLast (f : Entries → Option Entries) : List Entries → Option (List Entries)
  | [] => none
  | [es] => (f es).map fun es' => [es']
  | es :: rest => (modifyLast f rest).map (es :: ·)

/-- Add a pair. The tables on the way must have no header of their own, and the one that gets the
pair must have been made by keys in dots, unless the key has no dots. -/
def insert : Path → Node → Entries → Option Entries
  | [], _, _ => none
  | [key], value, es =>
    match es.find? key with
    | none => some (es ++ [(key, value)])
    | some _ => none
  | key :: next :: rest, value, es =>
    match es.find? key with
    | none => (insert (next :: rest) value []).map fun inner => es ++ [(key, .table .dotted inner)]
    | some (.table origin inner) =>
      if origin = .explicit ∨ (rest = [] ∧ origin ≠ .dotted) then none
      else (insert (next :: rest) value inner).map fun i => es.replace key (.table origin i)
    | some (.tables items) =>
      if rest = [] then none
      else (modifyLast (insert (next :: rest) value) items).map fun i => es.replace key (.tables i)
    | some _ => none

/-- Change the table that headers reach by a path; missing tables are made on the way. -/
def within : Path → (Entries → Option Entries) → Entries → Option Entries
  | [], f, es => f es
  | key :: rest, f, es =>
    match es.find? key with
    | none => (within rest f []).map fun inner => es ++ [(key, .table .implicit inner)]
    | some (.table origin inner) =>
      (within rest f inner).map fun i => es.replace key (.table origin i)
    | some (.tables items) =>
      (modifyLast (within rest f) items).map fun i => es.replace key (.tables i)
    | some _ => none

def insertAll (pairs : List (Path × Node)) (es : Entries) : Option Entries :=
  pairs.foldlM (fun es p => es.insert p.1 p.2) es

def define (key : String) (pairs : List (Path × Node)) (es : Entries) : Option Entries :=
  match es.find? key with
  | none => (insertAll pairs []).map fun inner => es ++ [(key, .table .explicit inner)]
  | some (.table .implicit inner) =>
    (insertAll pairs inner).map fun i => es.replace key (.table .explicit i)
  | some _ => none

def append (key : String) (pairs : List (Path × Node)) (es : Entries) : Option Entries :=
  match es.find? key with
  | none => (insertAll pairs []).map fun inner => es ++ [(key, .tables [inner])]
  | some (.tables items) =>
    (insertAll pairs []).map fun inner => es.replace key (.tables (items ++ [inner]))
  | some _ => none

end Entries

/-- A header: of a table, or of one more of several tables. -/
structure Header where
  path : Path
  repeated : Bool
  deriving Repr, DecidableEq

def Entries.addTable (h : Header) (pairs : List (Path × Node)) (es : Entries) : Option Entries :=
  match h.path.reverse with
  | [] => none
  | key :: outer =>
    es.within outer.reverse (if h.repeated then append key pairs else define key pairs)

inductive Statement where
  | pair (path : Path) (value : Node)
  | header (h : Header)

/-- The pairs up to the next header, and what follows them. -/
def leadingPairs : List Statement → List (Path × Node) × List (Header × List (Path × Node))
  | [] => ([], [])
  | .pair path value :: rest =>
    let (pairs, tables) := leadingPairs rest
    ((path, value) :: pairs, tables)
  | .header h :: rest =>
    let (pairs, tables) := leadingPairs rest
    ([], (h, pairs) :: tables)

def Entries.ofStatements (statements : List Statement) : Option Entries := do
  let (pairs, tables) := leadingPairs statements
  let root ← Entries.insertAll pairs []
  tables.foldlM (fun es t => es.addTable t.1 t.2) root

end ExpertExchange.Toml
