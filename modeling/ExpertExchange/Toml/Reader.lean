import ExpertExchange.Toml.Scalar

/-!
# Reading TOML documents

Keys, values and statements, from the characters of a document to its tree. Every reader takes what
it needs from the front and returns the rest.
-/

namespace ExpertExchange.Toml

namespace Reader

/-- The characters after the blanks at the start. -/
def skipBlanks (cs : List Char) : List Char := cs.dropWhile fun c => c == ' ' || c == '\t'

/-- The characters after the end of the line, before which there may be blanks and a comment. -/
def endLine? (cs : List Char) : Option (List Char) :=
  let cs := skipBlanks cs
  let cs := match cs with
    | '#' :: rest => rest.dropWhile isPlain
    | cs => cs
  match cs with
  | [] => some []
  | '\n' :: rest => some rest
  | '\r' :: '\n' :: rest => some rest
  | _ => none

/-- The characters after blanks, line ends and comments, each of which ends with its line. -/
def skipLines : (inComment : Bool) → List Char → Option (List Char)
  | _, '\n' :: rest => skipLines false rest
  | _, '\r' :: '\n' :: rest => skipLines false rest
  | true, c :: rest => if isPlain c then skipLines true rest else none
  | true, [] => none
  | false, '#' :: rest => skipLines true rest
  | false, c :: rest => if c = ' ' ∨ c = '\t' then skipLines false rest else some (c :: rest)
  | false, [] => some []

/-- A character of a key without quotes. -/
def isKeyChar (c : Char) : Bool := c.isAlphanum || c == '_' || c == '-'

def keyPart? (cs : List Char) : Option (String × List Char) :=
  match cs with
  | '"' :: _ | '\'' :: _ => Text.short? cs
  | cs =>
    match cs.takeWhile isKeyChar with
    | [] => none
    | name => some (String.ofList name, cs.dropWhile isKeyChar)

/-- Nothing is nested deeper than this, keys in dots included. -/
def nestingLimit : Nat := 79

/-- A key of up to `limit` parts, and blanks around them. -/
def key? : (limit : Nat) → List Char → Option (Path × List Char)
  | 0, _ => none
  | limit + 1, cs => do
    let (part, rest) ← keyPart? (skipBlanks cs)
    match skipBlanks rest with
    | '.' :: rest => do
      let (path, rest) ← key? limit rest
      pure (part :: path, rest)
    | rest => pure ([part], rest)

def pair? (value : List Char → Option (Node × List Char)) (cs : List Char) :
    Option ((Path × Node) × List Char) := do
  let (path, rest) ← key? nestingLimit cs
  let rest ← Scalar.after? '=' rest
  let (node, rest) ← value (skipBlanks rest)
  pure ((path, node), rest)

/-- The items of an array, up to its end. -/
def items? (value : List Char → Option (Node × List Char)) (cs : List Char) :
    Option (List Node × List Char) := do
  match (← skipLines false cs) with
  | ']' :: rest => pure ([], rest)
  | cs' =>
    let (node, rest) ← value cs'
    match (← skipLines false rest) with
    | ']' :: rest => pure ([node], rest)
    | ',' :: rest =>
      if rest.length < cs.length then do
        let (nodes, rest) ← items? value rest
        pure (node :: nodes, rest)
      else none
    | _ => none
termination_by cs.length

/-- The pairs of an inline table after its first one, up to its end. -/
def morePairs? (value : List Char → Option (Node × List Char)) (cs : List Char) :
    Option (List (Path × Node) × List Char) := do
  let (first, rest) ← pair? value cs
  match skipBlanks rest with
  | '}' :: rest => pure ([first], rest)
  | ',' :: rest =>
    if rest.length < cs.length then do
      let (others, rest) ← morePairs? value rest
      pure (first :: others, rest)
    else none
  | _ => none
termination_by cs.length

/-- The pairs of an inline table, up to its end. -/
def pairs? (value : List Char → Option (Node × List Char)) (cs : List Char) :
    Option (List (Path × Node) × List Char) :=
  match skipBlanks cs with
  | '}' :: rest => some ([], rest)
  | _ => morePairs? value cs

def value? : (depth : Nat) → List Char → Option (Node × List Char)
  | depth + 1, '[' :: rest => do
    let (nodes, rest) ← items? (value? depth) rest
    pure (.array nodes, rest)
  | depth + 1, '{' :: rest => do
    let (pairs, rest) ← pairs? (value? depth) rest
    let entries ← Entries.insertAll pairs []
    pure (.inlineTable entries, rest)
  | _, cs =>
    match cs with
    | '"' :: _ | '\'' :: _ => (Text.read? cs).map fun r => (.string r.1, r.2)
    | _ => Scalar.read? cs

/-- The key of a header, up to the brackets that end it. -/
def header? (repeated : Bool) (cs : List Char) : Option (Statement × List Char) := do
  let (path, rest) ← key? nestingLimit cs
  let rest ← Scalar.after? ']' rest
  let rest ← if repeated then Scalar.after? ']' rest else some rest
  pure (.header ⟨path, repeated⟩, rest)

def statement? : List Char → Option (Statement × List Char)
  | '[' :: '[' :: rest => header? true rest
  | '[' :: rest => header? false rest
  | cs => do
    let (pair, rest) ← pair? (value? nestingLimit) cs
    pure (.pair pair.1 pair.2, rest)

def line? (cs : List Char) : Option (Option Statement × List Char) :=
  match endLine? cs with
  | some rest => some (none, rest)
  | none => do
    let (statement, rest) ← statement? (skipBlanks cs)
    let rest ← endLine? rest
    pure (some statement, rest)

def statements? (cs : List Char) : Option (List Statement) :=
  match cs with
  | [] => some []
  | cs => do
    let (statement, rest) ← line? cs
    if rest.length < cs.length then do
      let others ← statements? rest
      pure (statement.toList ++ others)
    else none
termination_by cs.length

def byteOrderMark : Char := Char.ofNat 0xfeff

/-- The document without the mark at its start. -/
def dropMark : List Char → List Char
  | c :: rest => if c = byteOrderMark then rest else c :: rest
  | [] => []

end Reader

/-- The tree of a document. -/
def parse? (text : String) : Option Entries :=
  (Reader.statements? (Reader.dropMark text.toList)).bind Entries.ofStatements

end ExpertExchange.Toml
