import ExpertExchange.Toml.Node
import ExpertExchange.Toml.Text
import ExpertExchange.Word

/-!
# Writing TOML documents

Documents of a single table of strings, integers and truth values, one pair a line.

A string is written in the plainest form that suits it: a form that needs no escapes if there is
one, on one line if possible, between quotation marks rather than apostrophes. Only if no form can
do without them are escapes used.
-/

namespace ExpertExchange.Toml

inductive Form where
  | basic | literal | longBasic | longLiteral
  deriving Repr, DecidableEq

namespace Form

/-- Whether the text may go over several lines. -/
def isLong : Form → Bool
  | .basic | .literal => false
  | .longBasic | .longLiteral => true

/-- The marks before and after the text. -/
def delimiter : Form → List Char
  | .basic => ['"']
  | .literal => ['\'']
  | .longBasic => ['"', '"', '"']
  | .longLiteral => ['\'', '\'', '\'']

/-- Whether no `limit + 1` of these marks follow each other, given how many came just before. -/
def runsWithin (mark : Char) (limit : Nat) : (run : Nat) → List Char → Bool
  | run, [] => run ≤ limit
  | run, c :: rest =>
    if c = mark then runsWithin mark limit (run + 1) rest
    else run ≤ limit && runsWithin mark limit 0 rest

/-- Whether a text can stand in the form without escapes. -/
def suits (f : Form) (cs : List Char) : Bool :=
  match f with
  | .basic => cs.all fun c => isPlain c && c != '\\' && c != '"'
  | .literal => cs.all fun c => isPlain c && c != '\''
  | .longBasic =>
    cs.all (fun c => (isPlain c || c == '\n') && c != '\\') && runsWithin '"' 2 0 cs
  | .longLiteral => cs.all (fun c => isPlain c || c == '\n') && runsWithin '\'' 2 0 cs

def choose (cs : List Char) : Form :=
  match [basic, literal, longBasic, longLiteral].find? (·.suits cs) with
  | some f => f
  | none => if cs.contains '\n' then .longBasic else .basic

def hexDigit (n : Nat) : Char := Char.ofNat (if n < 10 then '0'.toNat + n else 'A'.toNat - 10 + n)

/-- The escape of a character that cannot stand for itself; marks and line ends have rules of their
own. -/
def escape? (c : Char) : Option (List Char) :=
  if c = '\x08' then some ['\\', 'b']
  else if c = '\t' then some ['\\', 't']
  else if c = '\x0c' then some ['\\', 'f']
  else if c = '\r' then some ['\\', 'r']
  else if c = '\\' then some ['\\', '\\']
  else if c < ' ' ∨ c = '\x7f' then
    some ['\\', 'u', '0', '0', hexDigit (c.toNat / 16), hexDigit (c.toNat % 16)]
  else none

/-- The text with escapes, given how many quotation marks stand just before it. In a long form only
every third mark in a row is escaped. -/
def escaped (long : Bool) : (run : Nat) → List Char → List Char
  | _, [] => []
  | run, c :: rest =>
    if c = '"' then
      if long && run < 2 then '"' :: escaped long (run + 1) rest
      else '\\' :: '"' :: escaped long 0 rest
    else if c = '\n' then
      if long then '\n' :: escaped long 0 rest else '\\' :: 'n' :: escaped long 0 rest
    else (escape? c).getD [c] ++ escaped long 0 rest

def body (f : Form) (cs : List Char) : List Char :=
  match f with
  | .basic | .longBasic => escaped f.isLong 0 cs
  | .literal | .longLiteral => cs

/-- The text with its marks. A long form with several lines starts on a line of its own. -/
def write (f : Form) (cs : List Char) : List Char :=
  f.delimiter ++ (if f.isLong && cs.contains '\n' then ['\n'] else []) ++ f.body cs ++ f.delimiter

end Form

def writeString (s : String) : List Char := (Form.choose s.toList).write s.toList

/-- The written form of a string, an integer of 64 bits, or a truth value. -/
def Node.write? : Node → Option (List Char)
  | .string s => some (writeString s)
  | .integer n =>
    if -(Word.signedBound : Int) ≤ n ∧ n < Word.signedBound then some (toString n).toList else none
  | .boolean b => some (toString b).toList
  | _ => none

def writePair? (key : String) (node : Node) : Option (List Char) :=
  node.write?.map fun value => key.toList ++ [' ', '=', ' '] ++ value ++ ['\n']

/-- The lines of pairs whose keys need no quotes. -/
def writeLines? : Entries → Option (List Char)
  | [] => some []
  | (key, node) :: rest => do
    let line ← writePair? key node
    let lines ← writeLines? rest
    pure (line ++ lines)

def write? (es : Entries) : Option String := (writeLines? es).map String.ofList

end ExpertExchange.Toml
