import ExpertExchange.Log
import ExpertExchange.Text.Class
import ExpertExchange.Text.Number
import ExpertExchange.Word

/-!
# Log filters

A filter is a list of directives, each of which admits records of some origins up to some detail.
Of the directives that apply to a record the most specific one decides.
-/

namespace ExpertExchange

/-- Up to which detail the records of some origins are admitted; zero admits none. -/
structure LogDirective where
  /-- What the path of an origin starts with. -/
  target : List Char
  detail : Nat
  deriving Repr, DecidableEq

namespace LogDirective

def everything : Nat := LogLevel.trace.detail

/-- The detail of a level, given by its number or by its name in any case. -/
def detail? (word : String) : Option Nat :=
  match (Text.natural? Word.bound word).filter (· ≤ everything) with
  | some n => some n
  | none =>
    match word.toLower with
    | "off" => some 0
    | "error" => some LogLevel.error.detail
    | "warn" => some LogLevel.warn.detail
    | "info" => some LogLevel.info.detail
    | "debug" => some LogLevel.debug.detail
    | "trace" => some LogLevel.trace.detail
    | _ => none

/-- Whether a directive may start with a character; outside ASCII any one may. -/
def isStart (c : Char) : Bool := c.isAlphanum || c == '-' || c == ':' || c == '_' || '\x7f' < c

/-- Read a directive: a level for all origins, a target with a level, or a target alone, of which
everything is admitted. -/
def ofChars? (cs : List Char) : Option LogDirective :=
  match cs.dropWhile Text.isBlank with
  | [] => none
  | first :: _ =>
    if !isStart first || cs.contains '[' then none
    else match cs.dropWhile (· != '=') with
      | [] => match detail? (String.ofList cs) with
        | some n => some ⟨[], n⟩
        | none => some ⟨cs, everything⟩
      | _ :: level =>
        if cs.head? ≠ some first then none
        else if level.isEmpty then some ⟨cs.takeWhile (· != '='), everything⟩
        else (detail? (String.ofList level)).map (⟨cs.takeWhile (· != '='), ·⟩)

def appliesTo (d : LogDirective) (o : LogOrigin) : Bool := d.target.isPrefixOf o.path.toList

end LogDirective

abbrev LogFilter := List LogDirective

namespace LogFilter

def parts (text : String) : List (List Char) :=
  ((text.splitOn ",").map String.toList).filter (!·.isEmpty)

/-- The filter of directives; without any, errors alone are admitted. -/
def ofDirectives (ds : List LogDirective) : LogFilter :=
  if ds.isEmpty then [⟨[], LogLevel.error.detail⟩] else ds

/-- Read a list of directives, all of which have to be valid. -/
def parse? (text : String) : Option LogFilter :=
  ((parts text).mapM LogDirective.ofChars?).map ofDirectives

/-- Read a list of directives and leave out those that are not valid. -/
def parseValid (text : String) : LogFilter :=
  ofDirectives ((parts text).filterMap LogDirective.ofChars?)

/-- The filter of a process: the one it is given if that is valid, else the one of a level. -/
def choose (given : Option String) (level : String) : LogFilter :=
  (given.bind parse?).getD (parseValid level)

/-- The directive that decides about an origin: the one with the longest target, and of two with the
same target the later one. -/
def decisive? (f : LogFilter) (o : LogOrigin) : Option LogDirective :=
  f.foldl (fun best d =>
    if !d.appliesTo o then best
    else match best with
      | none => some d
      | some b => if b.target.length ≤ d.target.length then some d else best) none

def admits (f : LogFilter) (r : LogRecord) : Bool :=
  match f.decisive? r.origin with
  | some d => r.level.detail ≤ d.detail
  | none => false

end LogFilter

end ExpertExchange
