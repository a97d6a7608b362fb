import ExpertExchange.Log.Filter
import ExpertExchange.Text.Case

/-!
# Showing log records

A process shows its records in one of two formats, as far as its filter admits them. It chooses
both once; a second choice is refused.
-/

namespace ExpertExchange

/-- How records are shown: on a line for readers, or as an object for machines. -/
inductive LogFormat where
  | pretty | json
  deriving Repr, DecidableEq

def LogFormat.name : LogFormat → String
  | .pretty => "pretty"
  | .json => "json"

/-- The format that a text asks for, which is ignored unless it names one. -/
def LogFormat.ofText (text : String) : LogFormat :=
  if Text.toLower text = "json" then .json else .pretty

def LogFormat.ofVariable (value : Option String) : LogFormat := ofText (value.getD "")

/-- Which records are shown, and how. -/
structure LogView where
  filter : LogFilter
  format : LogFormat
  deriving Repr, DecidableEq

namespace LogView

/-- The view of a process with these directives in its environment; `level` counts where there are
none, or where they are not valid. -/
def create (directives level : Option String) (format : LogFormat) : LogView :=
  ⟨LogFilter.choose directives (level.getD "info"), format⟩

def shown (v : LogView) (records : List LogRecord) : List LogRecord :=
  records.filter v.filter.admits

/-- Install a view unless there is one, and say whether that was done. -/
def install (current : Option LogView) (v : LogView) : Bool × Option LogView :=
  match current with
  | none => (true, some v)
  | some _ => (false, current)

end LogView

end ExpertExchange
