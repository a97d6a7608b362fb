import ExpertExchange.Settings.File

/-!
# Revising settings

Settings that are replaced, merged and saved again and again. A source that cannot be read changes
nothing.
-/

namespace ExpertExchange

/-- A change of the settings at hand, or a look at what would be saved. -/
inductive Revision where
  | environment (env : Settings.Environment)
  | file (f : SettingsFile)
  | resolved (f : Option SettingsFile) (env : Settings.Environment)
  | replaced (s : Settings)
  | merged (s : Settings)
  | saved

inductive RevisionReply where
  | settings (s : Settings)
  /-- The text of the file, and whether loading it gives the same settings. -/
  | file (text : String) (same : Bool)
  deriving Repr, DecidableEq

namespace Revision

def run (current : Settings) (r : Revision) :
    Except SettingsError RevisionReply × Settings :=
  let change : Except SettingsError Settings → Except SettingsError RevisionReply × Settings
    | .ok s => (.ok (.settings s), s)
    | .error e => (.error e, current)
  match r with
  | .environment env => change (Settings.ofEnvironment env)
  | .file f => change (Settings.load f)
  | .resolved f env => change (Settings.resolve f env)
  | .replaced s => change (.ok s)
  | .merged s => change (.ok (current.merge s))
  | .saved =>
    (current.save.map fun text =>
      .file text ((Settings.load (.text text)).toOption == some current), current)

def runAll (current : Settings) : List Revision → List (Except SettingsError RevisionReply)
  | [] => []
  | r :: rest =>
    let (answer, next) := r.run current
    answer :: runAll next rest

end Revision

end ExpertExchange
