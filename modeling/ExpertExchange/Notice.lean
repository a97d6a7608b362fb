import ExpertExchange.Text.Case
import ExpertExchange.Text.Class

/-!
# Notices of fallbacks

Falling back to a second choice (another compiler, a flat exchange) is worth a record, but not
necessarily each time. A policy decides; one gate per kind of fallback applies it.
-/

namespace ExpertExchange

/-- How often a fallback is recorded. -/
inductive NoticePolicy where
  | silent | once | always
  deriving Repr, DecidableEq

namespace NoticePolicy

def name : NoticePolicy → String
  | .silent => "silent"
  | .once => "once"
  | .always => "always"

def ofName? : String → Option NoticePolicy
  | "silent" => some .silent
  | "once" => some .once
  | "always" => some .always
  | _ => none

/-- Read a policy, ignoring case and blanks around it; `off` is another name for silence. What is
not a policy is returned in the form it was compared in. -/
def parse (s : String) : Except String NoticePolicy :=
  let word := Text.toLower (Text.trim s)
  if word = "off" then .ok .silent
  else match ofName? word with
    | some p => .ok p
    | none => .error word

/-- What is said about a word that is no policy. -/
def unknownMessage (word : String) : String := "unknown fallback log mode \x60" ++ word ++ "\x60"

end NoticePolicy

/-- A gate for the records of one kind of fallback. -/
structure Notice where
  policy : NoticePolicy
  fired : Bool
  deriving Repr, DecidableEq

namespace Notice

/-- A gate that has let nothing through yet. -/
def ofPolicy (p : NoticePolicy) : Notice := ⟨p, false⟩

/-- Whether the fallback at hand is recorded, and the gate after it. -/
def fire (n : Notice) : Bool × Notice :=
  match n.policy with
  | .silent => (false, n)
  | .always => (true, n)
  | .once => (!n.fired, { n with fired := true })

/-- Which of so many fallbacks in a row are recorded. -/
def fires (n : Notice) : (count : Nat) → List Bool
  | 0 => []
  | count + 1 => n.fire.1 :: fires n.fire.2 count

end Notice

end ExpertExchange
