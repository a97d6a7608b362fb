import ExpertExchange.Settings.Basic
import ExpertExchange.Toml.Reader
import ExpertExchange.Toml.Writer

/-!
# Settings files

A settings file is a TOML document with a pair for each setting that is given; other keys have no
meaning. Settings from a file yield to those from the environment.
-/

namespace ExpertExchange

inductive SettingsFile where
  | missing
  | text (content : String)
  deriving Repr, DecidableEq

namespace Settings

open Toml (Node Entries)

def natural? (bound : Nat) : Node → Option Nat
  | .integer n => if 0 ≤ n ∧ n < bound then some n.toNat else .none
  | _ => .none

def flag? : Node → Option Bool
  | .boolean b => some b
  | _ => .none

def text? : Node → Option String
  | .string s => some s
  | _ => .none

/-- Whether a node holds nothing. -/
def isVoid : Node → Bool
  | .array [] | .inlineTable [] | .table _ [] => true
  | _ => false

/-- A policy: its name, or a table with nothing but an empty entry of that name. -/
def policy? : Node → Option NoticePolicy
  | .string name => NoticePolicy.ofName? name
  | .inlineTable [(name, node)] | .table _ [(name, node)] =>
    if isVoid node then NoticePolicy.ofName? name else .none
  | _ => .none

/-- The setting of a key, which may be absent but not of another kind. -/
def entry? {α : Type} (es : Entries) (key : String) (read : Node → Option α) :
    Option (Option α) :=
  match es.find? key with
  | .none => some .none
  | some node => (read node).map some

def ofEntries? (es : Entries) : Option Settings := do
  let localSize ← entry? es "local_size" (natural? Word.bound)
  let useNvrtc ← entry? es "use_nvrtc" flag?
  let sdkHome ← entry? es "sdk_home" text?
  let maxNumSplit ← entry? es "max_num_split" (natural? Word.bound)
  let timeout ← entry? es "rendezvous_timeout_secs" (natural? Word.bound)
  let fallbackLog ← entry? es "fallback_log" policy?
  let masterAddr ← entry? es "master_addr" text?
  let masterPort ← entry? es "master_port" (natural? Word.portBound)
  pure ⟨localSize, useNvrtc, sdkHome, maxNumSplit, timeout, fallbackLog, masterAddr, masterPort⟩

/-- The pair of a setting, if it is given. -/
def pair {α : Type} (key : String) (node : α → Node) (value : Option α) : Entries :=
  (value.map fun a => (key, node a)).toList

def toEntries (s : Settings) : Entries :=
  pair "local_size" (fun n => .integer n) s.localSize ++
  pair "use_nvrtc" .boolean s.useNvrtc ++
  pair "sdk_home" .string s.sdkHome ++
  pair "max_num_split" (fun n => .integer n) s.maxNumSplit ++
  pair "rendezvous_timeout_secs" (fun n => .integer n) s.rendezvousTimeoutSecs ++
  pair "fallback_log" (fun p => .string p.name) s.fallbackLog ++
  pair "master_addr" .string s.masterAddr ++
  pair "master_port" (fun n => .integer n) s.masterPort

def load : SettingsFile → Except SettingsError Settings
  | .missing => .error .unreadable
  | .text content =>
    match (Toml.parse? content).bind ofEntries? with
    | some s => .ok s
    | .none => .error .malformed

def save (s : Settings) : Except SettingsError String :=
  match Toml.write? s.toEntries with
  | some content => .ok content
  | .none => .error .unwritable

/-- The settings of a file, if one is named, under those of the environment. -/
def resolve (file : Option SettingsFile) (env : Environment) : Except SettingsError Settings := do
  let lower ← match file with
    | .none => .ok none
    | some f => load f
  let upper ← ofEnvironment env
  return merge lower upper

end Settings

end ExpertExchange
