import ExpertExchange.Notice
import ExpertExchange.Text.Number
import ExpertExchange.Text.Quoted
import ExpertExchange.Word

/-!
# Settings

Every setting is optional, so that partial sources (a file, the environment) can be merged; the
effective value of a setting that no source gives is its default.
-/

namespace ExpertExchange

/-- The settings given by some source. -/
structure Settings where
  /-- Devices per node. -/
  localSize : Option Nat
  /-- Skip the ahead-of-time compiler. -/
  useNvrtc : Option Bool
  /-- Toolkit location. -/
  sdkHome : Option String
  /-- Capacity of the event pool, and so the largest number of stages. -/
  maxNumSplit : Option Nat
  /-- Bound on forming a group, in seconds. -/
  rendezvousTimeoutSecs : Option Nat
  /-- How often fallbacks are recorded. -/
  fallbackLog : Option NoticePolicy
  /-- Address of rank 0. -/
  masterAddr : Option String
  /-- Port of rank 0. -/
  masterPort : Option Nat
  deriving Repr, DecidableEq

/-- What can go wrong with a source of settings. -/
inductive SettingsError where
  /-- The file cannot be read. -/
  | unreadable
  /-- The file is not a settings file. -/
  | malformed
  /-- A value has no written form. -/
  | unwritable
  /-- An environment variable holds no value of its setting. -/
  | invalidVariable (name value : String)
  deriving Repr, DecidableEq

/-- What the message of an error starts with, up to the cause that the outside world reports. -/
def SettingsError.heading : SettingsError → String
  | .unreadable => "IO error"
  | .malformed => "Parse error"
  | .unwritable => "Serialize error"
  | .invalidVariable name value => s!"Invalid value for {name}: " ++ Text.quoted value

namespace Settings

def none : Settings := ⟨.none, .none, .none, .none, .none, .none, .none, .none⟩

/-- The settings of `upper`, and where it gives none, those of `lower`. -/
def merge (lower upper : Settings) : Settings where
  localSize := upper.localSize.or lower.localSize
  useNvrtc := upper.useNvrtc.or lower.useNvrtc
  sdkHome := upper.sdkHome.or lower.sdkHome
  maxNumSplit := upper.maxNumSplit.or lower.maxNumSplit
  rendezvousTimeoutSecs := upper.rendezvousTimeoutSecs.or lower.rendezvousTimeoutSecs
  fallbackLog := upper.fallbackLog.or lower.fallbackLog
  masterAddr := upper.masterAddr.or lower.masterAddr
  masterPort := upper.masterPort.or lower.masterPort

/-- Whether the ahead-of-time compiler is skipped. -/
def skipsNvcc (s : Settings) : Bool := s.useNvrtc.getD false

def sdkHomeOrDefault (s : Settings) : String := s.sdkHome.getD "/usr/local/cuda"

def maxNumSplitOrDefault (s : Settings) : Nat := s.maxNumSplit.getD 8

/-- The bound on forming a group in effect, in seconds. -/
def timeoutSecsOrDefault (s : Settings) : Nat := s.rendezvousTimeoutSecs.getD 300

/-- The bound on forming a group in effect, in milliseconds. -/
def timeoutMillis (s : Settings) : Nat := 1000 * s.timeoutSecsOrDefault

def fallbackLogOrDefault (s : Settings) : NoticePolicy := s.fallbackLog.getD .once

def masterAddrOrDefault (s : Settings) : String := s.masterAddr.getD "127.0.0.1"

def masterPortOrDefault (s : Settings) : Nat := s.masterPort.getD 29500

abbrev Environment := String → Option String

/-- The value of a variable, read by `parse` without the blanks around it. -/
def readVariable {α : Type} (parse : String → Option α) (env : Environment) (name : String) :
    Except SettingsError (Option α) :=
  match env name with
  | .none => .ok .none
  | some value =>
    match parse (Text.trim value) with
    | some a => .ok (some a)
    | .none => .error (.invalidVariable name value)

/-- The settings given by environment variables. The switch and the policy are read first, then
the other variables in the order of the settings. An empty text counts as not given; an empty
`CUDA_HOME` also hides `CUDA_PATH`. -/
def ofEnvironment (env : Environment) : Except SettingsError Settings := do
  let skip ← readVariable (Text.integer? Word.signedBound) env "USE_NVRTC"
  let policy ← readVariable (fun s => (NoticePolicy.parse s).toOption) env "EXPERTLINK_FALLBACK_LOG"
  let localSize ← readVariable (Text.natural? Word.bound) env "LOCAL_SIZE"
  let maxNumSplit ← readVariable (Text.natural? Word.bound) env "EXPERTLINK_MAX_NUM_SPLIT"
  let timeout ← readVariable (Text.natural? Word.bound) env "EXPERTLINK_RENDEZVOUS_TIMEOUT_SECS"
  let port ← readVariable (Text.natural? Word.portBound) env "MASTER_PORT"
  return {
    localSize := localSize
    useNvrtc := skip.map (· != 0)
    sdkHome := ((env "CUDA_HOME").or (env "CUDA_PATH")).filter (· ≠ "")
    maxNumSplit := maxNumSplit
    rendezvousTimeoutSecs := timeout
    fallbackLog := policy
    masterAddr := (env "MASTER_ADDR").filter (· ≠ "")
    masterPort := port }

end Settings

end ExpertExchange
