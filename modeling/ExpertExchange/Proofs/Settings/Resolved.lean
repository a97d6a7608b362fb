import ExpertExchange.Proofs.Settings.Saved
import Mathlib.Tactic.Lemma

/-!
# Where a setting comes from

The value in effect is that of the first variable of the setting that is not empty, else that of
the file, else the default, with one exception: an empty `CUDA_HOME` hides `CUDA_PATH`. Merging is
associative, and without settings it changes nothing.
-/

namespace ExpertExchange

namespace Settings

/-- The value of the first of some variables that is set and not empty. -/
def firstGiven? (env : Environment) (names : List String) : Option String :=
  names.findSome? fun name => (env name).filter (· ≠ "")

/-- Where the value of a setting comes from: the variables that give it, the first one first, how
what they hold is read, where the settings of a source have it, and the default. -/
structure Rule (α : Type) where
  names : List String
  read : String → Option α
  given : Settings → Option α
  default : α

namespace Rule

variable {α : Type}

/-- The value of `effective` is that of the variables, else that of the file, else the default. -/
structure Resolves (r : Rule α) (env : Environment) (file : Settings) (effective : α) : Prop where
  of_variable : ∀ text, firstGiven? env r.names = some text → r.read text = some effective
  of_file : firstGiven? env r.names = .none → ∀ a, r.given file = some a → effective = a
  of_default : firstGiven? env r.names = .none → r.given file = .none → effective = r.default

/-- The same by the merged value of the setting. -/
lemma resolves_of_merged {r : Rule α} {env : Environment} {file : Settings} {value : Option α}
    {effective : α} (hvalue : (firstGiven? env r.names).map r.read = value.map some)
    (heffective : effective = (value.or (r.given file)).getD r.default) :
    r.Resolves env file effective := by
  subst heffective
  cases hgiven : firstGiven? env r.names with
  | none =>
    rw [hgiven] at hvalue
    obtain rfl : value = .none := by simpa using hvalue.symm
    constructor
    · simp [hgiven]
    · intro _ a ha
      simp [ha]
    · intro _ ha
      simp [ha]
  | some text =>
    rw [hgiven] at hvalue
    obtain ⟨a, rfl, ha⟩ := Option.map_eq_some_iff.1 hvalue.symm
    constructor
    · intro text' htext
      rw [hgiven] at htext
      cases htext
      exact ha.symm
    · simp [hgiven]
    · simp [hgiven]

/-- A setting of one variable, read without the blanks around its text. -/
def ofVariable (name : String) (parse : String → Option α) (given : Settings → Option α)
    (default : α) : Rule α :=
  ⟨[name], fun text => parse (Text.trim text), given, default⟩

def ofTexts (names : List String) (given : Settings → Option String) (default : String) :
    Rule String :=
  ⟨names, some, given, default⟩

end Rule

/-- Devices per node; by default as many as the platform has. -/
def localSizeRule (devices : Nat) : Rule Nat :=
  .ofVariable "LOCAL_SIZE" (Text.natural? Word.bound) localSize devices

/-- Whether the ahead-of-time compiler is skipped: a number other than zero says so. -/
def useNvrtcRule : Rule Bool :=
  .ofVariable "USE_NVRTC" (fun text => (Text.integer? Word.signedBound text).map (· != 0)) useNvrtc
    false

def sdkHomeRule : Rule String :=
  .ofTexts ["CUDA_HOME", "CUDA_PATH"] sdkHome "/usr/local/cuda"

def maxNumSplitRule : Rule Nat :=
  .ofVariable "EXPERTLINK_MAX_NUM_SPLIT" (Text.natural? Word.bound) maxNumSplit 8

def timeoutRule : Rule Nat :=
  .ofVariable "EXPERTLINK_RENDEZVOUS_TIMEOUT_SECS" (Text.natural? Word.bound) rendezvousTimeoutSecs
    300

def fallbackLogRule : Rule NoticePolicy :=
  .ofVariable "EXPERTLINK_FALLBACK_LOG" (fun text => (NoticePolicy.parse text).toOption) fallbackLog
    .once

def masterAddrRule : Rule String := .ofTexts ["MASTER_ADDR"] masterAddr "127.0.0.1"

def masterPortRule : Rule Nat :=
  .ofVariable "MASTER_PORT" (Text.natural? Word.portBound) masterPort 29500

/-- Every setting comes from the first source that gives it. -/
structure ByPriority (env : Environment) (file s : Settings) : Prop where
  localSize : ∀ devices, (localSizeRule devices).Resolves env file (s.localSize.getD devices)
  useNvrtc : useNvrtcRule.Resolves env file s.skipsNvcc
  sdkHome : env "CUDA_HOME" ≠ some "" → sdkHomeRule.Resolves env file s.sdkHomeOrDefault
  maxNumSplit : maxNumSplitRule.Resolves env file s.maxNumSplitOrDefault
  timeout : timeoutRule.Resolves env file s.timeoutSecsOrDefault
  fallbackLog : fallbackLogRule.Resolves env file s.fallbackLogOrDefault
  masterAddr : masterAddrRule.Resolves env file s.masterAddrOrDefault
  masterPort : masterPortRule.Resolves env file s.masterPortOrDefault
  /-- An empty location is no location, and the other variable is not looked at. -/
  hidden : env "CUDA_HOME" = some "" → s.sdkHome = file.sdkHome

variable {α : Type} {env : Environment} {name : String}

lemma firstGiven?_cons {names : List String} :
    firstGiven? env (name :: names) =
      ((env name).filter (· ≠ "")).or (firstGiven? env names) := by
  unfold firstGiven?
  rw [List.findSome?_cons]
  cases (env name).filter (· ≠ "") <;> rfl

lemma firstGiven?_single : firstGiven? env [name] = (env name).filter (· ≠ "") := by
  rw [firstGiven?_cons]
  exact Option.or_none

lemma readVariable_eq_ok_iff {parse : String → Option α} {value : Option α} :
    readVariable parse env name = .ok value ↔
      (env name).map (fun text => parse (Text.trim text)) = value.map some := by
  unfold readVariable
  cases env name with
  | none => cases value <;> simp
  | some text =>
    simp only [Option.map_some]
    cases hparse : parse (Text.trim text) <;> cases value <;> simp

/-- A variable that is read with success is not empty if an empty text is no value. -/
lemma firstGiven?_of_readVariable {parse : String → Option α} {value : Option α}
    (hparse : parse (Text.trim "") = .none) (h : readVariable parse env name = .ok value) :
    (firstGiven? env [name]).map (fun text => parse (Text.trim text)) = value.map some := by
  rw [readVariable_eq_ok_iff] at h
  rw [firstGiven?_single]
  cases htext : env name with
  | none =>
    rw [htext] at h
    exact h
  | some text =>
    rw [htext] at h
    have hne : text ≠ "" := by
      intro htext'
      rw [htext', Option.map_some, hparse] at h
      cases value <;> cases h
    rw [Option.filter_some, if_pos (by simpa using hne)]
    exact h

lemma of_readVariable {parse : String → Option α} {value : Option α}
    {given : Settings → Option α} {default : α} {file : Settings}
    (h : readVariable parse env name = .ok value) (hparse : parse (Text.trim "") = .none) :
    (Rule.ofVariable name parse given default).Resolves env file
      ((value.or (given file)).getD default) :=
  Rule.resolves_of_merged (firstGiven?_of_readVariable hparse h) rfl

lemma of_firstGiven? {names : List String} {given : Settings → Option String} {default : String}
    {file : Settings} :
    (Rule.ofTexts names given default).Resolves env file
      (((firstGiven? env names).or (given file)).getD default) :=
  Rule.resolves_of_merged rfl rfl

lemma natural?_trim_empty (bound : Nat) : Text.natural? bound (Text.trim "") = .none := by
  rfl

lemma readPolicy_empty : (NoticePolicy.parse (Text.trim "")).toOption = .none := by
  rfl

/-- What has been read when all variables have been read with success. -/
structure Reads (env : Environment) (upper : Settings) : Prop where
  localSize : readVariable (Text.natural? Word.bound) env "LOCAL_SIZE" = .ok upper.localSize
  useNvrtc : ∃ skip, readVariable (Text.integer? Word.signedBound) env "USE_NVRTC" = .ok skip ∧
    upper.useNvrtc = skip.map (· != 0)
  sdkHome : upper.sdkHome = ((env "CUDA_HOME").or (env "CUDA_PATH")).filter (· ≠ "")
  maxNumSplit : readVariable (Text.natural? Word.bound) env "EXPERTLINK_MAX_NUM_SPLIT" =
    .ok upper.maxNumSplit
  timeout : readVariable (Text.natural? Word.bound) env "EXPERTLINK_RENDEZVOUS_TIMEOUT_SECS" =
    .ok upper.rendezvousTimeoutSecs
  fallbackLog : readVariable (fun s => (NoticePolicy.parse s).toOption) env
    "EXPERTLINK_FALLBACK_LOG" = .ok upper.fallbackLog
  masterAddr : upper.masterAddr = (env "MASTER_ADDR").filter (· ≠ "")
  masterPort : readVariable (Text.natural? Word.portBound) env "MASTER_PORT" = .ok upper.masterPort

lemma exists_of_bind_eq_ok {ε β : Type} {x : Except ε α} {f : α → Except ε β} {b : β}
    (h : x >>= f = .ok b) : ∃ a, x = .ok a ∧ f a = .ok b := by
  cases x with
  | error e => cases h
  | ok a => exact ⟨a, rfl, h⟩

lemma reads_ofEnvironment {upper : Settings} (h : ofEnvironment env = .ok upper) :
    Reads env upper := by
  unfold ofEnvironment at h
  obtain ⟨skip, hskip, h⟩ := exists_of_bind_eq_ok h
  obtain ⟨policy, hpolicy, h⟩ := exists_of_bind_eq_ok h
  obtain ⟨localSize, hlocal, h⟩ := exists_of_bind_eq_ok h
  obtain ⟨splits, hsplits, h⟩ := exists_of_bind_eq_ok h
  obtain ⟨timeout, htimeout, h⟩ := exists_of_bind_eq_ok h
  obtain ⟨port, hport, h⟩ := exists_of_bind_eq_ok h
  cases h
  constructor
  · exact hlocal
  · exact ⟨skip, hskip, rfl⟩
  · rfl
  · exact hsplits
  · exact htimeout
  · exact hpolicy
  · rfl
  · exact hport

variable (a b c : Settings)

lemma merge_assoc : (a.merge b).merge c = a.merge (b.merge c) := by
  simp only [merge, Option.or_assoc]

lemma none_merge : none.merge a = a := by
  simp only [merge, none, Option.or_none]

lemma merge_none : a.merge none = a := by
  simp only [merge, none, Option.none_or]

/-- Without an empty `CUDA_HOME` the location is that of the first variable that gives one. -/
lemma sdkHome_eq_firstGiven? {upper : Settings} (h : Reads env upper)
    (hhome : env "CUDA_HOME" ≠ some "") :
    upper.sdkHome = firstGiven? env ["CUDA_HOME", "CUDA_PATH"] := by
  -- The empty text is taken out after the choice between the variables, not before it.
  rw [h.sdkHome, firstGiven?_cons, firstGiven?_single]
  cases htext : env "CUDA_HOME" with
  | none => rfl
  | some text =>
    have hne : text ≠ "" := by
      intro htext'
      exact hhome (by rw [htext, htext'])
    rw [Option.some_or, Option.filter_some, if_pos (by simpa using hne), Option.some_or]

/-- A number that is read with success is a switch that is read with success. -/
lemma readVariable_map {β : Type} {parse : String → Option α} {f : α → β} {value : Option α}
    (h : readVariable parse env name = .ok value) :
    readVariable (fun text => (parse text).map f) env name = .ok (value.map f) := by
  rw [readVariable_eq_ok_iff] at h ⊢
  calc (env name).map (fun text => (parse (Text.trim text)).map f)
      = ((env name).map fun text => parse (Text.trim text)).map (Option.map f) := by
        rw [Option.map_map]
        rfl
    _ = (value.map f).map some := by
        rw [h, Option.map_map, Option.map_map]
        rfl

lemma byPriority_merge {upper file : Settings} (h : Reads env upper) :
    ByPriority env file (file.merge upper) := by
  constructor
  · intro devices
    exact of_readVariable h.localSize (natural?_trim_empty _)
  · obtain ⟨skip, hskip, hvalue⟩ := h.useNvrtc
    rw [skipsNvcc, merge, hvalue]
    exact of_readVariable (readVariable_map hskip) rfl
  · intro hhome
    rw [sdkHomeOrDefault, merge, sdkHome_eq_firstGiven? h hhome]
    exact of_firstGiven?
  · exact of_readVariable h.maxNumSplit (natural?_trim_empty _)
  · exact of_readVariable h.timeout (natural?_trim_empty _)
  · exact of_readVariable h.fallbackLog readPolicy_empty
  · have haddr : upper.masterAddr = firstGiven? env ["MASTER_ADDR"] := by
      rw [h.masterAddr, firstGiven?_single]
    rw [masterAddrOrDefault, merge, haddr]
    exact of_firstGiven?
  · exact of_readVariable h.masterPort (natural?_trim_empty _)
  · intro hhome
    rw [merge, h.sdkHome, hhome]
    rfl

/-- Settings resolve by the priority of their sources, except that an empty `CUDA_HOME` hides
`CUDA_PATH`: the value in effect is that of the first variable that is not empty, else that of the
file, else the default. Merging is associative, and what gives no settings changes nothing on
either side. -/
theorem resolve_by_priority {file : Option SettingsFile} {lower upper : Settings}
    (hfile : file.elim (.ok none) load = .ok lower) (henv : ofEnvironment env = .ok upper) :
    (∃ s, resolve file env = .ok s ∧ ByPriority env lower s) ∧
      (∀ a b c : Settings, (a.merge b).merge c = a.merge (b.merge c)) ∧
      ∀ a : Settings, none.merge a = a ∧ a.merge none = a := by
  constructor
  · refine ⟨lower.merge upper, ?_, byPriority_merge (reads_ofEnvironment henv)⟩
    cases file with
    | none =>
      cases hfile
      rw [resolve, henv]
      rfl
    | some f =>
      have hlower : load f = .ok lower := hfile
      rw [resolve, hlower, henv]
      rfl
  · constructor
    · exact merge_assoc
    · intro a
      exact ⟨none_merge a, merge_none a⟩

/-- With an empty `CUDA_HOME` the location is the default although `CUDA_PATH` gives one. -/
theorem empty_home_hides_path :
    let env : Environment := fun name =>
      [("CUDA_HOME", ""), ("CUDA_PATH", "/opt/cuda-12")].lookup name
    firstGiven? env sdkHomeRule.names = some "/opt/cuda-12" ∧
      ∃ s, resolve .none env = .ok s ∧ s.sdkHomeOrDefault = "/usr/local/cuda" ∧
        ¬ sdkHomeRule.Resolves env none s.sdkHomeOrDefault := by
  intro env
  have hgiven : firstGiven? env sdkHomeRule.names = some "/opt/cuda-12" := by decide
  refine ⟨hgiven, none, by rfl, by rfl, ?_⟩
  intro h
  have hlocation := h.of_variable _ hgiven
  revert hlocation
  decide

/-- The number of devices comes from the file, and the port from the environment although the file
has one. -/
theorem resolve_by_priority_two_sources :
    let env : Environment := fun name => [("MASTER_PORT", " 7")].lookup name
    let lower : Settings := { none with localSize := some 4, masterPort := some 1 }
    ∃ file s, load file = .ok lower ∧ resolve (some file) env = .ok s ∧ ByPriority env lower s := by
  intro env lower
  have hnumbers : ∀ n ∈ lower.numbers, n < Word.signedBound := by decide
  have hport : ∀ p ∈ lower.masterPort, p < Word.portBound := by decide
  obtain ⟨text, htext, -⟩ := exists_save hnumbers
  have hload : load (.text text) = .ok lower := load_write? hport htext
  have hfile : (some (SettingsFile.text text)).elim (.ok none) load = .ok lower := hload
  have henv : ofEnvironment env = .ok { none with masterPort := some 7 } := rfl
  obtain ⟨⟨s, hs, hpriority⟩, -⟩ := resolve_by_priority hfile henv
  exact ⟨_, s, hload, hs, hpriority⟩

end Settings

end ExpertExchange
