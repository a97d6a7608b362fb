import ExpertExchange.Vendor.Call

/-!
# Shell scripts in place of a compiler driver

A small part of the shell's language, enough for scripts that stand in for a compiler driver: words
with both kinds of quotes and positional parameters, groups in braces, output redirected to a file
or to the diagnostics, and the commands `echo`, `printf`, `cat`, `exit`, `kill`, `true`, `false`
and `:`.
-/

namespace ExpertExchange.StandIn.Shell

/-- A part of a word; parameters outside of quotes are split at blanks. -/
inductive WordPart where
  | text (s : List Char)
  | parameter (name : Char) (quoted : Bool)
  deriving Repr, DecidableEq

abbrev ShellWord := List WordPart

/-- Where output goes. -/
inductive Redirection where
  | toFile (path : ShellWord) (append : Bool)
  | toDiagnostics
  deriving Repr, DecidableEq

/-- A piece of a script. -/
inductive Token where
  | word (w : ShellWord)
  | separator
  | openGroup
  | closeGroup
  | redirection (append : Bool)
  | duplicate
  deriving Repr, DecidableEq

/-- What a word consists of so far: nothing, or parts in reverse order with the last text open. -/
structure Pending where
  started : Bool
  parts : List WordPart
  text : List Char

namespace Pending

/-- No word. -/
def none : Pending := ⟨false, [], []⟩

def push (p : Pending) (c : Char) : Pending := { p with started := true, text := c :: p.text }

def closed (p : Pending) : List WordPart :=
  if p.text = [] then p.parts else .text p.text.reverse :: p.parts

def parameter (p : Pending) (name : Char) (quoted : Bool) : Pending :=
  ⟨true, .parameter name quoted :: p.closed, []⟩

/-- The word, if there is one. -/
def tokens (p : Pending) : List Token :=
  if p.started then
    match p.closed.reverse with
    | [.text ['{']] => [.openGroup]
    | [.text ['}']] => [.closeGroup]
    | parts => [.word parts]
  else []

end Pending

/-- What the next character belongs to. -/
inductive Mode where
  | plain | single | double | comment
  deriving Repr, DecidableEq

/-- Whether a character names a parameter. -/
def isParameter (c : Char) : Bool := c.isDigit || c == '$' || c == '?'

/-- The tokens of a script; `p` is the word under way. -/
def tokenize : Mode → Pending → List Char → List Token
  | _, p, [] => p.tokens
  | .comment, p, c :: rest =>
    if c = '\n' then .separator :: tokenize .plain p rest else tokenize .comment p rest
  | .single, p, c :: rest =>
    if c = '\'' then tokenize .plain p rest else tokenize .single (p.push c) rest
  | .double, p, '"' :: rest => tokenize .plain p rest
  | .double, p, '\\' :: c :: rest =>
    if c = '$' ∨ c = '"' ∨ c = '\\' then tokenize .double (p.push c) rest
    else tokenize .double ((p.push '\\').push c) rest
  | .double, p, '$' :: c :: rest =>
    if isParameter c then tokenize .double (p.parameter c true) rest
    else tokenize .double ((p.push '$').push c) rest
  | .double, p, c :: rest => tokenize .double (p.push c) rest
  | .plain, p, '\'' :: rest => tokenize .single { p with started := true } rest
  | .plain, p, '"' :: rest => tokenize .double { p with started := true } rest
  | .plain, p, '\\' :: c :: rest => tokenize .plain (p.push c) rest
  | .plain, p, '$' :: c :: rest =>
    if isParameter c then tokenize .plain (p.parameter c false) rest
    else tokenize .plain ((p.push '$').push c) rest
  | .plain, p, '>' :: '&' :: '2' :: rest => p.tokens ++ .duplicate :: tokenize .plain .none rest
  | .plain, p, '>' :: '>' :: rest => p.tokens ++ .redirection true :: tokenize .plain .none rest
  | .plain, p, '>' :: rest => p.tokens ++ .redirection false :: tokenize .plain .none rest
  | .plain, p, c :: rest =>
    if c = '\n' ∨ c = ';' then p.tokens ++ .separator :: tokenize .plain .none rest
    else if c = ' ' ∨ c = '\t' then p.tokens ++ tokenize .plain .none rest
    else if c = '#' ∧ p.started = false then tokenize .comment p rest
    else tokenize .plain (p.push c) rest

def takeCommand : List Token → List ShellWord → Option Redirection →
    List ShellWord × Option Redirection × List Token
  | .word w :: rest, words, output => takeCommand rest (words ++ [w]) output
  | .redirection append :: .word path :: rest, words, _ =>
    takeCommand rest words (some (.toFile path append))
  | .duplicate :: rest, words, _ => takeCommand rest words (some .toDiagnostics)
  | rest, words, output => (words, output, rest)

structure ShellState where
  files : List (String × Bytes)
  diagnostics : Bytes
  status : Nat
  ended : Option ExitStatus

/-- What a run works with: the script's own path and its arguments. -/
structure ShellContext where
  path : String
  arguments : List String

namespace ShellContext

def value (c : ShellContext) (s : ShellState) (name : Char) : String :=
  if name = '?' then toString s.status
  else if name = '$' then "1"
  else if name = '0' then c.path
  else (c.arguments[name.toNat - '1'.toNat]?).getD ""

end ShellContext

/-- Split characters at blanks; the fields, the last of which is still open. -/
def fields : List Char → List (List Char)
  | [] => [[]]
  | c :: rest =>
    if c = ' ' ∨ c = '\t' ∨ c = '\n' then [] :: fields rest
    else match fields rest with
      | first :: others => (c :: first) :: others
      | [] => [[c]]

/-- Append fields: the last one before continues in the first one after. -/
def joinFields : List (List Char) → List (List Char) → List (List Char)
  | [], after => after
  | [last], first :: others => (last ++ first) :: others
  | [last], [] => [last]
  | f :: before, after => f :: joinFields before after

/-- The fields that a word stands for. Empty fields vanish, unless the word has quotes or text. -/
def expand (c : ShellContext) (s : ShellState) (w : ShellWord) : List String :=
  let parts := w.map fun
    | .text t => [t]
    | .parameter name quoted =>
      let v := (c.value s name).toList
      if quoted then [v] else fields v
  let all := (parts.foldl joinFields [[]]).map String.ofList
  let solid := w.isEmpty || w.any fun
    | .text _ => true
    | .parameter _ quoted => quoted
  if solid then all else all.filter (· ≠ "")

def utf8 (c : Char) : Bytes := (String.singleton c).toUTF8.toList

/-- The bytes of a text with escapes written out: letters, and up to three octal digits, after a
further zero if `leadingZero` asks for one. -/
def unescape (leadingZero : Bool) : (octal : Option (Nat × Nat)) → List Char → Bytes
  | none, [] => []
  | some (value, _), [] => [UInt8.ofNat value]
  | some (value, 0), '\\' :: rest => UInt8.ofNat value :: escape rest
  | some (value, 0), c :: rest =>
    UInt8.ofNat value :: utf8 c ++ unescape leadingZero none rest
  | some (value, left + 1), c :: rest =>
    if '0' ≤ c ∧ c ≤ '7' then unescape leadingZero (some (8 * value + (c.toNat - 48), left)) rest
    else if c = '\\' then UInt8.ofNat value :: escape rest
    else UInt8.ofNat value :: utf8 c ++ unescape leadingZero none rest
  | none, '\\' :: rest => escape rest
  | none, c :: rest => utf8 c ++ unescape leadingZero none rest
where
  /-- What follows a backslash. -/
  escape : List Char → Bytes
    | [] => [92]
    | 'n' :: rest => 10 :: unescape leadingZero none rest
    | 't' :: rest => 9 :: unescape leadingZero none rest
    | 'r' :: rest => 13 :: unescape leadingZero none rest
    | 'a' :: rest => 7 :: unescape leadingZero none rest
    | 'b' :: rest => 8 :: unescape leadingZero none rest
    | 'f' :: rest => 12 :: unescape leadingZero none rest
    | 'v' :: rest => 11 :: unescape leadingZero none rest
    | '\\' :: rest => 92 :: unescape leadingZero none rest
    | '0' :: rest => unescape leadingZero (some (0, if leadingZero then 3 else 2)) rest
    | c :: rest =>
      if '1' ≤ c ∧ c ≤ '7' ∧ leadingZero = false then
        unescape leadingZero (some (c.toNat - 48, 2)) rest
      else 92 :: utf8 c ++ unescape leadingZero none rest

def signalName : Nat → String
  | 1 => "SIGHUP"
  | 2 => "SIGINT"
  | 3 => "SIGQUIT"
  | 6 => "SIGABRT"
  | 9 => "SIGKILL"
  | 11 => "SIGSEGV"
  | _ => "SIGTERM"

/-- What a command writes, and the state after it. -/
def perform (c : ShellContext) (s : ShellState) : List String → Bytes × ShellState
  | [] => ([], s)
  | name :: args =>
    match name, args with
    | "echo", args =>
      (unescape true none (" ".intercalate args).toList ++ [10], { s with status := 0 })
    | "printf", format :: _ => (unescape false none format.toList, { s with status := 0 })
    | "cat", paths =>
      (paths.flatMap fun p => ((s.files.find? (·.1 == p)).map (·.2)).getD [],
        { s with status := 0 })
    | "exit", [] => ([], { s with ended := some (.code s.status) })
    | "exit", n :: _ => ([], { s with ended := some (.code (n.toNat?.getD 2 % 256)) })
    | "kill", args =>
      let number := (args.findSome? fun a =>
        if a.startsWith "-" then (a.drop 1).toNat? else none).getD 15
      ([], { s with ended := some (.signal number (signalName number)) })
    | ":", _ | "true", _ => ([], { s with status := 0 })
    | "false", _ => ([], { s with status := 1 })
    | name, _ =>
      ([], { s with
        status := 127
        diagnostics := s.diagnostics ++ s!"{c.path}: {name}: not found\n".toUTF8.toList })

def direct (c : ShellContext) (s : ShellState) (output : Option Redirection) (content : Bytes) :
    Bytes × ShellState :=
  match output with
  | none => (content, s)
  | some .toDiagnostics => ([], { s with diagnostics := s.diagnostics ++ content })
  | some (.toFile path append) =>
    let name := " ".intercalate (expand c s path)
    let before := if append then ((s.files.find? (·.1 == name)).map (·.2)).getD [] else []
    ([], { s with files := (name, before ++ content) :: s.files.filter (·.1 ≠ name) })

/-- Run the commands of a script, or of a group up to its end; what they write, the state, and the
tokens after the group. -/
def runTokens (c : ShellContext) : (fuel : Nat) → ShellState → List Token →
    Bytes × ShellState × List Token
  | 0, s, ts => ([], s, ts)
  | _ + 1, s, [] => ([], s, [])
  | _ + 1, s, .closeGroup :: rest => ([], s, rest)
  | fuel + 1, s, .separator :: rest => runTokens c fuel s rest
  | fuel + 1, s, .openGroup :: rest =>
    let (inner, s', after) := runTokens c fuel s rest
    let (_, output, rest') := takeCommand after [] none
    let (out, s'') := direct c s' output inner
    if s''.ended.isSome then (out, s'', []) else
    let (out', s3, rest3) := runTokens c fuel s'' rest'
    (out ++ out', s3, rest3)
  | fuel + 1, s, t :: ts =>
    let (words, output, rest) := takeCommand (t :: ts) [] none
    let (content, s') := perform c s (words.flatMap (expand c s))
    let (out, s'') := direct c s' output content
    if s''.ended.isSome then (out, s'', []) else
    let rest' := if rest.length < (t :: ts).length then rest else ts
    let (out', s3, rest3) := runTokens c fuel s'' rest'
    (out ++ out', s3, rest3)

def interpreterMark : List Char := ['#', '!']

/-- Run a script as the compiler driver at a path, for a source; the arguments are the source file,
`-o`, the image file, and the options. -/
def runScript (path script source : String) (options : List String) : CompilerRun :=
  if interpreterMark.isPrefixOf script.toList then
    let sourceFile := "/tmp/kernel.cu"
    let imageFile := "/tmp/kernel.fatbin"
    let context : ShellContext := ⟨path, [sourceFile, "-o", imageFile] ++ options⟩
    let tokens := tokenize .plain .none script.toList
    let (_, s, _) := runTokens context (2 * tokens.length + 1)
      ⟨[(sourceFile, source.toUTF8.toList)], [], 0, none⟩ tokens
    let image := match s.files.find? (·.1 == imageFile) with
      | some f => Except.ok f.2
      | none => .error s!"failed to read {imageFile}: No such file or directory (os error 2)"
    .ended (s.ended.getD (.code s.status)) s.diagnostics image
  else .notStarted "Exec format error (os error 8)"

end ExpertExchange.StandIn.Shell
