import ExpertExchange.Cuda.Compilers
import ExpertExchange.Cuda.Platform
import ExpertExchange.Proofs.Kernel.Sound

/-!
# Fallbacks

The compilers of a list are tried in order, and the first one that succeeds gives the image. The
failure of one that is not the last is a fallback. Fallbacks of all the requests that are compiled
with one gate go through it in the order in which they come, and the policy says how many of them
are recorded.
-/

namespace ExpertExchange

/-- How many of so many fallbacks a policy has recorded. -/
def NoticePolicy.recorded : NoticePolicy → (fallbacks : Nat) → Nat
  | .silent, _ => 0
  | .once, fallbacks => min fallbacks 1
  | .always, fallbacks => fallbacks

namespace Notice

def after (n : Notice) : (fallbacks : Nat) → Notice
  | 0 => n
  | fallbacks + 1 => n.fire.2.after fallbacks

/-- How many of so many fallbacks in a row are recorded. -/
def recorded (n : Notice) (fallbacks : Nat) : Nat := (n.fires fallbacks).count true

lemma after_add (n : Notice) (a b : Nat) : n.after (a + b) = (n.after a).after b := by
  induction a generalizing n with
  | zero => rw [Nat.zero_add, after]
  | succ a ih => rw [Nat.succ_add, after, after, ih]

lemma recorded_succ (n : Notice) (fallbacks : Nat) :
    n.recorded (fallbacks + 1) = n.fire.1.toNat + n.fire.2.recorded fallbacks := by
  rw [recorded, fires, List.count_cons, Nat.add_comm]
  cases n.fire.1 <;> rfl

lemma recorded_add (n : Notice) (a b : Nat) :
    n.recorded (a + b) = n.recorded a + (n.after a).recorded b := by
  induction a generalizing n with
  | zero => rw [Nat.zero_add, after, show n.recorded 0 = 0 from rfl, Nat.zero_add]
  | succ a ih => rw [Nat.succ_add, recorded_succ, recorded_succ, ih, after, Nat.add_assoc]

/-- A gate that has let a fallback through under `once` lets no other through. -/
lemma recorded_once (fired : Bool) (fallbacks : Nat) :
    (⟨.once, fired⟩ : Notice).recorded fallbacks = if fired then 0 else min fallbacks 1 := by
  induction fallbacks generalizing fired with
  | zero => cases fired <;> rfl
  | succ fallbacks ih =>
    rw [recorded_succ, fire, ih]
    cases fired with
    | false => simp
    | true => rfl

lemma recorded_ofPolicy (p : NoticePolicy) (fallbacks : Nat) :
    (ofPolicy p).recorded fallbacks = p.recorded fallbacks := by
  cases p with
  | silent =>
    induction fallbacks with
    | zero => rfl
    | succ fallbacks ih => exact (recorded_succ _ _).trans ((Nat.zero_add _).trans ih)
  | once => exact recorded_once false fallbacks
  | always =>
    induction fallbacks with
    | zero => rfl
    | succ fallbacks ih =>
      rw [recorded_succ, show (ofPolicy .always).fire = (true, ofPolicy .always) from rfl, ih]
      exact Nat.add_comm _ _

end Notice

namespace Machine

variable {σ ω ε : Type} {watch : σ → ω}

lemma spares_openFirst (names : List String) :
    (openFirst names : Act Machine σ ε (Option Nat)).Spares watch := by
  induction names with
  | nil => exact .pure none
  | cons name rest ih =>
    refine .bind (.request _) ?_
    intro opened
    cases opened with
    | ok library => exact .pure (some library)
    | error cause => exact ih

lemma spares_checkSymbols (library : Nat) (fail : String → String → ε) (names : List String) :
    (checkSymbols library fail names : Act Machine σ ε Unit).Spares watch := by
  induction names with
  | nil => exact .pure ()
  | cons name rest ih =>
    refine .bind (.request _) ?_
    intro missing
    cases missing with
    | none => exact ih
    | some cause => exact .fail _

end Machine

namespace Cuda

variable {σ ω : Type} {watch : σ → ω}

lemma spares_nvrtcText (code : Int) :
    (nvrtcText code : Act Machine σ String String).Spares watch := by
  refine .bind (.request _) ?_
  intro text
  exact .pure _

lemma spares_nvrtcRun (op : String) (call : VendorCall) :
    (nvrtcRun op call : Act Machine σ String call.Value).Spares watch := by
  refine .bind (.request _) ?_
  intro answer
  refine .ite (.pure _) (.bind (spares_nvrtcText _) ?_)
  intro text
  exact .fail _

lemma spares_nvrtcProgram (program : Nat) (options : List String) :
    (nvrtcProgram program options : Act Machine σ String String).Spares watch := by
  refine .bind (.request _) ?_
  intro answer
  refine .ite ?_ ?_
  · refine .bind (spares_nvrtcRun _ _) ?_
    intro _
    refine .bind (spares_nvrtcRun _ _) ?_
    intro content
    exact .pure _
  · have hlog : (nvrtcLog program : Act Machine σ String String).Spares watch := by
      refine .bind (spares_nvrtcRun _ _) ?_
      intro _
      refine .bind (spares_nvrtcRun _ _) ?_
      intro content
      exact .pure _
    refine .bind hlog.attempt ?_
    intro log
    refine .bind (spares_nvrtcText _) ?_
    intro text
    exact .fail _

lemma leaves_nvcc (watch : σ → ω) : nvcc.Leaves watch := by
  intro source target
  refine .bind (.request _) ?_
  intro (present : Bool)
  refine .ite (.bind (.request _) ?_) (.fail _)
  intro run
  cases imageOfRun (Compiler.nvccPath target.sdkHome) run with
  | ok image => exact .pure image
  | error log => exact .fail log

lemma leaves_nvrtc (watch : σ → ω) : nvrtc.Leaves watch := by
  intro source target
  refine .bind (Machine.spares_openFirst _) ?_
  intro opened
  cases opened with
  | none => exact .fail _
  | some library =>
    refine .bind (Machine.spares_checkSymbols _ _ _) ?_
    intro _
    refine .bind (.ensure _ _) ?_
    intro _
    refine .bind (.ensure _ _) ?_
    intro _
    refine .bind (spares_nvrtcRun _ _) ?_
    intro program
    refine .bind (.andFinally (spares_nvrtcProgram _ _) (.bind (.request _) ?_)) ?_
    · intro _
      exact .pure ()
    · intro text
      exact .pure _

/-- The compilers work on the machine alone. -/
lemma leaves_of_mem_compilers {settings : Settings} {c : Compiler Machine σ}
    (hc : c ∈ compilers settings) (watch : σ → ω) : c.Leaves watch := by
  unfold compilers Compiler.forDevice at hc
  by_cases hskips : settings.skipsNvcc = true
  · rw [if_pos hskips, List.mem_singleton] at hc
    exact hc ▸ leaves_nvrtc watch
  · rw [if_neg hskips] at hc
    rcases List.mem_cons.1 hc with rfl | hrest
    · exact leaves_nvcc watch
    · exact List.mem_singleton.1 hrest ▸ leaves_nvrtc watch

end Cuda

namespace Compiler

variable {S : Service} {σ F E : Type} {P : Platform S σ F E}

/-- What is asked of compilers: to compile a source for a device. -/
structure Request where
  source : KernelSource
  target : CompileTarget
  device : Nat

structure Attempt (S : Service) (σ : Type) where
  compiler : Compiler S σ
  answer : Outcome String Image

namespace Attempt

def report? (a : Attempt S σ) : Option String :=
  match a.answer with
  | .error log => some s!"{a.compiler.name}: {log}"
  | _ => none

def isFailed (a : Attempt S σ) : Bool := a.report?.isSome

end Attempt

namespace Request

def fallback (r : Request) (failed next : Compiler S σ) (log : String) : LogRecord :=
  ⟨.warn, .compiler, "kernel compilation failed, falling back",
    [("entry", .text r.source.entry), ("backend", .text failed.name), ("next", .text next.name),
      ("error", .shown log)]⟩

def compiled (r : Request) (c : Compiler S σ) (image : Image) : LogRecord :=
  ⟨.debug, .compiler, "compiled kernel",
    [("entry", .text r.source.entry), ("device", .number r.device), ("arch", .text r.target.arch),
      ("backend", .text c.name), ("image", .text image.kind)]⟩

/-- What is recorded of a failure when these compilers are left, and the gate after it. -/
def noted (r : Request) (failed : Compiler S σ) (log : String) :
    List (Compiler S σ) → Notice → List LogRecord × Notice
  | [], n => ([], n)
  | next :: _, n => (if n.fire.1 then [r.fallback failed next log] else [], n.fire.2)

/-- How a request ends that no compiler could serve. -/
def failure (r : Request) (reports : List String) : KernelError :=
  .compilation r.source.entry r.device r.target.arch ("; ".intercalate reports)

end Request

def isFallback (r : LogRecord) : Bool :=
  r.level = .warn ∧ r.origin = .compiler ∧ r.message = "kernel compilation failed, falling back"

/-- The fallbacks among attempts at the compilers of a list: the failures of others than its last
one. -/
def fallbacks (compilers : List (Compiler S σ)) (attempts : List (Attempt S σ)) : Nat :=
  (attempts.take (compilers.length - 1)).countP Attempt.isFailed

lemma fallbacks_single {compilers : List (Compiler S σ)} {a : Attempt S σ}
    (h : a.isFailed = false) : fallbacks compilers [a] = 0 := by
  refine List.countP_eq_zero.2 ?_
  intro a' ha'
  rw [List.mem_singleton.1 (List.mem_of_mem_take ha'), h]
  decide

/-- How the compilers are tried for a request: from which state, with which attempts and records,
to which end. An error is made of the reports of the attempts. -/
inductive Tries (P : Platform S σ F E) (r : Request) :
    List (Compiler S σ) → σ × Notice → List (Attempt S σ) → List LogRecord →
      Outcome (List String) Image → σ × Notice → Prop where
  | exhausted (q : σ × Notice) : Tries P r [] q [] [] (.error []) q
  | compiled {c : Compiler S σ} {rest : List (Compiler S σ)} {s s' : σ} {n : Notice}
      {image : Image} (hend : (c.compile r.source r.target s).CanEnd (.ok image, s')) :
      Tries P r (c :: rest) (s, n) [⟨c, .ok image⟩] [r.compiled c image] (.ok image)
        (P.record (r.compiled c image) s', n)
  | broke {c : Compiler S σ} {rest : List (Compiler S σ)} {s s' : σ} {n : Notice}
      {reason : Option String}
      (hend : (c.compile r.source r.target s).CanEnd (.fault reason, s')) :
      Tries P r (c :: rest) (s, n) [⟨c, .fault reason⟩] [] (.fault reason) (s', n)
  | failed {c : Compiler S σ} {rest : List (Compiler S σ)} {s s' : σ} {n : Notice}
      {log : String} {attempts : List (Attempt S σ)} {records : List LogRecord}
      {o : Outcome (List String) Image} {q : σ × Notice}
      (hend : (c.compile r.source r.target s).CanEnd (.error log, s'))
      (hrest : Tries P r rest
        ((r.noted c log rest n).1.foldl (fun s record => P.record record s) s',
          (r.noted c log rest n).2) attempts records o q) :
      Tries P r (c :: rest) (s, n) (⟨c, .error log⟩ :: attempts)
        ((r.noted c log rest n).1 ++ records) (o.mapError (s!"{c.name}: {log}" :: ·)) q

lemma noteFallback_eq (r : Request) (failed : Compiler S σ) (log : String)
    (rest : List (Compiler S σ)) (s : σ) (n : Notice) :
    noteFallback P r.source.entry failed log rest (s, n) =
      .done (.ok (), (r.noted failed log rest n).1.foldl (fun s record => P.record record s) s,
        (r.noted failed log rest n).2) := by
  cases rest with
  | nil => rfl
  | cons next rest =>
    have hshow : noteFallback P r.source.entry failed log (next :: rest) (s, n) =
        (if n.fire.1 then
          (P.log .warn .compiler "kernel compilation failed, falling back"
            [("entry", .text r.source.entry), ("backend", .text failed.name),
              ("next", .text next.name), ("error", .shown log)]).within Part.first
        else pure () : Act S (σ × Notice) KernelError Unit) (s, n.fire.2) := rfl
    rw [hshow, Request.noted]
    cases n.fire.1 <;> rfl

/-- What trying the compilers can end with, after the reports of others that failed. -/
lemma tries_of_canEnd {r : Request} {compilers : List (Compiler S σ)} {logs : List String}
    {q q' : σ × Notice} {o : Outcome KernelError Image}
    (hend : (tryEach P r.source r.target r.device compilers logs q).CanEnd (o, q')) :
    ∃ attempts records answer, Tries P r compilers q attempts records answer q' ∧
      o = answer.mapError fun reports => r.failure (logs ++ reports) := by
  induction compilers generalizing logs q with
  | nil =>
    cases Program.canEnd_done_iff.1 hend
    refine ⟨[], [], .error [], .exhausted _, ?_⟩
    simp [Outcome.mapError, Request.failure]
  | cons c rest ih =>
    obtain ⟨s, n⟩ := q
    obtain ⟨⟨o₁, q₁⟩, h₁, h₂⟩ := Program.canEnd_bind_iff.1 hend
    obtain ⟨⟨o₂, q₂⟩, hattempt, h₃⟩ := Program.canEnd_bind_iff.1 h₁
    obtain ⟨⟨answer, s'⟩, hcompile, h₄⟩ := Program.canEnd_bind_iff.1 hattempt
    cases Program.canEnd_done_iff.1 h₄
    cases Program.canEnd_done_iff.1 h₃
    cases answer with
    | ok image =>
      cases Program.canEnd_done_iff.1 h₂
      exact ⟨_, _, _, .compiled hcompile, rfl⟩
    | fault reason =>
      cases Program.canEnd_done_iff.1 h₂
      exact ⟨_, _, _, .broke hcompile, rfl⟩
    | error log =>
      obtain ⟨⟨o₄, q₄⟩, hnoted, hnext⟩ := Program.canEnd_bind_iff.1 h₂
      rw [noteFallback_eq] at hnoted
      cases Program.canEnd_done_iff.1 hnoted
      obtain ⟨attempts, records, answer, htries, rfl⟩ := ih hnext
      refine ⟨_, _, _, .failed hcompile htries, ?_⟩
      cases answer with
      | ok image => rfl
      | fault reason => rfl
      | error reports => simp [Outcome.mapError]

namespace Tries

variable {r : Request} {compilers : List (Compiler S σ)} {attempts : List (Attempt S σ)}
  {records : List LogRecord} {answer : Outcome (List String) Image} {q q' : σ × Notice}

/-- The compilers are tried from the first one on. -/
lemma inOrder (h : Tries P r compilers q attempts records answer q') :
    attempts.map Attempt.compiler <+: compilers := by
  induction h with
  | exhausted q => exact List.nil_prefix
  | compiled _ => exact List.prefix_append [_] _
  | broke _ => exact List.prefix_append [_] _
  | failed _ _ ih => exact List.cons_prefix_cons.2 ⟨rfl, ih⟩

/-- The attempts fail up to the last one, which settles the request, or all of them fail. -/
lemma ended (h : Tries P r compilers q attempts records answer q') :
    (∃ failures a, (∀ b ∈ failures, b.isFailed = true) ∧ a.isFailed = false ∧
      attempts = failures ++ [a] ∧ answer = a.answer.mapError fun log => [log]) ∨
    ((∀ b ∈ attempts, b.isFailed = true) ∧ attempts.map Attempt.compiler = compilers ∧
      answer = .error (attempts.filterMap Attempt.report?)) := by
  induction h with
  | exhausted q => exact .inr ⟨by simp, rfl, rfl⟩
  | compiled _ => exact .inl ⟨[], _, by simp, rfl, rfl, rfl⟩
  | broke _ => exact .inl ⟨[], _, by simp, rfl, rfl, rfl⟩
  | @failed c _ _ _ _ log _ _ _ _ _ _ ih =>
    rcases ih with ⟨failures, a, hfailures, hlast, rfl, rfl⟩ | ⟨hall, rfl, rfl⟩
    · refine .inl ⟨⟨c, .error log⟩ :: failures, a, List.forall_mem_cons.2 ⟨rfl, hfailures⟩, hlast,
        rfl, ?_⟩
      obtain ⟨c', answer⟩ := a
      cases answer with
      | ok image => rfl
      | fault reason => rfl
      | error log' => cases hlast
    · exact .inr ⟨List.forall_mem_cons.2 ⟨rfl, hall⟩, rfl, rfl⟩

/-- Fallbacks go through the gate, and nothing else does. -/
lemma gated (h : Tries P r compilers q attempts records answer q') :
    records.countP isFallback = q.2.recorded (fallbacks compilers attempts) ∧
      q'.2 = q.2.after (fallbacks compilers attempts) := by
  induction h with
  | exhausted q => exact ⟨rfl, rfl⟩
  | compiled _ =>
    rw [fallbacks_single rfl]
    exact ⟨rfl, rfl⟩
  | broke _ =>
    rw [fallbacks_single rfl]
    exact ⟨rfl, rfl⟩
  | @failed c rest s s' n log attempts records o q _ _ ih =>
    cases rest with
    | nil => exact ih
    | cons next rest =>
      have hone : fallbacks (c :: next :: rest) (⟨c, .error log⟩ :: attempts) =
          fallbacks (next :: rest) attempts + 1 := List.countP_cons_of_pos rfl
      obtain ⟨hrecords, hgate⟩ := ih
      rw [hone, List.countP_append, hrecords, hgate, Notice.recorded_succ, Notice.after]
      refine ⟨?_, rfl⟩
      congr 1
      rw [Request.noted]
      cases n.fire.1 <;> rfl

end Tries

/-- A count of the warnings of fallbacks in a state to which records are added. -/
def Tallies (P : Platform S σ F E) (tally : σ → Nat) : Prop :=
  ∀ record s, tally (P.record record s) = tally s + (isFallback record).toNat

lemma Tallies.foldl {tally : σ → Nat} (h : Tallies P tally) (records : List LogRecord) (s : σ) :
    tally (records.foldl (fun s record => P.record record s) s) =
      tally s + records.countP isFallback := by
  induction records generalizing s with
  | nil => rfl
  | cons record records ih =>
    rw [List.foldl_cons, ih, h, List.countP_cons, Nat.add_assoc, Nat.add_comm (Bool.toNat _)]
    cases isFallback record <;> rfl

/-- Where compilers leave the tally alone, it grows by what is recorded. -/
lemma Tries.tallied {r : Request} {compilers : List (Compiler S σ)} {attempts : List (Attempt S σ)}
    {records : List LogRecord} {answer : Outcome (List String) Image} {q q' : σ × Notice}
    {tally : σ → Nat} (h : Tries P r compilers q attempts records answer q')
    (htally : Tallies P tally) (hleaves : ∀ c ∈ compilers, c.Leaves tally) :
    tally q'.1 = tally q.1 + records.countP isFallback := by
  induction h with
  | exhausted q => rfl
  | @compiled c rest s s' n image hend =>
    have hsame : tally s' = tally s := hleaves c List.mem_cons_self _ _ s _ s' hend
    rw [htally, hsame]
    rfl
  | @broke c rest s s' n reason hend => exact hleaves c List.mem_cons_self _ _ s _ s' hend
  | @failed c rest s s' n log attempts records o q hend hrest ih =>
    have hsame : tally s' = tally s := hleaves c List.mem_cons_self _ _ s _ s' hend
    rw [ih fun c' hc' => hleaves c' (List.mem_cons_of_mem c hc'), htally.foldl, hsame,
      List.countP_append, Nat.add_assoc]

structure Turn (S : Service) (σ : Type) where
  request : Request
  attempts : List (Attempt S σ)
  records : List LogRecord
  answer : Outcome KernelError Image

namespace Turn

def Goes (P : Platform S σ F E) (compilers : List (Compiler S σ)) (q : σ × Notice) (t : Turn S σ)
    (q' : σ × Notice) : Prop :=
  ∃ answer, Tries P t.request compilers q t.attempts t.records answer q' ∧
    t.answer = answer.mapError t.request.failure

def fallen (compilers : List (Compiler S σ)) (turns : List (Turn S σ)) : Nat :=
  (turns.flatMap fun t => t.attempts.take (compilers.length - 1)).countP Attempt.isFailed

lemma fallen_cons (compilers : List (Compiler S σ)) (t : Turn S σ) (turns : List (Turn S σ)) :
    fallen compilers (t :: turns) = fallbacks compilers t.attempts + fallen compilers turns := by
  rw [fallen, List.flatMap_cons, List.countP_append, fallbacks, fallen]

/-- The compilers are run in order up to the first that does not fail, which gives the answer; there
is a compilation error just when all of them fail, and it reports every failure. -/
structure InOrder (compilers : List (Compiler S σ)) (t : Turn S σ) : Prop where
  order : t.attempts.map Attempt.compiler <+: compilers
  stops : ∀ a ∈ t.attempts.dropLast, a.isFailed = true
  image : ∀ image, t.answer = .ok image ↔
    ∃ a, t.attempts.getLast? = some a ∧ a.answer = .ok image
  fault : ∀ reason, t.answer = .fault reason ↔
    ∃ a, t.attempts.getLast? = some a ∧ a.answer = .fault reason
  error : ∀ why, t.answer = .error why ↔
    t.attempts.map Attempt.compiler = compilers ∧ (∀ a ∈ t.attempts, a.isFailed = true) ∧
      why = t.request.failure (t.attempts.filterMap Attempt.report?)

/-- Trying the compilers goes in order. -/
lemma Goes.inOrder {compilers : List (Compiler S σ)} {q q' : σ × Notice} {t : Turn S σ}
    (h : t.Goes P compilers q q') : t.InOrder compilers := by
  obtain ⟨ended, htries, hanswer⟩ := h
  rcases htries.ended with ⟨failures, ⟨c, settled⟩, hfailures, hlast, hattempts, rfl⟩ |
    ⟨hall, hmap, rfl⟩
  · have hsettles : t.attempts.getLast? = some ⟨c, settled⟩ := by
      rw [hattempts, List.getLast?_concat]
    have hnot : ¬ ∀ a ∈ t.attempts, a.isFailed = true := by
      intro hall
      rw [hall _ (List.mem_of_getLast? hsettles)] at hlast
      cases hlast
    have hstops : ∀ a ∈ t.attempts.dropLast, a.isFailed = true := by
      rw [hattempts, List.dropLast_concat]
      exact hfailures
    cases settled with
    | error log => cases hlast
    | ok image =>
      refine ⟨htries.inOrder, hstops, ?_, ?_, ?_⟩ <;>
        simp [hanswer, hsettles, hnot, Outcome.mapError]
    | fault reason =>
      refine ⟨htries.inOrder, hstops, ?_, ?_, ?_⟩ <;>
        simp [hanswer, hsettles, hnot, Outcome.mapError]
  · have hlast : ∀ a, t.attempts.getLast? = some a → ∃ log, a.answer = .error log := by
      rintro ⟨c, answer⟩ ha
      have hfailed := hall _ (List.mem_of_getLast? ha)
      cases answer with
      | ok image => cases hfailed
      | fault reason => cases hfailed
      | error log => exact ⟨log, rfl⟩
    refine ⟨htries.inOrder, fun a ha => hall a (List.dropLast_subset _ ha), ?_, ?_, ?_⟩
    · intro image
      simp only [hanswer, Outcome.mapError, reduceCtorEq, false_iff, not_exists, not_and]
      intro a ha himage
      obtain ⟨log, hlog⟩ := hlast a ha
      cases hlog.symm.trans himage
    · intro reason
      simp only [hanswer, Outcome.mapError, reduceCtorEq, false_iff, not_exists, not_and]
      intro a ha hreason
      obtain ⟨log, hlog⟩ := hlast a ha
      cases hlog.symm.trans hreason
    · intro why
      rw [hanswer, Outcome.mapError, Outcome.error.injEq]
      exact ⟨fun heq => ⟨hmap, hall, heq.symm⟩, fun heq => heq.2.2.symm⟩

end Turn

/-- Compile what is asked, one request after another, and give the answers. -/
def compileAll (P : Platform S σ F E) (compilers : List (Compiler S σ)) :
    List Request → Act S (σ × Notice) KernelError (List (Outcome KernelError Image))
  | [] => pure []
  | r :: rest => do
    let answer ← (compileWith P compilers r.source r.target r.device).attempt
    let answers ← compileAll P compilers rest
    pure (answer :: answers)

/-- Turns in a row, each from the state that the one before it led to. -/
inductive Row (P : Platform S σ F E) (compilers : List (Compiler S σ)) :
    σ × Notice → List (Turn S σ) → σ × Notice → Prop where
  | nil (q : σ × Notice) : Row P compilers q [] q
  | cons {q q₁ q' : σ × Notice} {t : Turn S σ} {turns : List (Turn S σ)}
      (hgoes : t.Goes P compilers q q₁) (hrest : Row P compilers q₁ turns q') :
      Row P compilers q (t :: turns) q'

variable {compilers : List (Compiler S σ)} {turns : List (Turn S σ)} {q q' : σ × Notice}

/-- Compiling goes in turns. -/
lemma row_of_canEnd {requests : List Request}
    {o : Outcome KernelError (List (Outcome KernelError Image))}
    (hend : (compileAll P compilers requests q).CanEnd (o, q')) :
    ∃ turns : List (Turn S σ), turns.map Turn.request = requests ∧
      o = .ok (turns.map Turn.answer) ∧ Row P compilers q turns q' := by
  induction requests generalizing q q' o with
  | nil =>
    cases Program.canEnd_done_iff.1 hend
    exact ⟨[], rfl, rfl, .nil _⟩
  | cons r rest ih =>
    obtain ⟨⟨o₁, q₁⟩, h₁, h₂⟩ := Program.canEnd_bind_iff.1 hend
    obtain ⟨⟨answer, q₁'⟩, hcompile, h₃⟩ := Program.canEnd_bind_iff.1 h₁
    cases Program.canEnd_done_iff.1 h₃
    obtain ⟨⟨o₂, q₂⟩, hrest, h₄⟩ := Program.canEnd_bind_iff.1 h₂
    obtain ⟨turns, rfl, rfl, hrow⟩ := ih hrest
    cases Program.canEnd_done_iff.1 h₄
    obtain ⟨attempts, records, ended, htries, rfl⟩ := tries_of_canEnd hcompile
    exact ⟨⟨r, attempts, records, _⟩ :: turns, rfl, rfl, .cons ⟨ended, htries, rfl⟩ hrow⟩

namespace Row

lemma inOrder (h : Row P compilers q turns q') : ∀ t ∈ turns, t.InOrder compilers := by
  induction h with
  | nil q => simp
  | cons hgoes _ ih => exact List.forall_mem_cons.2 ⟨hgoes.inOrder, ih⟩

/-- All fallbacks go through the one gate. -/
lemma gated (h : Row P compilers q turns q') :
    (turns.flatMap Turn.records).countP isFallback =
        q.2.recorded (Turn.fallen compilers turns) ∧
      q'.2 = q.2.after (Turn.fallen compilers turns) := by
  induction h with
  | nil q => exact ⟨rfl, rfl⟩
  | cons hgoes _ ih =>
    obtain ⟨_, htries, -⟩ := hgoes
    obtain ⟨hrecords, hgate⟩ := htries.gated
    obtain ⟨hrecords', hgate'⟩ := ih
    rw [hgate] at hrecords' hgate'
    rw [List.flatMap_cons, List.countP_append, hrecords, hrecords', Turn.fallen_cons,
      Notice.recorded_add, Notice.after_add]
    exact ⟨rfl, hgate'⟩

lemma tallied {tally : σ → Nat} (h : Row P compilers q turns q') (htally : Tallies P tally)
    (hleaves : ∀ c ∈ compilers, c.Leaves tally) :
    tally q'.1 = tally q.1 + (turns.flatMap Turn.records).countP isFallback := by
  induction h with
  | nil q => rfl
  | cons hgoes _ ih =>
    obtain ⟨_, htries, -⟩ := hgoes
    rw [ih, htries.tallied htally hleaves, List.flatMap_cons, List.countP_append, Nat.add_assoc]

end Row

/-- Requests for images, whatever they are and however the compilers answer each of them, go in
turns. In every turn the compilers are run in order up to the first that does not fail, and what
that gives is the answer; when all fail, the answer is an error with all their reports in order. Of
all fallbacks in the run, from a compiler that failed to one after it, the policy says how many are
warned of: none, the first, or all. As many warnings are in the log afterwards, where the compilers
write none themselves. -/
theorem fallbacks_noted (P : Platform S σ F E) (compilers : List (Compiler S σ))
    (policy : NoticePolicy) (s : σ) (requests : List Request) :
    (compileAll P compilers requests).Ensures (s, .ofPolicy policy) fun o q =>
      ∃ turns : List (Turn S σ), turns.map Turn.request = requests ∧
        o = .ok (turns.map Turn.answer) ∧ Row P compilers (s, .ofPolicy policy) turns q ∧
        (∀ t ∈ turns, t.InOrder compilers) ∧
        (turns.flatMap Turn.records).countP isFallback =
          policy.recorded (Turn.fallen compilers turns) ∧
        ∀ tally : σ → Nat, Tallies P tally → (∀ c ∈ compilers, c.Leaves tally) →
          tally q.1 = tally s + policy.recorded (Turn.fallen compilers turns) := by
  intro o q hend
  obtain ⟨turns, hrequests, ho, hrow⟩ := row_of_canEnd hend
  have hrecords : (turns.flatMap Turn.records).countP isFallback =
      policy.recorded (Turn.fallen compilers turns) :=
    hrow.gated.1.trans (Notice.recorded_ofPolicy policy _)
  refine ⟨turns, hrequests, ho, hrow, hrow.inOrder, hrecords, ?_⟩
  intro tally htally hleaves
  rw [hrow.tallied htally hleaves, hrecords]

/-- The compilers of an accelerator: whatever the machine answers, three requests are warned of at
most once. -/
theorem fallbacks_noted_accelerator :
    (compileAll (Cuda.platform 1) (Cuda.compilers .none)
      (List.replicate 3 ⟨⟨"__global__ void k()", "k", .unit, 1024⟩, ⟨"80", "/opt"⟩, 0⟩)).Ensures
      (CudaState.empty, .ofPolicy .once) fun _ q => q.1.log.countP isFallback ≤ 1 := by
  have htally : Tallies (Cuda.platform 1) fun s => s.log.countP isFallback := by
    intro record s
    refine List.countP_append.trans (congrArg _ ?_)
    rw [List.countP_singleton]
    cases isFallback record <;> rfl
  refine (fallbacks_noted _ _ .once CudaState.empty _).mono ?_
  rintro o q ⟨turns, -, -, -, -, -, hcount⟩
  rw [hcount _ htally fun c hc => Cuda.leaves_of_mem_compilers hc _]
  exact le_of_eq_of_le (Nat.zero_add _) (Nat.min_le_right _ _)

end Compiler

end ExpertExchange
