import ExpertExchange.Kernel.Invoker
import ExpertExchange.Proofs.Act.Mirrored
import Mathlib.Data.List.Forall2

/-!
# Platforms that mirror each other

Where every operation of a platform mirrors the operation of another, compilers and invokers on the
two mirror each other as well.
-/

namespace ExpertExchange

open Act

variable {S : Service} {σ τ F E ε : Type} {R : τ → σ → Prop} {P' : Platform S τ F E}
  {P : Platform S σ F E}

/-- Every operation of the first platform does what that of the second one does. -/
structure Platform.Mirrors (R : τ → σ → Prop) (P' : Platform S τ F E) (P : Platform S σ F E) :
    Prop where
  name : P'.name = P.name
  deviceCount : P'.deviceCount = P.deviceCount
  arch : ∀ {device}, (P'.arch device).Mirrors R (P.arch device)
  stream : ∀ {device kind}, (P'.stream device kind).Mirrors R (P.stream device kind)
  alloc : ∀ {dtype shape owner}, (P'.alloc dtype shape owner).Mirrors R (P.alloc dtype shape owner)
  recordStream : ∀ {b stream}, (P'.recordStream b stream).Mirrors R (P.recordStream b stream)
  write : ∀ {b content}, (P'.write b content).Mirrors R (P.write b content)
  load : ∀ {device image entry bound},
    (P'.load device image entry bound).Mirrors R (P.load device image entry bound)
  launch : ∀ {f geometry args stream},
    (P'.launch f geometry args stream).Mirrors R (P.launch f geometry args stream)
  occupancy : ∀ {f}, (P'.occupancy f).Mirrors R (P.occupancy f)
  createEvent : ∀ {device slot}, (P'.createEvent device slot).Mirrors R (P.createEvent device slot)
  recordEvent : ∀ {e stream}, (P'.recordEvent e stream).Mirrors R (P.recordEvent e stream)
  waitEvent : ∀ {e stream}, (P'.waitEvent e stream).Mirrors R (P.waitEvent e stream)
  retain : ∀ {b}, (P'.retain b).Mirrors R (P.retain b)
  release : ∀ {b}, (P'.release b).Mirrors R (P.release b)
  destroyEvent : ∀ {e}, (P'.destroyEvent e).Mirrors R (P.destroyEvent e)
  record : ∀ {r t s}, R t s → R (P'.record r t) (P.record r s)

namespace Platform.Mirrors

lemma log (hP : P'.Mirrors R P) {level : LogLevel} {origin : LogOrigin} {message : String}
    {fields : List (String × LogValue)} :
    (P'.log level origin message fields : Act S τ ε Unit).Mirrors R
      (P.log level origin message fields) :=
  .modify fun _ _ h => hP.record h

lemma releaseAll (hP : P'.Mirrors R P) (buffers : List Buffer) :
    (P'.releaseAll buffers).Mirrors R (P.releaseAll buffers) := .forEach fun _ => hP.release

end Platform.Mirrors

namespace Compiler

/-- The first compiler has the name of the second one, and does what that does. -/
structure Mirrors (R : τ → σ → Prop) (c' : Compiler S τ) (c : Compiler S σ) : Prop where
  name : c'.name = c.name
  compile : ∀ source target, (c'.compile source target).Mirrors R (c.compile source target)

variable {compilers' : List (Compiler S τ)} {compilers : List (Compiler S σ)}

lemma mirrors_noteFallback (hP : P'.Mirrors R P) {entry log : String} {c' : Compiler S τ}
    {c : Compiler S σ} (hc : c'.Mirrors R c)
    (hrest : List.Forall₂ (Mirrors R) compilers' compilers) :
    (noteFallback P' entry c' log compilers').Mirrors (Both R Eq)
      (noteFallback P entry c log compilers) := by
  cases hrest with
  | nil => exact .pure ()
  | @cons next' next _ _ hnext hrest =>
    refine .viewing ?_
    rintro ⟨t, n⟩ ⟨s, _⟩ ⟨h, rfl⟩
    refine .bind (.modify ?_) ?_
    · rintro ⟨t, n⟩ ⟨s, _⟩ ⟨h, rfl⟩
      exact ⟨h, rfl⟩
    intro _
    rw [hc.name, hnext.name]
    exact .ite (.first hP.log) (.pure ())

lemma mirrors_tryEach (hP : P'.Mirrors R P) {source : KernelSource} {target : CompileTarget}
    {device : Nat} (h : List.Forall₂ (Mirrors R) compilers' compilers) (logs : List String) :
    (tryEach P' source target device compilers' logs).Mirrors (Both R Eq)
      (tryEach P source target device compilers logs) := by
  induction h generalizing logs with
  | nil => exact .fail _
  | @cons c' c _ _ hc hrest ih =>
    refine .bind (.first (.attempt (hc.compile source target))) ?_
    intro o
    cases o with
    | ok image =>
      change Act.Mirrors _ (Act.bind ((P'.log .debug .compiler _ _).within Part.first) _)
        (Act.bind ((P.log .debug .compiler _ _).within Part.first) _)
      rw [hc.name]
      refine .bind (.first hP.log) ?_
      intro _
      exact .pure image
    | error log =>
      refine .bind (mirrors_noteFallback hP hc hrest) ?_
      intro _
      rw [hc.name]
      exact ih _
    | fault reason => exact .fault reason

end Compiler

namespace Invoker

/-- The invoker with other compilers, which may work on another state. -/
def withCompilers (i : Invoker S σ F) (compilers : List (Compiler S τ)) : Invoker S τ F :=
  ⟨compilers, i.notice, i.cache, i.archs, i.sdkHome, i.compilations, i.launches⟩

/-- The second invoker has some compilers, and the first one is the same with others. -/
structure Twin (compilers' : List (Compiler S τ)) (compilers : List (Compiler S σ))
    (i' : Invoker S τ F) (i : Invoker S σ F) : Prop where
  compilers_eq : i.compilers = compilers
  eq : i' = i.withCompilers compilers'

variable {compilers' : List (Compiler S τ)} {compilers : List (Compiler S σ)} {α : Type}
  {device : Nat} {handle : KernelHandle} {source : KernelSource}

/-- Related platforms, and invokers that differ in their compilers only. -/
abbrev Twins (R : τ → σ → Prop) (compilers' : List (Compiler S τ))
    (compilers : List (Compiler S σ)) :
    τ × Invoker S τ F → σ × Invoker S σ F → Prop := Both R (Twin compilers' compilers)

lemma mirrors_onPlatform {m' : Act S τ DeviceError α} {m : Act S σ DeviceError α}
    (hm : m'.Mirrors R m) :
    (onPlatform m' : Act S (τ × Invoker S τ F) KernelError α).Mirrors (Twins R compilers' compilers)
      (onPlatform m) := .first (.mapError hm)

lemma mirrors_log (hP : P'.Mirrors R P) {level : LogLevel} {message : String}
    {fields : List (String × LogValue)} :
    (log P' level message fields).Mirrors (Twins R compilers' compilers)
      (log P level message fields) := .first hP.log

lemma mirrors_inject (hP : P'.Mirrors R P) (text : String) :
    (inject P' text).Mirrors (Twins R compilers' compilers) (inject P text) := by
  unfold inject
  cases KernelSource.parse text with
  | error why => exact .fail _
  | ok source =>
    refine .bind (mirrors_log hP) ?_
    intro _
    refine .viewing ?_
    rintro ⟨t, _⟩ ⟨s, i⟩ ⟨h, -, rfl⟩
    refine .bind (.modify ?_) ?_
    · rintro ⟨t, _⟩ ⟨s, i⟩ ⟨h, hi, rfl⟩
      exact ⟨h, hi, rfl⟩
    intro _
    exact .pure _

lemma mirrors_setSdkHome (hP : P'.Mirrors R P) (path : String) :
    (setSdkHome P' path).Mirrors (Twins R compilers' compilers) (setSdkHome P path) := by
  refine .bind (.modify ?_) ?_
  · rintro ⟨t, _⟩ ⟨s, i⟩ ⟨h, hi, rfl⟩
    exact ⟨h, hi, rfl⟩
  · intro _
    exact mirrors_log hP

lemma mirrors_checkDevice :
    (checkDevice device : Act S (τ × Invoker S τ F) KernelError Unit).Mirrors
      (Twins R compilers' compilers) (checkDevice device) := by
  refine .viewing ?_
  rintro ⟨t, _⟩ ⟨s, i⟩ ⟨h, -, rfl⟩
  exact .ensure (device < i.archs.length) _

lemma mirrors_arch (hP : P'.Mirrors R P) :
    (arch P' device).Mirrors (Twins R compilers' compilers) (arch P device) := by
  have hask : Mirrors (Twins R compilers' compilers)
      (do
        let name ← onPlatform (P'.arch device)
        Act.modify fun s => (s.1, { s.2 with archs := s.2.archs.set device (some name) })
        pure name : Act S (τ × Invoker S τ F) KernelError String)
      (do
        let name ← onPlatform (P.arch device)
        Act.modify fun s => (s.1, { s.2 with archs := s.2.archs.set device (some name) })
        pure name) := by
    refine .bind (mirrors_onPlatform hP.arch) ?_
    intro name
    refine .bind (.modify ?_) ?_
    · rintro ⟨t, _⟩ ⟨s, i⟩ ⟨h, hi, rfl⟩
      exact ⟨h, hi, rfl⟩
    intro _
    exact .pure name
  refine .bind mirrors_checkDevice ?_
  intro _
  refine .viewing ?_
  rintro ⟨t, _⟩ ⟨s, i⟩ ⟨h, -, rfl⟩
  have hsame : (i.withCompilers compilers').archs = i.archs := rfl
  dsimp only
  rw [hsame]
  rcases i.archs[device]? with _ | (_ | name)
  · exact hask
  · exact hask
  · exact .pure name

lemma mirrors_source :
    (Invoker.source handle : Act S (τ × Invoker S τ F) KernelError KernelSource).Mirrors
      (Twins R compilers' compilers) (Invoker.source handle) := by
  refine .bind ?_ ?_
  · rintro ⟨t, _⟩ ⟨s, i⟩ ⟨h, hi, rfl⟩
    exact .done ⟨rfl, h, hi, rfl⟩
  · intro k
    exact .pure k.source

lemma mirrors_build (hP : P'.Mirrors R P)
    (hcompilers : List.Forall₂ (Compiler.Mirrors R) compilers' compilers) :
    (build P' device source).Mirrors (Twins R compilers' compilers) (build P device source) := by
  refine .bind (mirrors_arch hP) ?_
  intro name
  refine .viewing ?_
  rintro ⟨t, _⟩ ⟨s, i⟩ ⟨h, rfl, rfl⟩
  refine .bind (.within ⟨?_, ?_⟩ (Compiler.mirrors_tryEach hP hcompilers [])) ?_
  · rintro ⟨t, _⟩ ⟨s, i⟩ ⟨h, -, rfl⟩
    exact ⟨h, rfl⟩
  · rintro ⟨t, _⟩ ⟨s, i⟩ ⟨t₁, n⟩ ⟨s₁, _⟩ ⟨h, hi, rfl⟩ ⟨h₁, rfl⟩
    exact ⟨h₁, hi, rfl⟩
  intro image
  refine .bind (mirrors_onPlatform hP.load) ?_
  intro f
  refine .bind (.modify ?_) ?_
  · rintro ⟨t, _⟩ ⟨s, i⟩ ⟨h, hi, rfl⟩
    exact ⟨h, hi, rfl⟩
  intro _
  exact .pure f

lemma mirrors_function (hP : P'.Mirrors R P)
    (hcompilers : List.Forall₂ (Compiler.Mirrors R) compilers' compilers) :
    (function P' handle device).Mirrors (Twins R compilers' compilers)
      (function P handle device) := by
  refine .bind mirrors_checkDevice ?_
  intro _
  refine .bind ?_ ?_
  · rintro ⟨t, _⟩ ⟨s, i⟩ ⟨h, hi, rfl⟩
    exact .done ⟨rfl, h, hi, rfl⟩
  rintro ⟨source, _ | f⟩
  · refine .bind (mirrors_build hP hcompilers) ?_
    intro f
    refine .bind (.modify ?_) ?_
    · rintro ⟨t, _⟩ ⟨s, i⟩ ⟨h, hi, rfl⟩
      exact ⟨h, hi, rfl⟩
    intro _
    exact .pure f
  · exact .pure f

lemma mirrors_invokeOn (hP : P'.Mirrors R P)
    (hcompilers : List.Forall₂ (Compiler.Mirrors R) compilers' compilers) {stream : Stream}
    {buffers : List Buffer} {scalars : List Scalar} {geometry : GeometryOverride} :
    (invokeOn P' stream handle buffers scalars geometry).Mirrors (Twins R compilers' compilers)
      (invokeOn P stream handle buffers scalars geometry) := by
  refine .bind (.ofOutcome _) ?_
  intro _
  refine .bind (mirrors_function hP hcompilers) ?_
  intro f
  refine .bind mirrors_source ?_
  intro declared
  refine .bind (mirrors_log hP) ?_
  intro _
  refine .bind (mirrors_onPlatform hP.launch) ?_
  intro _
  refine .modify ?_
  rintro ⟨t, _⟩ ⟨s, i⟩ ⟨h, hi, rfl⟩
  exact ⟨h, hi, rfl⟩

lemma mirrors_invoke (hP : P'.Mirrors R P)
    (hcompilers : List.Forall₂ (Compiler.Mirrors R) compilers' compilers)
    {buffers : List Buffer} {scalars : List Scalar} {geometry : GeometryOverride} :
    (invoke P' handle device buffers scalars geometry).Mirrors (Twins R compilers' compilers)
      (invoke P handle device buffers scalars geometry) := by
  refine .bind mirrors_checkDevice ?_
  intro _
  refine .bind (mirrors_onPlatform hP.stream) ?_
  intro stream
  exact mirrors_invokeOn hP hcompilers

end Invoker

end ExpertExchange
