import ExpertExchange.Exchange.Context
import ExpertExchange.Proofs.Group.Mirrored
import ExpertExchange.Proofs.Operator.Mirrored

/-!
# Contexts that mirror each other

On a platform and a collective library that mirror others, contexts are created, join and leave
groups and take calls just as on the others.
-/

namespace ExpertExchange

open Act

variable {S : Service} {σ τ F E T ε α : Type} {R : τ → σ → Prop} {P' : Platform S τ F E}
  {P : Platform S σ F E} {X' : Transport S τ T} {X : Transport S σ T} {B' : Backend S τ T}
  {B : Backend S σ T} {compilers' : List (Compiler S τ)} {compilers : List (Compiler S σ)}

namespace RegroupKernels

open Invoker

lemma mirrors_install (hP : P'.Mirrors R P)
    (hcompilers : List.Forall₂ (Compiler.Mirrors R) compilers' compilers) {device : Nat} :
    (install P' device).Mirrors (Twins R compilers' compilers) (install P device) := by
  refine .bind (mirrors_inject hP _) ?_
  intro byte
  refine .bind (mirrors_inject hP _) ?_
  intro vector
  refine .bind (mirrors_function hP hcompilers) ?_
  intro f
  refine .bind (mirrors_onPlatform hP.occupancy) ?_
  intro occupied
  refine .bind (.first hP.log) ?_
  intro _
  exact .pure _

lemma mirrors_launch (k : RegroupKernels) (hP : P'.Mirrors R P)
    (hcompilers : List.Forall₂ (Compiler.Mirrors R) compilers' compilers) {stream : Stream}
    {out input : Buffer} {chunk height width : Nat} :
    (k.launch P' stream out input chunk height width).Mirrors (Twins R compilers' compilers)
      (k.launch P stream out input chunk height width) := mirrors_invokeOn hP hcompilers

end RegroupKernels

namespace Slots

variable {device index : Nat} {str : Stream} {kind : StreamKind} {b : Buffer}

abbrev Twins (R : τ → σ → Prop) : τ × Slots E → σ × Slots E → Prop := Both R Eq

lemma mirrors_onPlatform {m' : Act S τ DeviceError α} {m : Act S σ DeviceError α}
    (hm : m'.Mirrors R m) :
    (onPlatform m' : Act S (τ × Slots E) ExchangeError α).Mirrors (Twins R) (onPlatform m) :=
  .first (.mapError hm)

lemma mirrors_destroyAll (hP : P'.Mirrors R P) {events : List E} :
    (destroyAll P' events).Mirrors R (destroyAll P events) := .forEach fun _ => hP.destroyEvent

lemma mirrors_createFrom (hP : P'.Mirrors R P) (count first : Nat) (made : List E) :
    (createFrom P' device first count made).Mirrors R (createFrom P device first count made) := by
  induction count generalizing first made with
  | zero => exact .pure made
  | succ count ih =>
    refine .bind (.orElseClean hP.createEvent (mirrors_destroyAll hP)) ?_
    intro e
    exact ih _ _

lemma mirrors_create (hP : P'.Mirrors R P) {count : Nat} :
    (create P' device count).Mirrors R (create P device count) := by
  refine .bind (.mapError (mirrors_createFrom hP _ _ _)) ?_
  intro events
  refine .bind hP.log ?_
  intro _
  exact .pure _

lemma mirrors_event :
    (event index : Act S (τ × Slots E) ExchangeError E).Mirrors (Twins R) (event index) := by
  rintro ⟨t, p⟩ ⟨s, _⟩ ⟨h, rfl⟩
  exact .done ⟨rfl, h, rfl⟩

lemma mirrors_transition (hP : P'.Mirrors R P) {next : SlotState} :
    (transition P' index next).Mirrors (Twins R) (transition P index next) := by
  refine .viewing ?_
  rintro ⟨t, p⟩ ⟨s, _⟩ ⟨h, rfl⟩
  cases p.slots[index]? with
  | none => exact .fault none
  | some slot =>
    have henter : Mirrors (Twins R)
        (Act.modify fun s => (s.1, { s.2 with slots := s.2.slots.set index (slot.enter next) }) :
          Act S (τ × Slots E) ExchangeError Unit)
        (Act.modify fun s =>
          (s.1, { s.2 with slots := s.2.slots.set index (slot.enter next) })) := by
      refine .modify ?_
      rintro ⟨t, p⟩ ⟨s, _⟩ ⟨h, rfl⟩
      exact ⟨h, rfl⟩
    dsimp only
    cases slot.warning? index next with
    | none => exact henter
    | some warning => exact .bind (.first hP.log) fun _ => henter

lemma mirrors_release (hP : P'.Mirrors R P) :
    (release P' index str).Mirrors (Twins R) (release P index str) := by
  refine .bind mirrors_event ?_
  intro e
  refine .bind (mirrors_onPlatform hP.recordEvent) ?_
  intro _
  exact mirrors_transition hP

lemma mirrors_acquire (hP : P'.Mirrors R P) {buffers : List Buffer} :
    (acquire P' index str buffers).Mirrors (Twins R) (acquire P index str buffers) := by
  refine .bind mirrors_event ?_
  intro e
  refine .bind (mirrors_onPlatform hP.waitEvent) ?_
  intro _
  refine .bind (mirrors_transition hP) ?_
  intro _
  refine .bind (.forEach fun _ => mirrors_onPlatform hP.recordStream) ?_
  intro _
  exact mirrors_transition hP

lemma mirrors_stream (hP : P'.Mirrors R P) :
    (stream P' kind : Act S (τ × Slots E) ExchangeError Stream).Mirrors (Twins R)
      (stream P kind) := by
  refine .viewing ?_
  rintro ⟨t, p⟩ ⟨s, _⟩ ⟨h, rfl⟩
  exact mirrors_onPlatform hP.stream

lemma mirrors_releaseOn (hP : P'.Mirrors R P) :
    (releaseOn P' kind b index).Mirrors (Twins R) (releaseOn P kind b index) := by
  refine .bind (mirrors_stream hP) ?_
  intro str
  refine .bind (mirrors_release hP) ?_
  intro _
  refine .bind (mirrors_onPlatform hP.retain) ?_
  intro _
  exact .pure b

lemma mirrors_acquireOn (hP : P'.Mirrors R P) :
    (acquireOn P' kind b index).Mirrors (Twins R) (acquireOn P kind b index) := by
  refine .bind (mirrors_stream hP) ?_
  intro str
  refine .bind (mirrors_acquire hP) ?_
  intro _
  refine .bind (mirrors_onPlatform hP.retain) ?_
  intro _
  exact .pure b

lemma mirrors_close (hP : P'.Mirrors R P) :
    (close P' : Act S (τ × Slots E) ExchangeError Unit).Mirrors (Twins R) (close P) := by
  refine .viewing ?_
  rintro ⟨t, p⟩ ⟨s, _⟩ ⟨h, rfl⟩
  exact mirrors_onPlatform (mirrors_destroyAll hP)

end Slots

namespace Scheduler

variable {str comm compute : Stream} {kind : StreamKind} {p : Split} {input output : Buffer}
  {inputs outputs : List Buffer} {shape : List Nat} {stages slices stage j : Nat}
  {direction : Direction} {h : Hierarchy}

/-- Related platforms, invokers that differ in their compilers only, and the same scheduler. -/
abbrev Twins (R : τ → σ → Prop) (compilers' : List (Compiler S τ))
    (compilers : List (Compiler S σ)) : Engine S τ F E T → Engine S σ F E T → Prop :=
  Both R (Both (Invoker.Twin compilers' compilers) Eq)

lemma mirrors_create (hP : P'.Mirrors R P) (hX : X'.Mirrors R X)
    (hcompilers : List.Forall₂ (Compiler.Mirrors R) compilers' compilers) {settings : Settings}
    {c : Communicator T} :
    (create P' X' settings c).Mirrors (Invoker.Twins R compilers' compilers)
      (create P X settings c) := by
  unfold create
  rw [hX.device]
  refine .orElseClean ?_ (.first (.alongside (Communicator.mirrors_onLink hX.close)))
  refine .bind (.first (Slots.mirrors_create hP)) ?_
  intro slots
  refine .bind (.orElseClean (.mapError (RegroupKernels.mirrors_install hP hcompilers)) ?_) ?_
  · exact .first (.alongside (Slots.mirrors_close hP))
  intro regroup
  refine .bind (.first hP.log) ?_
  intro _
  exact .pure _

lemma mirrors_onPlatform {m' : Act S τ DeviceError α} {m : Act S σ DeviceError α}
    (hm : m'.Mirrors R m) :
    (onPlatform m' : Act S (Engine S τ F E T) ExchangeError α).Mirrors
      (Twins R compilers' compilers) (onPlatform m) := .first (.mapError hm)

/-- On the platform and a part of the scheduler. -/
lemma mirrors_part {ρ : Type} (get : Scheduler E T → ρ) (put : Scheduler E T → ρ → Scheduler E T)
    {m' : Act S (τ × ρ) ε α} {m : Act S (σ × ρ) ε α} (hm : m'.Mirrors (Both R Eq) m) :
    (m'.within ⟨fun e => (e.1, get e.2.2), fun e p => (p.1, (e.2.1, put e.2.2 p.2))⟩ :
      Act S (Engine S τ F E T) ε α).Mirrors (Twins R compilers' compilers)
      (m.within ⟨fun e => (e.1, get e.2.2), fun e p => (p.1, (e.2.1, put e.2.2 p.2))⟩) := by
  refine .within ⟨?_, ?_⟩ hm
  · rintro ⟨t, i', c⟩ ⟨s, i, _⟩ ⟨h, hi, rfl⟩
    exact ⟨h, rfl⟩
  · rintro ⟨t, i', c⟩ ⟨s, i, _⟩ ⟨t₁, q⟩ ⟨s₁, _⟩ ⟨h, hi, rfl⟩ ⟨h₁, rfl⟩
    exact ⟨h₁, hi, rfl⟩

lemma mirrors_onComm {m' : Act S (τ × Communicator T) ε α} {m : Act S (σ × Communicator T) ε α}
    (hm : m'.Mirrors (Communicator.Twins R) m) :
    (onComm m' : Act S (Engine S τ F E T) ε α).Mirrors (Twins R compilers' compilers)
      (onComm m) := mirrors_part (·.comm) (fun c comm => { c with comm }) hm

lemma mirrors_onLink {m' : Act S (τ × T) ε α} {m : Act S (σ × T) ε α}
    (hm : m'.Mirrors (Both R Eq) m) :
    (onLink m' : Act S (Engine S τ F E T) ε α).Mirrors (Twins R compilers' compilers)
      (onLink m) :=
  mirrors_part (·.comm.link) (fun c link => { c with comm := { c.comm with link } }) hm

lemma mirrors_onSlots {m' : Act S (τ × Slots E) ε α} {m : Act S (σ × Slots E) ε α}
    (hm : m'.Mirrors (Slots.Twins R) m) :
    (onSlots m' : Act S (Engine S τ F E T) ε α).Mirrors (Twins R compilers' compilers)
      (onSlots m) := mirrors_part (·.slots) (fun c slots => { c with slots }) hm

lemma mirrors_onInvoker {m' : Act S (τ × Invoker S τ F) ε α} {m : Act S (σ × Invoker S σ F) ε α}
    (hm : m'.Mirrors (Invoker.Twins R compilers' compilers) m) :
    (m'.within invokerPart : Act S (Engine S τ F E T) ε α).Mirrors (Twins R compilers' compilers)
      (m.within invokerPart) :=
  .within ⟨fun h => ⟨h.1, h.2.1⟩, fun h h₁ => ⟨h₁.1, h₁.2, h.2.2⟩⟩ hm

lemma mirrors_stream (hP : P'.Mirrors R P) (hX : X'.Mirrors R X) :
    (stream P' X' kind).Mirrors (Twins R compilers' compilers) (stream P X kind) :=
  mirrors_onComm (Communicator.mirrors_stream hP hX)

lemma mirrors_plan {total : Nat} :
    (plan total stages slices direction : Act S (Engine S τ F E T) ExchangeError Split).Mirrors
      (Twins R compilers' compilers) (plan total stages slices direction) := by
  refine .viewing ?_
  rintro ⟨t, i', c⟩ ⟨s, i, _⟩ ⟨h, hi, rfl⟩
  exact .ofOutcome _

lemma mirrors_allocStages (hP : P'.Mirrors R P) {dtype : Dtype} {owner user : Stream}
    (count : Nat) (made : List Buffer) :
    (allocStages P' dtype shape owner user count made).Mirrors R
      (allocStages P dtype shape owner user count made) := by
  induction count generalizing made with
  | zero => exact .pure made
  | succ count ih =>
    refine .bind (.orElseClean (.bind hP.alloc ?_) (hP.releaseAll made)) ?_
    · intro b
      refine .bind (.orElseClean hP.recordStream hP.release) ?_
      intro _
      exact .pure b
    · intro b
      exact ih _

lemma mirrors_exchangeRanges (hX : X'.Mirrors R X) {peer : Outcome ExchangeError Nat}
    {sent received : Outcome ExchangeError ByteRange} :
    (exchangeRanges X' input output str peer sent received).Mirrors (Both R Eq)
      (exchangeRanges X input output str peer sent received) := by
  refine .bind (.ofOutcome _) ?_
  intro rank
  refine .bind (.ofOutcome _) ?_
  intro part
  refine .bind hX.send ?_
  intro _
  refine .bind (.ofOutcome _) ?_
  intro part
  exact hX.recv

lemma mirrors_scatterStage (hP : P'.Mirrors R P) (hX : X'.Mirrors R X) :
    (scatterStage P' X' p input outputs str stage).Mirrors (Twins R compilers' compilers)
      (scatterStage P X p input outputs str stage) := by
  refine .bind (.ofOutcome _) ?_
  intro output
  refine .bind (mirrors_onLink (Communicator.mirrors_inRound hX (.forEach ?_))) ?_
  · intro j
    exact mirrors_exchangeRanges hX
  · intro _
    exact mirrors_onSlots (Slots.mirrors_release hP)

lemma mirrors_scatter (hP : P'.Mirrors R P) (hX : X'.Mirrors R X) :
    (scatter P' X' input shape stages slices direction).Mirrors (Twins R compilers' compilers)
      (scatter P X input shape stages slices direction) := by
  refine .bind (mirrors_onComm (Communicator.mirrors_checkDevice hX)) ?_
  intro _
  refine .bind (.ofOutcome _) ?_
  intro total
  refine .bind mirrors_plan ?_
  intro p
  refine .bind (.ofOutcome _) ?_
  intro _
  refine .bind (mirrors_stream hP hX) ?_
  intro comm
  refine .bind (mirrors_stream hP hX) ?_
  intro compute
  refine .bind (mirrors_onPlatform hP.recordStream) ?_
  intro _
  refine .bind (mirrors_onPlatform (mirrors_allocStages hP _ _)) ?_
  intro outputs
  refine .bind (.orElseClean ?_ (mirrors_onPlatform (hP.releaseAll outputs))) ?_
  · refine .bind (mirrors_onSlots (Slots.mirrors_acquire hP)) ?_
    intro _
    exact .forEach fun _ => mirrors_scatterStage hP hX
  · intro _
    exact .pure outputs

lemma mirrors_gatherStage (hP : P'.Mirrors R P) (hX : X'.Mirrors R X) :
    (gatherStage P' X' p inputs output str stage).Mirrors (Twins R compilers' compilers)
      (gatherStage P X p inputs output str stage) := by
  refine .bind (.ofOutcome _) ?_
  intro input
  refine .bind (mirrors_onSlots (Slots.mirrors_acquire hP)) ?_
  intro _
  refine mirrors_onLink (Communicator.mirrors_inRound hX (.forEach ?_))
  intro j
  exact mirrors_exchangeRanges hX

lemma mirrors_checkStageBuffers {op : String} {dtype : Dtype} :
    (checkStageBuffers op p dtype inputs : Act S (Engine S τ F E T) ExchangeError Unit).Mirrors
      (Twins R compilers' compilers) (checkStageBuffers op p dtype inputs) := by
  refine .forEach ?_
  intro b
  refine .bind (.ofOutcome b.byteCount) ?_
  intro bytes
  refine .ite (.pure ()) (.bind (.ofOutcome _) ?_)
  intro count
  exact .fail _

lemma mirrors_gather (hP : P'.Mirrors R P) (hX : X'.Mirrors R X) :
    (gather P' X' inputs shape stages slices direction).Mirrors (Twins R compilers' compilers)
      (gather P X inputs shape stages slices direction) := by
  refine .bind (.ensure (inputs.length = stages) _) ?_
  intro _
  cases inputs with
  | nil => exact .fail _
  | cons first rest =>
    refine .bind (mirrors_onComm (Communicator.mirrors_checkAlike hX)) ?_
    intro _
    refine .bind (.ofOutcome _) ?_
    intro total
    refine .bind mirrors_plan ?_
    intro p
    refine .bind mirrors_checkStageBuffers ?_
    intro _
    refine .bind (mirrors_stream hP hX) ?_
    intro comm
    refine .bind (mirrors_stream hP hX) ?_
    intro compute
    refine .bind (.forEach fun _ => mirrors_onPlatform hP.recordStream) ?_
    intro _
    refine .bind (mirrors_onPlatform hP.alloc) ?_
    intro output
    refine .bind (.orElseClean ?_ (mirrors_onPlatform hP.release)) ?_
    · refine .bind (mirrors_onPlatform hP.recordStream) ?_
      intro _
      refine .bind (.forEach fun _ => mirrors_gatherStage hP hX) ?_
      intro _
      exact mirrors_onSlots (Slots.mirrors_release hP)
    · intro _
      exact .pure output

/-- A round of blocks, one with every rank of a list. -/
lemma mirrors_blocks (hX : X'.Mirrors R X) {ranks : List Nat}
    {peer : Nat → Outcome ExchangeError Nat} {range : Nat → Outcome ExchangeError ByteRange} :
    (onLink (Communicator.inRound X' (Act.forEach ranks fun i =>
      exchangeBlock X' input output str (peer i) (range i))) :
      Act S (Engine S τ F E T) ExchangeError Unit).Mirrors (Twins R compilers' compilers)
      (onLink (Communicator.inRound X (Act.forEach ranks fun i =>
        exchangeBlock X input output str (peer i) (range i)))) := by
  simp only [exchangeBlock_eq]
  exact mirrors_onLink (Communicator.mirrors_inRound hX (.forEach fun _ =>
    mirrors_exchangeRanges hX))

lemma mirrors_noteFlat (hP : P'.Mirrors R P) :
    (noteFlat P' h : Act S (Engine S τ F E T) ExchangeError Unit).Mirrors
      (Twins R compilers' compilers) (noteFlat P h) := by
  refine .viewing ?_
  rintro ⟨t, i', c⟩ ⟨s, i, _⟩ ⟨-, -, rfl⟩
  refine .bind (.modify ?_) ?_
  · rintro ⟨t, i', c⟩ ⟨s, i, _⟩ ⟨h, hi, rfl⟩
    exact ⟨h, hi, rfl⟩
  · intro _
    exact .ite (.first hP.log) (.pure ())

lemma mirrors_exchangeFlat (hP : P'.Mirrors R P) (hX : X'.Mirrors R X) :
    (exchangeFlat P' X' h input output comm compute).Mirrors (Twins R compilers' compilers)
      (exchangeFlat P X h input output comm compute) := by
  refine .bind (mirrors_noteFlat hP) ?_
  intro _
  refine .bind (mirrors_blocks hX) ?_
  intro _
  exact mirrors_onPlatform hP.recordStream

lemma mirrors_regroupChunks (hP : P'.Mirrors R P)
    (hcompilers : List.Forall₂ (Compiler.Mirrors R) compilers' compilers)
    {chunk height width : Nat} :
    (regroupChunks P' str output input chunk height width :
      Act S (Engine S τ F E T) ExchangeError Unit).Mirrors (Twins R compilers' compilers)
      (regroupChunks P str output input chunk height width) := by
  refine .viewing ?_
  rintro ⟨t, i', c⟩ ⟨s, i, _⟩ ⟨-, -, rfl⟩
  exact mirrors_onInvoker (.mapError (c.regroup.mirrors_launch hP hcompilers))

lemma mirrors_exchangeNested (hP : P'.Mirrors R P) (hX : X'.Mirrors R X)
    (hcompilers : List.Forall₂ (Compiler.Mirrors R) compilers' compilers) {between : Buffer} :
    (exchangeNested P' X' h input between comm compute).Mirrors (Twins R compilers' compilers)
      (exchangeNested P X h input between comm compute) := by
  refine .bind (mirrors_regroupChunks hP hcompilers) ?_
  intro _
  refine .bind (mirrors_blocks hX) ?_
  intro _
  refine .bind (mirrors_regroupChunks hP hcompilers) ?_
  intro _
  refine .bind (mirrors_blocks hX) ?_
  intro _
  exact mirrors_onPlatform hP.recordStream

lemma mirrors_exchangeAll (hP : P'.Mirrors R P) (hX : X'.Mirrors R X)
    (hcompilers : List.Forall₂ (Compiler.Mirrors R) compilers' compilers) :
    (exchangeAll P' X' input).Mirrors (Twins R compilers' compilers) (exchangeAll P X input) := by
  refine .bind (mirrors_onComm (Communicator.mirrors_checkDevice hX)) ?_
  intro _
  refine .bind (.ofOutcome _) ?_
  intro total
  refine .viewing ?_
  rintro ⟨t, i', c⟩ ⟨s, i, _⟩ ⟨-, -, rfl⟩
  refine .bind (.ofOutcome _) ?_
  intro h
  refine .bind (mirrors_stream hP hX) ?_
  intro comm
  refine .bind (mirrors_stream hP hX) ?_
  intro compute
  refine .bind (mirrors_onPlatform hP.recordStream) ?_
  intro _
  refine .bind (mirrors_onPlatform hP.alloc) ?_
  intro between
  refine .ite ?_ ?_
  · refine .bind (.orElseClean (mirrors_exchangeFlat hP hX) (mirrors_onPlatform hP.release)) ?_
    intro _
    exact .pure between
  · refine .bind (.andFinally (.bind (mirrors_exchangeNested hP hX hcompilers) ?_)
      (mirrors_onPlatform hP.release)) ?_
    · intro _
      exact mirrors_onPlatform hP.retain
    · intro _
      exact .pure input

lemma mirrors_close (hP : P'.Mirrors R P) (hX : X'.Mirrors R X) :
    (close P' X' : Act S (Engine S τ F E T) ExchangeError Unit).Mirrors
      (Twins R compilers' compilers) (close P X) := by
  refine .bind (mirrors_onComm (Communicator.mirrors_onLink hX.close)) ?_
  intro _
  exact mirrors_onSlots (Slots.mirrors_close hP)

end Scheduler

namespace Context

/-- The context with other compilers, which may work on another state. -/
def withCompilers (c : Context S σ F E T) (compilers : List (Compiler S τ)) : Context S τ F E T :=
  ⟨c.settings, c.invoker.withCompilers compilers, c.add, c.runningLocation, c.global, c.shared⟩

/-- The second context has some compilers, and the first one is the same with others. -/
structure Twin (compilers' : List (Compiler S τ)) (compilers : List (Compiler S σ))
    (c' : Context S τ F E T) (c : Context S σ F E T) : Prop where
  compilers_eq : c.invoker.compilers = compilers
  eq : c' = c.withCompilers compilers'

/-- Related platforms, and contexts that differ in their compilers only. -/
abbrev Twins (R : τ → σ → Prop) (compilers' : List (Compiler S τ))
    (compilers : List (Compiler S σ)) : τ × Context S τ F E T → σ × Context S σ F E T → Prop :=
  Both R (Twin compilers' compilers)

variable {b : Buffer} {id : Bytes} {worldSize rank device : Nat} {group : GroupKind}
  {s : σ × Context S σ F E T} {t : τ × Context S τ F E T}

lemma mirrors_onInvoker {m' : Act S (τ × Invoker S τ F) ε α} {m : Act S (σ × Invoker S σ F) ε α}
    (hm : m'.Mirrors (Invoker.Twins R compilers' compilers) m) :
    (onInvoker m' : Act S (τ × Context S τ F E T) ε α).Mirrors (Twins R compilers' compilers)
      (onInvoker m) := by
  refine .within ⟨?_, ?_⟩ hm
  · rintro ⟨t, _⟩ ⟨s, c⟩ ⟨h, hc, rfl⟩
    exact ⟨h, hc, rfl⟩
  · rintro ⟨t, _⟩ ⟨s, c⟩ ⟨t₁, _⟩ ⟨s₁, i⟩ ⟨h, hc, rfl⟩ ⟨h₁, hi, rfl⟩
    exact ⟨h₁, hi, rfl⟩

lemma mirrors_onPlatform {m' : Act S τ ε α} {m : Act S σ ε α} (hm : m'.Mirrors R m) :
    (onPlatform m' : Act S (τ × Context S τ F E T) ε α).Mirrors (Twins R compilers' compilers)
      (onPlatform m) := .first hm

lemma mirrors_onGlobal {m' : Act S (Engine S τ F E T) ExchangeError α}
    {m : Act S (Engine S σ F E T) ExchangeError α}
    (hm : m'.Mirrors (Scheduler.Twins R compilers' compilers) m) :
    (onGlobal m').Mirrors (Twins R compilers' compilers) (onGlobal m) := by
  rintro ⟨t, _⟩ ⟨s, settings, i, add, running, global, shared⟩ ⟨h, hi, rfl⟩
  cases global with
  | none => exact .done ⟨rfl, h, hi, rfl⟩
  | some scheduler =>
    refine (hm _ (s, (i, scheduler)) ⟨h, ⟨hi, rfl⟩, rfl⟩).bind ?_
    rintro ⟨o', t₁, i', c'⟩ ⟨o, s₁, i₁, c⟩ ⟨ho, h₁, ⟨hi₁, hi'⟩, hc⟩
    dsimp only at ho hi' hc
    subst ho hi' hc
    exact .done ⟨rfl, h₁, hi₁, rfl⟩

lemma mirrors_onShared {m' : Act S (τ × Communicator T) ExchangeError α}
    {m : Act S (σ × Communicator T) ExchangeError α} (hm : m'.Mirrors (Communicator.Twins R) m) :
    (onShared m' : ContextAct S τ F E T α).Mirrors (Twins R compilers' compilers)
      (onShared m) := by
  rintro ⟨t, _⟩ ⟨s, settings, i, add, running, global, shared⟩ ⟨h, hi, rfl⟩
  cases shared with
  | none => exact .done ⟨rfl, h, hi, rfl⟩
  | some comm =>
    refine (hm (t, comm) (s, comm) ⟨h, rfl⟩).bind ?_
    rintro ⟨o, t₁, c⟩ ⟨_, s₁, _⟩ ⟨rfl, h₁, rfl⟩
    exact .done ⟨rfl, h₁, hi, rfl⟩

lemma mirrors_onComm {m' : Act S (τ × Communicator T) ExchangeError α}
    {m : Act S (σ × Communicator T) ExchangeError α} (hm : m'.Mirrors (Communicator.Twins R) m) :
    (onComm group m' : ContextAct S τ F E T α).Mirrors (Twins R compilers' compilers)
      (onComm group m) := by
  cases group with
  | global => exact mirrors_onGlobal (Scheduler.mirrors_onComm hm)
  | shared => exact mirrors_onShared hm

/-- A context is created just as the other one. -/
lemma exists_create {s s' : σ} {t : τ} {settings : Settings} {ctx : Context S σ F E T}
    (hP : P'.Mirrors R P) (hB : B'.Mirrors R B) (h : R t s)
    (hend : (create P B compilers settings s).CanEnd (.ok ctx, s')) :
    ∃ t', (create P' B' compilers' settings t).CanEnd (.ok (ctx.withCompilers compilers'), t') ∧
      R t' s' ∧ ctx.invoker.compilers = compilers := by
  have hinstall : Mirrors (Invoker.Twins R compilers' compilers)
      (do
        let add ← (AddKernels.install P').mapError .kernel
        let running ← (RunningLocationKernel.install P').mapError .kernel
        (P'.log .debug .context "exchange context created"
          [("platform", .text P'.name), ("backend", .text B'.name),
            ("devices", .number P'.deviceCount)]).within Part.first
        pure (add, running) : Act S (τ × Invoker S τ F) ExchangeError _)
      (do
        let add ← (AddKernels.install P).mapError .kernel
        let running ← (RunningLocationKernel.install P).mapError .kernel
        (P.log .debug .context "exchange context created"
          [("platform", .text P.name), ("backend", .text B.name),
            ("devices", .number P.deviceCount)]).within Part.first
        pure (add, running)) := by
    refine .bind (.mapError (AddKernels.mirrors_install hP)) ?_
    intro add
    refine .bind (.mapError (RunningLocationKernel.mirrors_install hP)) ?_
    intro running
    rw [hP.name, hP.deviceCount, hB.name]
    refine .bind (.first hP.log) ?_
    intro _
    exact .pure _
  obtain ⟨⟨o, s₁, i⟩, h₁, h₂⟩ := Program.canEnd_bind_iff.1 hend
  obtain ⟨⟨o', t₁, i'⟩, h₁', ho, hR, hi, hi'⟩ := (hinstall (t, Invoker.create P'.deviceCount
    compilers' settings) _ ⟨h, rfl, by rw [hP.deviceCount]; rfl⟩).exists_end h₁
  dsimp only at ho hR hi hi'
  subst ho hi'
  cases o' with
  | ok kernels =>
    cases Program.canEnd_done_iff.1 h₂
    exact ⟨t₁, Program.canEnd_bind_iff.2 ⟨_, h₁', .done _⟩, hR, hi⟩
  | error e => cases Program.canEnd_done_iff.1 h₂
  | fault w => cases Program.canEnd_done_iff.1 h₂

lemma mirrors_connect (hP : P'.Mirrors R P) (hB : B'.Mirrors R B) :
    (connect P' B' id worldSize rank device : ContextAct S τ F E T (Communicator T)).Mirrors
      (Twins R compilers' compilers) (connect P B id worldSize rank device) := by
  refine .viewing ?_
  rintro ⟨t, _⟩ ⟨s, c⟩ ⟨-, -, rfl⟩
  refine .bind (mirrors_onPlatform hB.connect) ?_
  intro link
  unfold localSize
  rw [hB.transport.worldSize, hB.transport.rank, hP.deviceCount]
  refine .bind (.orElseClean (.ofOutcome _) (mirrors_onPlatform (.alongside hB.transport.close))) ?_
  intro topology
  exact .pure _

lemma mirrors_checkAbsent :
    (checkAbsent group : ContextAct S τ F E T Unit).Mirrors (Twins R compilers' compilers)
      (checkAbsent group) := by
  refine .viewing ?_
  rintro ⟨t, _⟩ ⟨s, c⟩ ⟨-, -, rfl⟩
  cases group with
  | global => exact .ensure (c.global.isSome = false) _
  | shared => exact .ensure (c.shared.isSome = false) _

lemma mirrors_init (hP : P'.Mirrors R P) (hB : B'.Mirrors R B)
    (hcompilers : List.Forall₂ (Compiler.Mirrors R) compilers' compilers) :
    (init P' B' group id worldSize rank device : ContextAct S τ F E T Unit).Mirrors
      (Twins R compilers' compilers) (init P B group id worldSize rank device) := by
  cases group with
  | global =>
    refine .bind mirrors_checkAbsent ?_
    intro _
    refine .bind (mirrors_connect hP hB) ?_
    intro comm
    refine .viewing ?_
    rintro ⟨t, _⟩ ⟨s, c⟩ ⟨-, -, rfl⟩
    refine .bind (mirrors_onInvoker (Scheduler.mirrors_create hP hB.transport hcompilers)) ?_
    intro scheduler
    rw [hB.name]
    refine .bind (mirrors_onPlatform hP.log) ?_
    intro _
    refine .modify ?_
    rintro ⟨t, _⟩ ⟨s, c⟩ ⟨h, hc, rfl⟩
    exact ⟨h, hc, rfl⟩
  | shared =>
    refine .bind mirrors_checkAbsent ?_
    intro _
    refine .bind (mirrors_connect hP hB) ?_
    intro comm
    rw [hB.name]
    refine .bind (mirrors_onPlatform hP.log) ?_
    intro _
    refine .modify ?_
    rintro ⟨t, _⟩ ⟨s, c⟩ ⟨h, hc, rfl⟩
    exact ⟨h, hc, rfl⟩

lemma mirrors_initFrom (hP : P'.Mirrors R P) (hB : B'.Mirrors R B)
    (hcompilers : List.Forall₂ (Compiler.Mirrors R) compilers' compilers) {launch : Launch} :
    (initFrom P' B' group launch : ContextAct S τ F E T Unit).Mirrors
      (Twins R compilers' compilers) (initFrom P B group launch) := by
  refine .bind mirrors_checkAbsent ?_
  intro _
  refine .bind (mirrors_onPlatform (launch.mirrors_groupId hB)) ?_
  intro id
  exact mirrors_init hP hB hcompilers

lemma mirrors_shutdown (hP : P'.Mirrors R P) (hB : B'.Mirrors R B) :
    (shutdown P' B' : ContextAct S τ F E T Unit).Mirrors (Twins R compilers' compilers)
      (shutdown P B) := by
  have hleave : ∀ comm : Communicator T, Mirrors (Twins R compilers' compilers)
      (do
        onPlatform (P'.log .info .context "shared communicator shut down"
          [("rank", .number comm.topology.rank)])
        onPlatform ((Communicator.close B'.transport).alongside comm)
        Act.modify fun s => (s.1, { s.2 with shared := none }) : ContextAct S τ F E T Unit)
      (do
        onPlatform (P.log .info .context "shared communicator shut down"
          [("rank", .number comm.topology.rank)])
        onPlatform ((Communicator.close B.transport).alongside comm)
        Act.modify fun s => (s.1, { s.2 with shared := none })) := by
    intro comm
    refine .bind (mirrors_onPlatform hP.log) ?_
    intro _
    refine .bind (mirrors_onPlatform
      (.alongside (Communicator.mirrors_onLink hB.transport.close))) ?_
    intro _
    refine .modify ?_
    rintro ⟨t, _⟩ ⟨s, c⟩ ⟨h, hc, rfl⟩
    exact ⟨h, hc, rfl⟩
  refine .viewing ?_
  rintro ⟨t, _⟩ ⟨s, settings, i, add, running, _ | scheduler, shared⟩ ⟨-, -, rfl⟩
  · refine .viewing ?_
    rintro ⟨t, _⟩ ⟨s, settings, i, add, running, global, _ | comm⟩ ⟨-, -, rfl⟩
    · exact .pure ()
    · exact hleave comm
  · refine .bind (mirrors_onPlatform hP.log) ?_
    intro _
    refine .bind ?_ ?_
    · rintro ⟨t, _⟩ ⟨s, c⟩ ⟨h, hc, rfl⟩
      refine (Scheduler.mirrors_close hP hB.transport _ (s, (c.invoker, scheduler))
        ⟨h, ⟨hc, rfl⟩, rfl⟩).bind ?_
      rintro ⟨o', t₁, i', c'⟩ ⟨o, s₁, i₁, c⟩ ⟨ho, h₁, ⟨hi₁, hi'⟩, hc⟩
      dsimp only at ho hi' hc
      subst ho hi' hc
      exact .done ⟨rfl, h₁, hi₁, rfl⟩
    intro _
    refine .viewing ?_
    rintro ⟨t, _⟩ ⟨s, settings, i, add, running, global, _ | comm⟩ ⟨-, -, rfl⟩
    · exact .pure ()
    · exact hleave comm

end Context

end ExpertExchange
