import ExpertExchange.Exchange.Regroup
import ExpertExchange.Proofs.Act.Watched
import ExpertExchange.Proofs.Kernel.Provided

/-!
# Sound kernels

An invoker launches only what its platform has loaded for it. When the platform loads only kernels
that are sound, all kernels in the cache stay sound, and whatever is known of a launch of a sound
kernel is known of an invocation. This holds for every platform, for every notion of soundness, and
for every part of the platform's state that is watched, as long as the compilers leave that alone.
-/

namespace ExpertExchange

/-- What is watched of a platform's state, what a call may do to it, when it is in order, and which
kernels are sound. -/
structure Regime (σ F ω : Type) where
  watch : σ → ω
  Allows : ω → Ending → ω → Prop
  InOrder : ω → Prop
  Sound : F → Prop

variable {S : Service} {σ F E ω α β ε : Type} {P : Platform S σ F E} {K : Regime σ F ω}

/-- The compiler leaves alone what is watched. -/
def Compiler.Leaves (watch : σ → ω) (c : Compiler S σ) : Prop :=
  ∀ source target, (c.compile source target).Spares watch

/-- Loading kernels does what it may, and gives sound kernels while things are in order. -/
structure Regime.Governs (K : Regime σ F ω) (P : Platform S σ F E) : Prop where
  chains : Chains K.Allows
  self : ∀ w ending, K.Allows w ending w
  /-- What is in order stays so. -/
  inOrder : ∀ {w ending w'}, K.Allows w ending w' → K.InOrder w → K.InOrder w'
  arch : ∀ device, (P.arch device).Spares K.watch
  stream : ∀ device kind, (P.stream device kind).Spares K.watch
  /-- Records leave alone what is watched; warnings about event slots need not. -/
  record : ∀ r s, ¬ (r.level = .warn ∧ r.origin = .slots) → K.watch (P.record r s) = K.watch s
  load : ∀ device image entry bound s, (P.load device image entry bound).Ensures s fun o s' =>
    K.Allows (K.watch s) o.ending (K.watch s') ∧
      (K.InOrder (K.watch s) → ∀ f, o = .ok f → K.Sound f)

def KernelCache.AllSound (Sound : F → Prop) (c : KernelCache F) : Prop :=
  ∀ k ∈ c.kernels, ∀ f, some f ∈ k.slots → Sound f

namespace KernelCache.AllSound

variable {Sound : F → Prop} {c : KernelCache F} {handle : KernelHandle} {device : Nat} {f : F}

lemma empty (devices : Nat) : (KernelCache.empty devices).AllSound Sound := by
  intro k hk
  cases hk

/-- A source that is registered anew has nothing loaded. -/
lemma insert (h : c.AllSound Sound) (source : KernelSource) :
    (c.insert source).2.AllSound Sound := by
  intro k hk f hf
  rcases List.mem_append.1 hk with hold | hnew
  · exact h k hold f hf
  · rw [List.mem_singleton.1 hnew] at hf
    cases List.eq_of_mem_replicate hf

lemma of_slot (h : c.AllSound Sound) {source : KernelSource}
    (hslot : c.slot handle device = .ok (source, some f)) : Sound f := by
  obtain ⟨slots, hkernel, hloaded⟩ := slot_eq_iff.1 hslot
  exact h _ (List.mem_of_getElem? hkernel) f (List.mem_of_getElem? hloaded)

/-- An element of a list with one element changed. -/
lemma mem_of_mem_modify {γ : Type} {xs : List γ} {i : Nat} {g : γ → γ} {y : γ}
    (hy : y ∈ xs.modify i g) : ∃ x ∈ xs, y = x ∨ y = g x := by
  obtain ⟨j, hj⟩ := List.getElem?_of_mem hy
  rw [List.getElem?_modify] at hj
  obtain ⟨x, hx, rfl⟩ := Option.map_eq_some_iff.1 hj
  refine ⟨x, List.mem_of_getElem? hx, ?_⟩
  by_cases hi : i = j
  · rw [if_pos hi]
    exact .inr rfl
  · rw [if_neg hi]
    exact .inl rfl

/-- Filling a slot puts nothing else into the cache. -/
lemma fill (h : c.AllSound Sound) (hf : Sound f) : (c.fill handle device f).AllSound Sound := by
  intro k hk f' hf'
  obtain ⟨k₀, hk₀, rfl | rfl⟩ := mem_of_mem_modify hk
  · exact h k hk₀ f' hf'
  · obtain ⟨filled, hfilled, heq | heq⟩ := mem_of_mem_modify hf'
    · exact h k₀ hk₀ f' (heq ▸ hfilled)
    · cases filled with
      | none =>
        cases heq
        exact hf
      | some f₀ => exact h k₀ hk₀ f' (heq ▸ hfilled)

end KernelCache.AllSound

namespace Regime.Governs

variable {level : LogLevel} {origin : LogOrigin}

lemma spares_record (h : K.Governs P) (hplain : ¬ (level = .warn ∧ origin = .slots))
    (message : String) (fields : List (String × LogValue)) :
    (P.log level origin message fields : Act S σ ε Unit).Spares K.watch :=
  .modify fun s => h.record _ s hplain

/-- What is watched of the platform beside a gate for records. -/
def atGate (K : Regime σ F ω) (q : σ × Notice) : ω := K.watch q.1

lemma spares_atGate {m : Act S σ ε α} (hm : m.Spares K.watch) :
    (m.within Part.first).Spares (atGate K) :=
  Act.Changes.within hm (fun _ => rfl) fun _ _ => rfl

lemma spares_noteFallback (h : K.Governs P) (entry : String) (failed : Compiler S σ)
    (log : String) (rest : List (Compiler S σ)) :
    (Compiler.noteFallback P entry failed log rest).Spares (atGate K) := by
  cases rest with
  | nil => exact .pure ()
  | cons next rest =>
    refine .bind (.view _) ?_
    intro fires
    refine .bind (.modify fun _ => rfl) ?_
    intro _
    exact .ite (spares_atGate (h.spares_record (by decide) _ _)) (.pure ())

/-- Trying compilers leaves alone what every one of them leaves alone. -/
lemma spares_tryEach (h : K.Governs P) (source : KernelSource) (target : CompileTarget)
    (device : Nat) {compilers : List (Compiler S σ)} (hleaves : ∀ c ∈ compilers, c.Leaves K.watch)
    (logs : List String) :
    (Compiler.tryEach P source target device compilers logs).Spares (atGate K) := by
  induction compilers generalizing logs with
  | nil => exact .fail _
  | cons c rest ih =>
    have hrest := ih fun c' hc' => hleaves c' (List.mem_cons_of_mem c hc')
    refine .bind (spares_atGate (hleaves c List.mem_cons_self source target).attempt) ?_
    intro o
    cases o with
    | ok image =>
      refine .bind (spares_atGate (h.spares_record (by decide) _ _)) ?_
      intro _
      exact .pure image
    | error log =>
      refine .bind (h.spares_noteFallback _ _ _ _) ?_
      intro _
      exact hrest _
    | fault reason => exact .ofOutcome (.fault reason)

end Regime.Governs

/-- What is watched of a platform and an invoker: of the platform, the compilers and the cache. -/
structure Workbench (S : Service) (σ F ω : Type) where
  watched : ω
  compilers : List (Compiler S σ)
  cache : KernelCache F

namespace Regime

def bench (K : Regime σ F ω) (q : σ × Invoker S σ F) : Workbench S σ F ω :=
  ⟨K.watch q.1, q.2.compilers, q.2.cache⟩

/-- The compilers leave alone what is watched, that is in order, and what is loaded is sound. -/
structure Ready (K : Regime σ F ω) (b : Workbench S σ F ω) : Prop where
  leaves : ∀ c ∈ b.compilers, c.Leaves K.watch
  inOrder : K.InOrder b.watched
  sound : b.cache.AllSound K.Sound

/-- The compilers stay. From a ready bench, the call leads to a ready one, and does what it may. -/
def Works (K : Regime σ F ω) (b : Workbench S σ F ω) (ending : Ending)
    (b' : Workbench S σ F ω) : Prop :=
  b'.compilers = b.compilers ∧
    (K.Ready b → K.Ready b' ∧ K.Allows b.watched ending b'.watched)

namespace Governs

variable {q : σ × Invoker S σ F} {b b' : Workbench S σ F ω} {ending : Ending} {device : Nat}

lemma works_self (h : K.Governs P) (b : Workbench S σ F ω) (ending : Ending) :
    K.Works b ending b :=
  ⟨rfl, fun hready => ⟨hready, h.self _ _⟩⟩

lemma chains_works (h : K.Governs P) : Chains (K.Works (S := S)) := by
  constructor
  · intro b
    exact h.works_self b .ok
  · rintro b b₁ b₂ ending ⟨hkept, hgoes⟩ ⟨hkept', hgoes'⟩
    refine ⟨hkept'.trans hkept, ?_⟩
    intro hready
    obtain ⟨hready₁, hallowed⟩ := hgoes hready
    obtain ⟨hready₂, hallowed'⟩ := hgoes' hready₁
    exact ⟨hready₂, h.chains.trans hallowed hallowed'⟩

/-- A step that changes neither compilers nor cache. -/
lemma works_of_watched (h : K.Governs P) (hcompilers : b'.compilers = b.compilers)
    (hcache : b'.cache = b.cache) (hallowed : K.Allows b.watched ending b'.watched) :
    K.Works b ending b' := by
  refine ⟨hcompilers, ?_⟩
  intro hready
  refine ⟨⟨?_, h.inOrder hallowed hready.inOrder, ?_⟩, hallowed⟩
  · rw [hcompilers]
    exact hready.leaves
  · rw [hcache]
    exact hready.sound

/-- Acts on the platform. -/
lemma works_within (h : K.Governs P) {m : Act S σ ε α} (hm : m.Changes K.watch K.Allows) :
    (m.within Part.first : Act S (σ × Invoker S σ F) ε α).Changes K.bench K.Works :=
  hm.part fun _ _ _ hallowed => h.works_of_watched rfl rfl hallowed

lemma spares_within {m : Act S σ ε α} (hm : m.Spares K.watch) :
    (m.within Part.first : Act S (σ × Invoker S σ F) ε α).Spares K.bench := by
  refine Act.Changes.part hm ?_
  intro t _ s heq
  exact congrArg (Workbench.mk · t.2.compilers t.2.cache) heq

/-- Acts that change nothing of it, and then others. -/
lemma works_after (h : K.Governs P) {m : Act S (σ × Invoker S σ F) ε α}
    {f : α → Act S (σ × Invoker S σ F) ε β} (hm : m.Spares K.bench)
    (hf : ∀ a, (f a).Changes K.bench K.Works) : (m.bind f).Changes K.bench K.Works :=
  .bind h.chains_works (hm.changes h.works_self) hf

lemma spares_checkDevice :
    (Invoker.checkDevice device : Act S (σ × Invoker S σ F) KernelError Unit).Spares K.bench := by
  refine .bind (.view _) ?_
  intro count
  exact .ensure _ _

lemma spares_arch (h : K.Governs P) (device : Nat) :
    (Invoker.arch P device).Spares K.bench := by
  refine .bind spares_checkDevice ?_
  intro _
  refine .bind (.view _) ?_
  intro known
  have hfresh : Act.Spares K.bench (Act.bind (Invoker.onPlatform (P.arch device)) fun name =>
      Act.bind
        (Act.modify fun s => (s.1, { s.2 with archs := s.2.archs.set device (some name) }))
        fun _ => (pure name : Act S (σ × Invoker S σ F) KernelError String)) := by
    refine .bind (spares_within (.mapError (h.arch device))) ?_
    intro name
    refine .bind (.modify fun _ => rfl) ?_
    intro _
    exact .pure name
  rcases known with _ | _ | name
  · exact hfresh
  · exact hfresh
  · exact .pure name

/-- Compiling with the compilers of the invoker. -/
lemma ensures_compile (h : K.Governs P) (source : KernelSource) (target : CompileTarget) :
    ((Compiler.compileWith P q.2.compilers source target device).within
      Invoker.noticePart).Ensures q fun o q' => K.Works (K.bench q) o.ending (K.bench q') := by
  intro o q' hend
  let tools (q : σ × Invoker S σ F) := (q.2.compilers, q.2.cache)
  let seen (q : σ × Invoker S σ F) := K.watch q.1
  have hkept : ((Compiler.compileWith P q.2.compilers source target device).within
      Invoker.noticePart).Spares tools := .within _ fun _ _ => rfl
  obtain ⟨hcompilers, hcache⟩ := Prod.mk.inj (hkept q o q' hend)
  refine ⟨hcompilers, ?_⟩
  intro hready
  have hspares : ((Compiler.compileWith P q.2.compilers source target device).within
      Invoker.noticePart).Spares seen :=
    Act.Changes.within (h.spares_tryEach source target device hready.leaves []) (fun _ => rfl)
      fun _ _ => rfl
  have hallowed : K.Allows (K.bench q).watched o.ending (K.bench q').watched := by
    rw [show (K.bench q').watched = (K.bench q).watched from hspares q o q' hend]
    exact h.self _ _
  exact (h.works_of_watched hcompilers hcache hallowed).2 hready

def GetsSound (K : Regime σ F ω) (b : Workbench S σ F ω) (o : Outcome KernelError F)
    (b' : Workbench S σ F ω) : Prop :=
  K.Works b o.ending b' ∧ (K.Ready b → ∀ f, o = .ok f → K.Sound f)

/-- After some work. -/
lemma getsSound_after (h : K.Governs P) {m : Act S (σ × Invoker S σ F) KernelError α}
    {f : α → Act S (σ × Invoker S σ F) KernelError F}
    (hm : m.Ensures q fun o q' => K.Works (K.bench q) o.ending (K.bench q'))
    (hf : ∀ a q', (f a).Ensures q' fun o q'' => GetsSound K (K.bench q') o (K.bench q'')) :
    (m.bind f).Ensures q fun o q' => GetsSound K (K.bench q) o (K.bench q') := by
  refine hm.bind ?_ ?_ ?_
  · intro a q₁ h₁
    refine (hf a q₁).mono ?_
    rintro o q₂ ⟨hworks, hsound⟩
    refine ⟨h.chains_works.trans h₁ hworks, ?_⟩
    intro hready
    exact hsound (h₁.2 hready).1
  · intro e q₁ h₁
    exact ⟨h₁, fun _ f hf => nomatch hf⟩
  · intro w q₁ h₁
    exact ⟨h₁, fun _ f hf => nomatch hf⟩

/-- A kernel that is sound is handed on, after a last change to the invoker. -/
lemma getsSound_handOn {m : Act S (σ × Invoker S σ F) KernelError F}
    {g : F → Invoker S σ F → Invoker S σ F}
    (hm : m.Ensures q fun o q' => GetsSound K (K.bench q) o (K.bench q'))
    (hcompilers : ∀ f inv, (g f inv).compilers = inv.compilers)
    (hcache : ∀ f inv, K.Sound f → inv.cache.AllSound K.Sound →
      (g f inv).cache.AllSound K.Sound) :
    (Act.bind m fun f => Act.bind (Act.modify fun s => (s.1, g f s.2)) fun _ => pure f).Ensures q
      fun o q' => GetsSound K (K.bench q) o (K.bench q') := by
  refine hm.bind ?_ (fun e q₁ h₁ => ⟨h₁.1, fun _ f hf => nomatch hf⟩)
    (fun w q₁ h₁ => ⟨h₁.1, fun _ f hf => nomatch hf⟩)
  rintro f q₁ ⟨⟨hkept, hgoes⟩, hsound⟩
  refine .of_done rfl ⟨⟨(hcompilers f q₁.2).trans hkept, ?_⟩, ?_⟩
  · intro hready
    obtain ⟨hready₁, hallowed⟩ := hgoes hready
    refine ⟨⟨?_, hready₁.inOrder, hcache f q₁.2 (hsound hready f rfl) hready₁.sound⟩, hallowed⟩
    intro c hc
    replace hc : c ∈ (g f q₁.2).compilers := hc
    rw [hcompilers] at hc
    exact hready₁.leaves c hc
  · intro hready f' hf'
    cases hf'
    exact hsound hready f rfl

/-- A kernel that the platform loads is sound. -/
lemma getsSound_load (h : K.Governs P) (image : Image) (entry : String) (bound : Nat) :
    (Invoker.onPlatform (P.load device image entry bound)).Ensures q fun o q' =>
      GetsSound K (K.bench q) o (K.bench q') := by
  refine .within (.mapError ((h.load device image entry bound q.1).mono ?_))
  rintro o s ⟨hallowed, hsound⟩
  constructor
  · refine h.works_of_watched rfl rfl ?_
    rw [Outcome.ending_mapError]
    exact hallowed
  · intro hready f hf
    refine hsound hready.inOrder f ?_
    cases o with
    | ok f' =>
      cases hf
      rfl
    | error e => cases hf
    | fault w => cases hf

/-- A kernel that is compiled and loaded is sound. -/
lemma getsSound_build (h : K.Governs P) (device : Nat) (source : KernelSource) :
    (Invoker.build P device source).Ensures q fun o q' =>
      GetsSound K (K.bench q) o (K.bench q') := by
  refine h.getsSound_after ((h.spares_arch device).changes h.works_self q) ?_
  intro name q₁
  refine .viewing ?_
  refine h.getsSound_after (h.ensures_compile source _) ?_
  intro image q₂
  refine getsSound_handOn (g := fun _ inv => { inv with compilations := inv.compilations + 1 })
    (h.getsSound_load image source.entry source.launchBound) ?_ ?_
  · intro f inv
    rfl
  · intro f inv hf hcached
    exact hcached

/-- The kernel behind a handle is sound, whether it is in the cache or is built now. -/
lemma getsSound_function (h : K.Governs P) (handle : KernelHandle) (device : Nat) :
    (Invoker.function P handle device).Ensures q fun o q' =>
      GetsSound K (K.bench q) o (K.bench q') := by
  refine h.getsSound_after (spares_checkDevice.changes h.works_self q) ?_
  intro _ q₁
  let look : Act S (σ × Invoker S σ F) KernelError (KernelSource × Option F) := fun q =>
    .done (q.2.cache.slot handle device, q)
  have hlook : look.Ensures q₁ fun o q' => o = q₁.2.cache.slot handle device ∧ q' = q₁ :=
    .of_done rfl ⟨rfl, rfl⟩
  refine hlook.bind ?_ ?_ ?_
  · rintro ⟨source, filled⟩ q₂ ⟨hslot, rfl⟩
    cases filled with
    | some f =>
      refine .of_done rfl ⟨h.works_self _ _, ?_⟩
      intro hready f' hf'
      cases hf'
      exact hready.sound.of_slot hslot.symm
    | none =>
      refine getsSound_handOn
        (g := fun f inv => { inv with cache := inv.cache.fill handle device f })
        (h.getsSound_build device source) ?_ ?_
      · intro f inv
        rfl
      · intro f inv hf hcached
        exact hcached.fill hf
  · rintro e q₂ ⟨-, rfl⟩
    exact ⟨h.works_self _ _, fun _ f hf => nomatch hf⟩
  · rintro w q₂ ⟨-, rfl⟩
    exact ⟨h.works_self _ _, fun _ f hf => nomatch hf⟩

variable {stream : Stream} {buffers : List Buffer} {scalars : List Scalar} {f : F}

/-- What a launch may do, an invocation may do from the launch on. -/
lemma works_launch (h : K.Governs P) (handle : KernelHandle) (geometry : GeometryOverride)
    (hlaunch : ∀ g,
      (P.launch f g (Argument.list buffers scalars) stream).Changes K.watch K.Allows) :
    (do
      let declared ← Invoker.source handle
      let resolved := geometry.resolve declared.geometry
      Invoker.log P .trace "launching kernel"
        [("handle", .shown handle.text), ("device", .number stream.device),
          ("stream", .shown stream.kind.name), ("blocks", .shown resolved.blocks.text),
          ("threads", .shown resolved.threads.text)]
      Invoker.onPlatform (P.launch f resolved (Argument.list buffers scalars) stream)
      Act.modify fun s => (s.1, { s.2 with launches := s.2.launches + 1 }) :
      Act S (σ × Invoker S σ F) KernelError Unit).Changes K.bench K.Works := by
  refine h.works_after ?_ ?_
  · refine .bind ?_ ?_
    · intro s
      exact .of_done rfl rfl
    · intro k
      exact .pure _
  intro declared
  refine h.works_after (spares_within (h.spares_record (by decide) _ _)) ?_
  intro _
  refine .bind h.chains_works (h.works_within (.mapError (hlaunch _))) ?_
  intro _
  exact Act.Spares.changes (.modify fun _ => rfl) h.works_self

/-- The same regime without any duty. -/
def lax (K : Regime σ F ω) : Regime σ F ω :=
  ⟨K.watch, fun _ _ _ => True, fun _ => True, fun _ => True⟩

lemma lax_governs (h : K.Governs P) : (lax K).Governs P where
  chains := ⟨fun _ => trivial, fun _ _ => trivial⟩
  self _ _ := trivial
  inOrder _ _ := trivial
  arch := h.arch
  stream := h.stream
  record := h.record
  load _ _ _ _ _ _ _ _ := ⟨trivial, fun _ _ _ => trivial⟩

/-- What a launch of a sound kernel may do, an invocation may do. -/
lemma works_invokeOn (h : K.Governs P) (handle : KernelHandle) (geometry : GeometryOverride)
    (hlaunch : ∀ f g, K.Sound f →
      (P.launch f g (Argument.list buffers scalars) stream).Changes K.watch K.Allows) :
    (Invoker.invokeOn P stream handle buffers scalars geometry).Changes K.bench K.Works := by
  refine h.works_after (.ofOutcome _) ?_
  intro _ q
  refine (h.getsSound_function handle stream.device).bind ?_ ?_ ?_
  · rintro f q₁ ⟨hworks, hsound⟩
    by_cases hf : K.Sound f
    · refine (h.works_launch handle geometry (hlaunch f · hf) q₁).mono ?_
      intro o q₂ h₂
      exact h.chains_works.trans hworks h₂
    · -- the invoker was not ready, so that only the compilers matter
      refine (h.lax_governs.works_launch handle geometry (fun _ _ _ _ _ => trivial) q₁).mono ?_
      intro o q₂ h₂
      refine ⟨h₂.1.trans hworks.1, ?_⟩
      intro hready
      exact absurd (hsound hready f rfl) hf
  · intro e q₁ h₁
    exact h₁.1
  · intro w q₁ h₁
    exact h₁.1

/-- A launch on the compute stream of a device. -/
lemma works_invoke (h : K.Governs P) (handle : KernelHandle) (device : Nat)
    (geometry : GeometryOverride) {good : Stream → Prop}
    (hstream : ∀ s, (P.stream device .compute).Gives s fun stream _ => good stream)
    (hlaunch : ∀ f g stream, K.Sound f → good stream →
      (P.launch f g (Argument.list buffers scalars) stream).Changes K.watch K.Allows) :
    (Invoker.invoke P handle device buffers scalars geometry).Changes K.bench K.Works := by
  refine h.works_after spares_checkDevice ?_
  intro _ q
  have hlooks : (Invoker.onPlatform (P.stream device .compute)).Changes K.bench K.Works :=
    (spares_within (.mapError (h.stream device .compute))).changes h.works_self
  have hgood : (Invoker.onPlatform (P.stream device .compute)).Gives q fun stream _ =>
      good stream := .within (.mapError (hstream q.1))
  refine Act.Changes.afterGives h.chains_works hlooks hgood ?_
  intro stream q₁ hs
  exact h.works_invokeOn handle geometry (fun f g hf => hlaunch f g stream hf hs) q₁

/-- Registering a source loads nothing. -/
lemma works_inject (h : K.Governs P) (text : String) :
    (Invoker.inject P text).Changes K.bench K.Works := by
  unfold Invoker.inject
  cases KernelSource.parse text with
  | error why => exact Act.Spares.changes (.fail _) h.works_self
  | ok source =>
    refine h.works_after (spares_within (h.spares_record (by decide) _ _)) ?_
    intro _ q
    refine .viewing ?_
    refine .of_done rfl ⟨rfl, ?_⟩
    intro hready
    exact ⟨⟨hready.leaves, hready.inOrder, hready.sound.insert source⟩, h.self _ _⟩

/-- The kernel behind a handle is looked up or built. -/
lemma works_function (h : K.Governs P) (handle : KernelHandle) (device : Nat) :
    (Invoker.function P handle device).Changes K.bench K.Works := by
  intro q
  refine (h.getsSound_function handle device).mono ?_
  intro o q' hgets
  exact hgets.1

/-- Registering the regrouping kernels builds one of them. -/
lemma works_regroup (h : K.Governs P) (device : Nat)
    (hoccupancy : ∀ f, (P.occupancy f).Spares K.watch) :
    (RegroupKernels.install P device).Changes K.bench K.Works := by
  refine .bind h.chains_works (h.works_inject _) ?_
  intro byte
  refine .bind h.chains_works (h.works_inject _) ?_
  intro vector
  refine .bind h.chains_works (h.works_function vector device) ?_
  intro f
  refine h.works_after (spares_within (.mapError (hoccupancy f))) ?_
  rintro ⟨blocks, threads⟩
  refine h.works_after (spares_within (h.spares_record (by decide) _ _)) ?_
  intro _
  exact .pure h.chains_works _

end Governs

end Regime

end ExpertExchange
