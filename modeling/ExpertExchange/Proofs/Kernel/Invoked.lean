import ExpertExchange.Proofs.Kernel.Built

/-!
# What an invoker does along a run

A run of an invoker on the host platform is a row of turns: each of them is a call and says what
the call was answered, whether it compiled and with what end, and what it launched. Between the
calls, host kernels are registered and memory is changed. The turns before a call determine whether
it compiles, and what it launches is the host kernel that was registered when its pair of source and
device was compiled.
-/

namespace ExpertExchange

variable {S : Service}

lemma Host.looks_checkArguments (args : List Argument) :
    (Host.checkArguments args : Act S HostState DeviceError Unit).Looks := by
  apply Act.Looks.forEach
  intro arg
  cases arg with
  | buffer b => exact .bind (.view _) fun heap => .ensure _ _
  | scalar x => exact .pure ()

/-- The platform refuses the arguments, or runs the kernel on its memory. -/
lemma Host.launch_cases (f : HostFunction) (geometry : Geometry) (args : List Argument)
    (stream : Stream) (s : HostState) :
    (∃ o, o.isOk = false ∧
      (Host.launch f geometry args stream : Act S HostState DeviceError Unit) s = .done (o, s)) ∨
    ∃ ran, f.kernel geometry args s.heap = .done ran ∧
      (Host.launch f geometry args stream : Act S HostState DeviceError Unit) s =
        .done (ran.1, { s.note (.launch f.entry f.device stream.kind) with heap := ran.2 }) := by
  obtain ⟨o, hcheck⟩ := looks_checkArguments (S := S) args s
  cases o with
  | error e => exact .inl ⟨.error e, rfl, Act.bind_error hcheck⟩
  | fault w => exact .inl ⟨.fault w, rfl, Act.bind_fault hcheck⟩
  | ok u =>
    right
    exact ⟨_, Program.eq_done_value _, (Act.bind_done hcheck).trans rfl⟩

namespace Invoker

variable {devices device : Nat} {handle : KernelHandle}

/-- What a launch is asked for, beside the source. -/
structure LaunchArgs where
  stream : Stream
  buffers : List Buffer
  scalars : List Scalar
  geometry : GeometryOverride

/-- A call on an invoker, or what happens to its platform between calls. -/
inductive Call where
  | inject (text : String)
  | setSdkHome (path : String)
  | register (entry : String) (kernel : HostKernel)
  | memory (change : Heap → Heap)
  | function (handle : KernelHandle) (device : Nat)
  | invoke (handle : KernelHandle) (device : Nat) (buffers : List Buffer) (scalars : List Scalar)
      (geometry : GeometryOverride)
  | invokeOn (stream : Stream) (handle : KernelHandle) (buffers : List Buffer)
      (scalars : List Scalar) (geometry : GeometryOverride)

namespace Call

def run (devices : Nat) : Call → Act S (HostInvoker S) KernelError Unit
  | .inject text => do
    let _ ← Invoker.inject (Host.platform devices) text
    pure ()
  | .setSdkHome path => Invoker.setSdkHome (Host.platform devices) path
  | .register entry kernel => Act.modify fun q => (q.1.register entry kernel, q.2)
  | .memory change => Act.modify fun q => ({ q.1 with heap := change q.1.heap }, q.2)
  | .function handle device => do
    let _ ← Invoker.function (Host.platform devices) handle device
    pure ()
  | .invoke handle device buffers scalars geometry =>
    Invoker.invoke (Host.platform devices) handle device buffers scalars geometry
  | .invokeOn stream handle buffers scalars geometry =>
    Invoker.invokeOn (Host.platform devices) stream handle buffers scalars geometry

def pair? : Call → Option (KernelHandle × Nat)
  | .function handle device => some (handle, device)
  | .invoke handle device _ _ _ => some (handle, device)
  | .invokeOn stream handle _ _ _ => some (handle, stream.device)
  | _ => none

def launch? : Call → Option LaunchArgs
  | .invoke _ device buffers scalars geometry =>
    some ⟨⟨device, .compute, 0⟩, buffers, scalars, geometry⟩
  | .invokeOn stream _ buffers scalars geometry => some ⟨stream, buffers, scalars, geometry⟩
  | _ => none

/-- The call gets as far as looking for its kernel: its device exists, and holds its buffers. -/
def Reaches (devices : Nat) (call : Call) : Prop :=
  ∀ handle device, call.pair? = some (handle, device) →
    device < devices ∧ ∀ l, call.launch? = some l → ∀ b ∈ l.buffers, b.device = device

end Call

/-- What the compile step was run on and ended with. -/
abbrev Compiled := KernelSource × Outcome KernelError HostFunction

def launchLoaded (devices : Nat) (handle : KernelHandle) (l : LaunchArgs) (f : HostFunction) :
    Act S (HostInvoker S) KernelError Unit := do
  let declared ← source handle
  let resolved := l.geometry.resolve declared.geometry
  log (Host.platform devices) .trace "launching kernel"
    [("handle", .shown handle.text), ("device", .number l.stream.device),
      ("stream", .shown l.stream.kind.name), ("blocks", .shown resolved.blocks.text),
      ("threads", .shown resolved.threads.text)]
  onPlatform ((Host.platform devices).launch f resolved (Argument.list l.buffers l.scalars)
    l.stream)
  Act.modify fun s => (s.1, { s.2 with launches := s.2.launches + 1 })

/-- A call of an invoker on the host platform, as it went: the states before and after it, what it
compiled, what it launched, and what it was answered. -/
structure Turn (S : Service) where
  call : Call
  before : HostInvoker S
  compiled : Option Compiled
  launched : Option HostFunction
  answer : Outcome KernelError Unit
  after : HostInvoker S

/-- The ways a call can go. -/
inductive Turn.Goes (devices : Nat) : Turn S → Prop where
  /-- The call needs no kernel. -/
  | aside {call : Call} {q q' : HostInvoker S} {o : Outcome KernelError Unit}
      (hpair : call.pair? = none) (hend : (call.run devices q).CanEnd (o, q')) :
      Goes devices ⟨call, q, none, none, o, q'⟩
  /-- The device or a buffer is refused. -/
  | refused {call : Call} {q : HostInvoker S} {handle : KernelHandle} {device : Nat}
      {e : KernelError} (hpair : call.pair? = some (handle, device))
      (hreaches : ¬ call.Reaches devices) (hend : call.run devices q = .done (.error e, q)) :
      Goes devices ⟨call, q, none, none, .error e, q⟩
  /-- There is no kernel, or nothing is launched with it. -/
  | fetched {call : Call} {q q' : HostInvoker S} {handle : KernelHandle} {device : Nat}
      {compiled : Option Compiled} {o : Outcome KernelError HostFunction}
      (hpair : call.pair? = some (handle, device)) (hreaches : call.Reaches devices)
      (hfetch : KernelCache.Fetches cachePart handle device (build (Host.platform devices) device)
        q compiled o q') (hlaunch : call.launch? = none ∨ ∀ f, o ≠ .ok f) :
      Goes devices ⟨call, q, compiled, none, o.bind fun _ => .ok (), q'⟩
  | launched {call : Call} {q q₁ q' : HostInvoker S} {handle : KernelHandle} {device : Nat}
      {compiled : Option Compiled} {f : HostFunction} {l : LaunchArgs}
      {o : Outcome KernelError Unit} (hpair : call.pair? = some (handle, device))
      (hreaches : call.Reaches devices)
      (hfetch : KernelCache.Fetches cachePart handle device (build (Host.platform devices) device)
        q compiled (.ok f) q₁) (hlaunch : call.launch? = some l)
      (hend : (launchLoaded devices handle l f q₁).CanEnd (o, q')) :
      Goes devices ⟨call, q, compiled, some f, o, q'⟩

variable {q q' : HostInvoker S} {call : Call}

/-- On a device that exists, the kernel is fetched. -/
lemma function_eq (hdevice : device < q.2.archs.length) :
    function (Host.platform devices) handle device q =
      KernelCache.getOrCompile cachePart handle device (build (Host.platform devices) device) q :=
  Act.bind_done (Act.ensure_done hdevice _ q)

/-- A device that does not exist is refused. -/
lemma checkDevice_refused (hdevice : ¬ device < q.2.archs.length) :
    (checkDevice device : Act S (HostInvoker S) KernelError Unit) q =
      .done (.error (.invalidDevice device q.2.archs.length), q) :=
  Act.ensure_error hdevice _ q

/-- Buffers are accepted when all of them are on the device. -/
lemma checkBuffers_cases (device index : Nat) (buffers : List Buffer) :
    (checkBuffers device index buffers = .ok () ∧ ∀ b ∈ buffers, b.device = device) ∨
    ((∃ e, checkBuffers device index buffers = .error e) ∧ ¬ ∀ b ∈ buffers, b.device = device) := by
  induction buffers generalizing index with
  | nil => simp [checkBuffers]
  | cons b rest ih =>
    by_cases hb : b.device = device
    · simpa [checkBuffers, hb] using ih (index + 1)
    · simp [checkBuffers, hb]

/-- An invocation, once its stream is known. -/
lemma goes_of_invokeOn {l : LaunchArgs} {o : Outcome KernelError Unit}
    (harchs : q.2.archs.length = devices) (hpair : call.pair? = some (handle, l.stream.device))
    (hlaunch : call.launch? = some l)
    (hrun : call.run devices q = invokeOn (Host.platform devices) l.stream handle l.buffers
      l.scalars l.geometry q) (hend : (call.run devices q).CanEnd (o, q')) :
    ∃ compiled launched, Turn.Goes devices ⟨call, q, compiled, launched, o, q'⟩ := by
  have hsplit : call.run devices q =
      (Act.ofOutcome (checkBuffers l.stream.device 0 l.buffers)).bind (fun _ =>
        (function (S := S) (Host.platform devices) handle l.stream.device).bind
          (launchLoaded devices handle l)) q := hrun
  rcases checkBuffers_cases l.stream.device 0 l.buffers with
    ⟨hok, hbuffers⟩ | ⟨⟨e, herror⟩, hbuffers⟩
  · have hcheck : (Act.ofOutcome (checkBuffers l.stream.device 0 l.buffers) :
        Act S (HostInvoker S) KernelError Unit) q = .done (.ok (), q) := by
      rw [hok]
      rfl
    rw [Act.bind_done hcheck] at hsplit
    by_cases hdevice : l.stream.device < devices
    · have hreaches : call.Reaches devices := by
        intro handle' device' hpair'
        obtain ⟨-, rfl⟩ := Prod.mk.inj (Option.some.inj (hpair.symm.trans hpair'))
        refine ⟨hdevice, ?_⟩
        intro l' hlaunch'
        obtain rfl := Option.some.inj (hlaunch.symm.trans hlaunch')
        exact hbuffers
      rw [hsplit] at hend
      obtain ⟨⟨o₁, q₁⟩, h₁, h₂⟩ := Program.canEnd_bind_iff.1 hend
      rw [function_eq (harchs ▸ hdevice)] at h₁
      obtain ⟨compiled, hfetch⟩ := KernelCache.canEnd_getOrCompile_iff.1 h₁
      cases o₁ with
      | ok f => exact ⟨compiled, some f, .launched hpair hreaches hfetch hlaunch h₂⟩
      | error e =>
        cases Program.canEnd_done_iff.1 h₂
        exact ⟨compiled, none, .fetched hpair hreaches hfetch (.inr (by simp))⟩
      | fault w =>
        cases Program.canEnd_done_iff.1 h₂
        exact ⟨compiled, none, .fetched hpair hreaches hfetch (.inr (by simp))⟩
    · have hreaches : ¬ call.Reaches devices := fun h => hdevice (h _ _ hpair).1
      rw [← harchs] at hdevice
      have hrefused := hsplit.trans (Act.bind_error (Act.bind_error (checkDevice_refused hdevice)))
      rw [hrefused] at hend
      cases Program.canEnd_done_iff.1 hend
      exact ⟨none, none, .refused hpair hreaches hrefused⟩
  · have hreaches : ¬ call.Reaches devices := fun h => hbuffers ((h _ _ hpair).2 l hlaunch)
    have hcheck : (Act.ofOutcome (checkBuffers l.stream.device 0 l.buffers) :
        Act S (HostInvoker S) KernelError Unit) q = .done (.error e, q) := by
      rw [herror]
      rfl
    have hrefused := hsplit.trans (Act.bind_error hcheck)
    rw [hrefused] at hend
    cases Program.canEnd_done_iff.1 hend
    exact ⟨none, none, .refused hpair hreaches hrefused⟩

/-- Every end of a call is an end of one of the ways it can go. -/
lemma goes_of_canEnd {o : Outcome KernelError Unit} (harchs : q.2.archs.length = devices)
    (hend : (call.run devices q).CanEnd (o, q')) :
    ∃ compiled launched, Turn.Goes devices ⟨call, q, compiled, launched, o, q'⟩ := by
  cases call with
  | inject text => exact ⟨none, none, .aside rfl hend⟩
  | setSdkHome path => exact ⟨none, none, .aside rfl hend⟩
  | register entry kernel => exact ⟨none, none, .aside rfl hend⟩
  | memory change => exact ⟨none, none, .aside rfl hend⟩
  | function handle device =>
    by_cases hdevice : device < q.2.archs.length
    · have hreaches : (Call.function handle device).Reaches devices := by
        rintro _ _ ⟨⟩
        exact ⟨harchs ▸ hdevice, fun l hl => nomatch hl⟩
      obtain ⟨⟨o₁, q₁⟩, h₁, h₂⟩ := Program.canEnd_bind_iff.1 hend
      rw [function_eq hdevice] at h₁
      obtain ⟨compiled, hfetch⟩ := KernelCache.canEnd_getOrCompile_iff.1 h₁
      have hpair : (Call.function handle device).pair? = some (handle, device) := rfl
      have hgoes := Turn.Goes.fetched hpair hreaches hfetch (.inl rfl)
      cases o₁ with
      | ok f =>
        cases Program.canEnd_done_iff.1 h₂
        exact ⟨compiled, none, hgoes⟩
      | error e =>
        cases Program.canEnd_done_iff.1 h₂
        exact ⟨compiled, none, hgoes⟩
      | fault w =>
        cases Program.canEnd_done_iff.1 h₂
        exact ⟨compiled, none, hgoes⟩
    · have hreaches : ¬ (Call.function handle device).Reaches devices :=
        fun h => hdevice (harchs ▸ (h handle device rfl).1)
      have hrefused : (Call.function handle device).run devices q = _ :=
        Act.bind_error (Act.bind_error (checkDevice_refused hdevice))
      rw [hrefused] at hend
      cases Program.canEnd_done_iff.1 hend
      exact ⟨none, none, .refused rfl hreaches hrefused⟩
  | invokeOn stream handle buffers scalars geometry =>
    exact goes_of_invokeOn (l := ⟨stream, buffers, scalars, geometry⟩) harchs rfl rfl rfl hend
  | invoke handle device buffers scalars geometry =>
    by_cases hdevice : device < q.2.archs.length
    · refine goes_of_invokeOn (l := ⟨⟨device, .compute, 0⟩, buffers, scalars, geometry⟩) harchs rfl
        rfl ?_ hend
      have hstream : (Host.platform devices : Platform S _ _ HostEvent).stream device .compute q.1 =
          .done (.ok ⟨device, .compute, 0⟩, q.1) :=
        Act.bind_done (Act.ensure_done (harchs ▸ hdevice) _ q.1)
      refine (Act.bind_done (Act.ensure_done hdevice _ q)).trans ?_
      exact Act.bind_done (onPlatform_done hstream)
    · have hreaches : ¬ (Call.invoke handle device buffers scalars geometry).Reaches devices :=
        fun h => hdevice (harchs ▸ (h handle device rfl).1)
      have hrefused : (Call.invoke handle device buffers scalars geometry).run devices q =
          .done (.error (.invalidDevice device q.2.archs.length), q) :=
        Act.bind_error (checkDevice_refused hdevice)
      rw [hrefused] at hend
      cases Program.canEnd_done_iff.1 hend
      exact ⟨none, none, .refused rfl hreaches hrefused⟩

/-- What a turn does to the cache, by what it compiled. -/
inductive CacheGoes (devices : Nat) (call : Call) (c : KernelCache HostFunction) :
    Option Compiled → KernelCache HostFunction → Prop where
  | inserted (hpair : call.pair? = none) (source : KernelSource) :
      CacheGoes devices call c none (c.insert source).2
  | aside (hpair : call.pair? = none) : CacheGoes devices call c none c
  | refused {handle : KernelHandle} {device : Nat} (hpair : call.pair? = some (handle, device))
      (hwhy : ¬ call.Reaches devices ∨ ∃ why, c.slot handle device = .error why) :
      CacheGoes devices call c none c
  | found {handle : KernelHandle} {device : Nat} {source : KernelSource} {f : HostFunction}
      (hpair : call.pair? = some (handle, device))
      (hslot : c.slot handle device = .ok (source, some f)) : CacheGoes devices call c none c
  | stored {handle : KernelHandle} {device : Nat} {source : KernelSource} {f : HostFunction}
      (hpair : call.pair? = some (handle, device)) (hreaches : call.Reaches devices)
      (hslot : c.slot handle device = .ok (source, none)) :
      CacheGoes devices call c (some (source, .ok f)) (c.fill handle device f)
  | failed {handle : KernelHandle} {device : Nat} {source : KernelSource}
      {o : Outcome KernelError HostFunction} (hpair : call.pair? = some (handle, device))
      (hreaches : call.Reaches devices) (hslot : c.slot handle device = .ok (source, none))
      (ho : ∀ f, o ≠ .ok f) : CacheGoes devices call c (some (source, o)) c

def isStored : Option Compiled → Bool
  | some (_, .ok _) => true
  | _ => false

structure Fetched (devices : Nat) (call : Call) (handle : KernelHandle) (device : Nat)
    (q : HostInvoker S) (compiled : Option Compiled) (o : Outcome KernelError HostFunction)
    (q' : HostInvoker S) : Prop where
  heap : q'.1.heap = q.1.heap
  compilers : q'.2.compilers = q.2.compilers
  archs : q'.2.archs.length = q.2.archs.length
  launches : q'.2.launches = q.2.launches
  cache : CacheGoes devices call q.2.cache compiled q'.2.cache
  compilations : q'.2.compilations = q.2.compilations + (isStored compiled).toNat
  traced : ∃ events, q'.1.trace = q.1.trace ++ events ∧
    Trace.loads events = (isStored compiled).toNat
  registered : ∀ source f, compiled = some (source, .ok f) →
    f.entry = source.entry ∧ f.device = device ∧ q.1.kernel? source.entry = some f.kernel
  slot : ∀ f, o = .ok f → ∃ source, q'.2.cache.slot handle device = .ok (source, some f)

lemma fetched_of_fetches {compiled : Option Compiled} {o : Outcome KernelError HostFunction}
    (hleaves : ∀ c ∈ q.2.compilers, c.Leaves HostState.world)
    (hpair : call.pair? = some (handle, device)) (hreaches : call.Reaches devices)
    (hfetch : KernelCache.Fetches cachePart handle device (build (Host.platform devices) device)
      q compiled o q') : Fetched devices call handle device q compiled o q' := by
  cases hfetch with
  | refused hslot =>
    refine ⟨rfl, rfl, rfl, rfl, .refused hpair (.inr ⟨_, hslot⟩), rfl, ⟨[], ?_, rfl⟩, ?_, ?_⟩
    · rw [List.append_nil]
    · rintro _ _ ⟨⟩
    · rintro _ ⟨⟩
  | found hslot =>
    refine ⟨rfl, rfl, rfl, rfl, .found hpair hslot, rfl, ⟨[], ?_, rfl⟩, ?_, ?_⟩
    · rw [List.append_nil]
    · rintro _ _ ⟨⟩
    · rintro _ ⟨⟩
      exact ⟨_, hslot⟩
  | @compiled source f q₁ hslot hrun =>
    have hbuilt := ensures_build hleaves _ _ hrun
    obtain ⟨hentry, hdevice, hkernel, hcompilations, htrace⟩ := hbuilt.done f rfl
    have hcache : (cachePart.get q₁ : KernelCache HostFunction) = q.2.cache := hbuilt.cache
    have hslot' : (q.2.cache.fill handle device f).slot handle device = .ok (source, some f) := by
      refine (KernelCache.slot_fill hslot handle device f).trans ?_
      simp
    refine ⟨hbuilt.heap, hbuilt.compilers, hbuilt.archs, hbuilt.launches, ?_, hcompilations,
      ⟨_, htrace, rfl⟩, ?_, ?_⟩
    · rw [hcache]
      exact .stored hpair hreaches hslot
    · rintro _ _ ⟨⟩
      exact ⟨hentry, hdevice, hkernel⟩
    · rintro _ ⟨⟩
      rw [hcache]
      exact ⟨source, hslot'⟩
  | failed hslot hrun ho =>
    have hbuilt := ensures_build hleaves _ _ hrun
    obtain ⟨hcompilations, htrace⟩ := hbuilt.undone ho
    have hnot : ∀ source, isStored (some (source, o)) = false := by
      intro source
      cases o with
      | ok f => exact absurd rfl (ho f)
      | error e => rfl
      | fault w => rfl
    refine ⟨hbuilt.heap, hbuilt.compilers, hbuilt.archs, hbuilt.launches, ?_, ?_, ⟨[], ?_, ?_⟩,
      ?_, ?_⟩
    · rw [hbuilt.cache]
      exact .failed hpair hreaches hslot ho
    · rw [hnot, hcompilations]
      rfl
    · rw [htrace, List.append_nil]
    · rw [hnot]
      rfl
    · rintro source f ⟨⟩
      exact absurd rfl (ho f)
    · intro f hf
      exact absurd hf (ho f)

/-- What launching a loaded kernel does: either the arguments are refused, or the kernel is run on
the memory. -/
structure Launched (source : KernelSource) (l : LaunchArgs) (f : HostFunction)
    (q : HostInvoker S) (o : Outcome KernelError Unit) (q' : HostInvoker S) : Prop where
  compilers : q'.2.compilers = q.2.compilers
  archs : q'.2.archs.length = q.2.archs.length
  cache : q'.2.cache = q.2.cache
  compilations : q'.2.compilations = q.2.compilations
  launches : q'.2.launches = q.2.launches + o.isOk.toNat
  runs : (o.isOk = false ∧ q'.1.heap = q.1.heap ∧ q'.1.trace = q.1.trace) ∨
    ∃ ran : Outcome DeviceError Unit × Heap,
      f.kernel (l.geometry.resolve source.geometry) (Argument.list l.buffers l.scalars) q.1.heap =
        .done ran ∧
      o = ran.1.mapError .device ∧ q'.1.heap = ran.2 ∧
      q'.1.trace = q.1.trace ++ [.launch f.entry f.device l.stream.kind]

/-- A platform call that ends at once, and is counted when it succeeds. -/
lemma counted_of_done {m : Act S HostState DeviceError Unit} {o : Outcome DeviceError Unit}
    {s : HostState} (h : m q.1 = .done (o, s)) :
    ((onPlatform m).bind fun _ =>
      Act.modify fun q => (q.1, { q.2 with launches := q.2.launches + 1 })) q =
      .done (o.mapError .device, (s, { q.2 with launches := q.2.launches + o.isOk.toNat })) := by
  cases o with
  | ok u => exact Act.bind_done (onPlatform_done h)
  | error e => exact Act.bind_error (onPlatform_done h)
  | fault w => exact Act.bind_fault (onPlatform_done h)

lemma isOk_mapError {ε ε' α : Type} (g : ε → ε') (o : Outcome ε α) :
    (o.mapError g).isOk = o.isOk := by
  cases o <;> rfl

/-- A loaded kernel is launched with the geometry its source declares, where the call does not
override it. -/
lemma ensures_launchLoaded {source : KernelSource} {l : LaunchArgs} {f : HostFunction}
    (hslot : q.2.cache.slot handle device = .ok (source, some f)) :
    (launchLoaded devices handle l f).Ensures q fun o q' => Launched source l f q o q' := by
  obtain ⟨slots, hk, -⟩ := KernelCache.slot_eq_iff.1 hslot
  have hget : q.2.cache.get handle = .ok ⟨source, slots⟩ := by
    rw [KernelCache.get, hk]
    rfl
  have hsource : (Invoker.source handle : Act S (HostInvoker S) KernelError KernelSource) q =
      .done (.ok source, q) := by
    let look : Act S (HostInvoker S) KernelError (CachedKernel HostFunction) := fun q =>
      .done (q.2.cache.get handle, q)
    have hlook : look q = .done (.ok ⟨source, slots⟩, q) := Act.outcome_done hget q
    exact Act.bind_done hlook
  obtain ⟨s, hworld, hsplit⟩ : ∃ s : HostState, s.world = q.1.world ∧
      launchLoaded devices handle l f q =
        ((onPlatform (Host.launch f (l.geometry.resolve source.geometry)
          (Argument.list l.buffers l.scalars) l.stream)).bind fun _ =>
            Act.modify fun q => (q.1, { q.2 with launches := q.2.launches + 1 })) (s, q.2) := by
    refine ⟨_, ?_, (Act.bind_done hsource).trans (Act.bind_done rfl)⟩
    rfl
  have hheap : s.heap = q.1.heap := congrArg (·.1) hworld
  have htrace : s.trace = q.1.trace := congrArg (·.2.2) hworld
  rcases Host.launch_cases (S := S) f (l.geometry.resolve source.geometry)
    (Argument.list l.buffers l.scalars) l.stream s with ⟨o, ho, hrun⟩ | ⟨ran, hkernel, hrun⟩
  · refine .of_done (hsplit.trans (counted_of_done hrun)) ?_
    refine ⟨rfl, rfl, rfl, rfl, ?_, .inl ⟨?_, hheap, htrace⟩⟩
    · rw [isOk_mapError]
    · rw [isOk_mapError, ho]
  · refine .of_done (hsplit.trans (counted_of_done hrun)) ?_
    refine ⟨rfl, rfl, rfl, rfl, ?_, .inr ⟨ran, ?_, rfl, rfl, ?_⟩⟩
    · rw [isOk_mapError]
    · rw [← hheap]
      exact hkernel
    · rw [← htrace]
      rfl

namespace Turn

/-- The call was to launch a kernel, and was answered that it did. -/
def isServed (t : Turn S) : Bool := t.call.launch?.isSome && t.answer.isOk

/-- The launch was refused for its arguments, or ran the kernel on the memory as it was before the
call, with the geometry of the source where the call does not override it. -/
def RunsKernel (t : Turn S) (source : KernelSource) (l : LaunchArgs) (f : HostFunction) : Prop :=
  (t.answer.isOk = false ∧ t.after.1.heap = t.before.1.heap) ∨
  ∃ ran : Outcome DeviceError Unit × Heap,
    f.kernel (l.geometry.resolve source.geometry) (Argument.list l.buffers l.scalars)
      t.before.1.heap = .done ran ∧
    t.answer = ran.1.mapError .device ∧ t.after.1.heap = ran.2 ∧
    ∃ events, t.after.1.trace =
      t.before.1.trace ++ events ++ [.launch f.entry f.device l.stream.kind]

/-- What a turn does, apart from what went on before it. -/
structure Effect (devices : Nat) (t : Turn S) : Prop where
  compilers : t.after.2.compilers = t.before.2.compilers
  archs : t.after.2.archs.length = t.before.2.archs.length
  cache : CacheGoes devices t.call t.before.2.cache t.compiled t.after.2.cache
  compilations : t.after.2.compilations = t.before.2.compilations + (isStored t.compiled).toNat
  loads : Trace.loads t.after.1.trace =
    Trace.loads t.before.1.trace + (isStored t.compiled).toNat
  launches : t.after.2.launches = t.before.2.launches + t.isServed.toNat
  registered : ∀ handle device source f, t.call.pair? = some (handle, device) →
    t.compiled = some (source, .ok f) → f.entry = source.entry ∧ f.device = device ∧
      t.before.1.kernel? source.entry = some f.kernel
  launched : ∀ f, t.launched = some f → ∃ handle device source l,
    t.call.pair? = some (handle, device) ∧ t.call.launch? = some l ∧
    t.after.2.cache.slot handle device = .ok (source, some f) ∧ t.RunsKernel source l f
  served : t.isServed = true → t.launched.isSome

variable {o : Outcome KernelError Unit}

/-- A turn that neither compiles nor launches. -/
lemma Effect.of_kept {t : Turn S} (hcompiled : t.compiled = none) (hlaunched : t.launched = none)
    (hserved : t.isServed = false) (hcompilers : t.after.2.compilers = t.before.2.compilers)
    (harchs : t.after.2.archs.length = t.before.2.archs.length)
    (hcache : CacheGoes devices t.call t.before.2.cache none t.after.2.cache)
    (hcompilations : t.after.2.compilations = t.before.2.compilations)
    (htrace : t.after.1.trace = t.before.1.trace)
    (hlaunches : t.after.2.launches = t.before.2.launches) : Effect devices t where
  compilers := hcompilers
  archs := harchs
  cache := hcompiled ▸ hcache
  compilations := by
    rw [hcompiled, hcompilations]
    rfl
  loads := by
    rw [hcompiled, htrace]
    rfl
  launches := by
    rw [hserved, hlaunches]
    rfl
  registered := by
    intro handle device source f _ hstored
    rw [hcompiled] at hstored
    cases hstored
  launched := by
    intro f hf
    rw [hlaunched] at hf
    cases hf
  served := by
    intro h
    rw [hserved] at h
    cases h

/-- A source is registered if it can be parsed. -/
lemma effect_inject {text : String} {q q' : HostInvoker S}
    (hend : ((Call.inject text).run devices q).CanEnd (o, q')) :
    Effect devices ⟨.inject text, q, none, none, o, q'⟩ := by
  obtain ⟨⟨o₁, q₁⟩, h₁, h₂⟩ := Program.canEnd_bind_iff.1 hend
  rw [inject] at h₁
  cases hparse : KernelSource.parse text with
  | error why =>
    rw [hparse] at h₁
    cases Program.canEnd_done_iff.1 h₁
    cases Program.canEnd_done_iff.1 h₂
    exact .of_kept rfl rfl rfl rfl rfl (.aside rfl) rfl rfl rfl
  | ok source =>
    rw [hparse] at h₁
    cases Program.canEnd_done_iff.1 h₁
    cases Program.canEnd_done_iff.1 h₂
    exact .of_kept rfl rfl rfl rfl rfl (.inserted rfl source) rfl rfl rfl

/-- A call that needs no kernel. -/
lemma effect_aside {call : Call} {q q' : HostInvoker S} (hpair : call.pair? = none)
    (hend : (call.run devices q).CanEnd (o, q')) :
    Effect devices ⟨call, q, none, none, o, q'⟩ := by
  cases call with
  | inject text => exact effect_inject hend
  | setSdkHome path =>
    cases Program.canEnd_done_iff.1 hend
    exact .of_kept rfl rfl rfl rfl rfl (.aside rfl) rfl rfl rfl
  | register entry kernel =>
    cases Program.canEnd_done_iff.1 hend
    exact .of_kept rfl rfl rfl rfl rfl (.aside rfl) rfl rfl rfl
  | memory change =>
    cases Program.canEnd_done_iff.1 hend
    exact .of_kept rfl rfl rfl rfl rfl (.aside rfl) rfl rfl rfl
  | function handle device => cases hpair
  | invoke handle device buffers scalars geometry => cases hpair
  | invokeOn stream handle buffers scalars geometry => cases hpair

lemma Goes.effect {t : Turn S} (hleaves : ∀ c ∈ t.before.2.compilers, c.Leaves HostState.world)
    (h : t.Goes devices) : Effect devices t := by
  cases h with
  | aside hpair hend => exact effect_aside hpair hend
  | refused hpair hreaches hend =>
    refine .of_kept rfl rfl ?_ rfl rfl (.refused hpair (.inl hreaches)) rfl rfl rfl
    exact Bool.and_false _
  | @fetched call q q' handle device compiled o hpair hreaches hfetch hlaunch =>
    have hfetched := fetched_of_fetches hleaves hpair hreaches hfetch
    obtain ⟨events, htrace, hloads⟩ := hfetched.traced
    have hserved : (⟨call, q, compiled, none, o.bind fun _ => .ok (), q'⟩ : Turn S).isServed =
        false := by
      rcases hlaunch with hnone | hfailed
      · simp [isServed, hnone]
      · cases o with
        | ok f => exact absurd rfl (hfailed f)
        | error e => exact Bool.and_false _
        | fault w => exact Bool.and_false _
    refine ⟨hfetched.compilers, hfetched.archs, hfetched.cache, hfetched.compilations, ?_, ?_, ?_,
      ?_, ?_⟩
    · rw [htrace, Trace.loads_append, hloads]
    · rw [hserved, hfetched.launches]
      rfl
    · intro handle' device' source f hpair' hstored
      obtain ⟨-, rfl⟩ := Prod.mk.inj (Option.some.inj (hpair.symm.trans hpair'))
      exact hfetched.registered source f hstored
    · rintro f ⟨⟩
    · rw [hserved]
      rintro ⟨⟩
  | @launched call q q₁ q' handle device compiled f l o hpair hreaches hfetch hlaunch hend =>
    have hfetched := fetched_of_fetches hleaves hpair hreaches hfetch
    obtain ⟨events, htrace, hloads⟩ := hfetched.traced
    obtain ⟨source, hslot⟩ := hfetched.slot f rfl
    have hlaunched := ensures_launchLoaded hslot o q' hend
    have hserved : (⟨call, q, compiled, some f, o, q'⟩ : Turn S).isServed = o.isOk := by
      simp [isServed, hlaunch]
    refine ⟨hlaunched.compilers.trans hfetched.compilers, hlaunched.archs.trans hfetched.archs, ?_,
      hlaunched.compilations.trans hfetched.compilations, ?_, ?_, ?_, ?_, ?_⟩
    · rw [hlaunched.cache]
      exact hfetched.cache
    · rcases hlaunched.runs with ⟨-, -, hsame⟩ | ⟨ran, -, -, -, hrun⟩
      · rw [hsame, htrace, Trace.loads_append, hloads]
      · rw [hrun, htrace, Trace.loads_append, Trace.loads_append, hloads]
        rfl
    · rw [hserved, hlaunched.launches, hfetched.launches]
    · intro handle' device' source' f' hpair' hstored
      obtain ⟨-, rfl⟩ := Prod.mk.inj (Option.some.inj (hpair.symm.trans hpair'))
      exact hfetched.registered source' f' hstored
    · rintro f' ⟨⟩
      refine ⟨handle, device, source, l, hpair, hlaunch, ?_, ?_⟩
      · rw [hlaunched.cache]
        exact hslot
      · rcases hlaunched.runs with ⟨ho, hheap, -⟩ | ⟨ran, hkernel, ho, hheap, hrun⟩
        · exact .inl ⟨ho, hheap.trans hfetched.heap⟩
        · refine .inr ⟨ran, ?_, ho, hheap, events, ?_⟩
          · rw [← hfetched.heap]
            exact hkernel
          · rw [← htrace]
            exact hrun
    · intro _
      rfl

end Turn

def Turn.Compiles (t : Turn S) (handle : KernelHandle) (device : Nat) (source : KernelSource)
    (f : HostFunction) : Prop :=
  t.call.pair? = some (handle, device) ∧ t.compiled = some (source, .ok f)

lemma exists_compiles_concat {before : List (Turn S)} {t : Turn S} {source : KernelSource}
    {f : HostFunction} :
    (∃ t' ∈ before ++ [t], t'.Compiles handle device source f) ↔
      (∃ t' ∈ before, t'.Compiles handle device source f) ∨ t.Compiles handle device source f := by
  simp only [List.mem_append, List.mem_singleton, or_and_right, exists_or, exists_eq_left]

/-- The slots that are filled are those of the pairs that were compiled. -/
structure CacheKept (devices : Nat) (before : List (Turn S)) (c : KernelCache HostFunction) :
    Prop where
  deviceCount : c.deviceCount = devices
  slots : ∀ k ∈ c.kernels, k.slots.length = devices
  slot : ∀ handle device source f, c.slot handle device = .ok (source, some f) ↔
    ∃ t ∈ before, t.Compiles handle device source f

namespace CacheKept

variable {before : List (Turn S)} {c : KernelCache HostFunction} {t : Turn S}

lemma empty (devices : Nat) : CacheKept devices ([] : List (Turn S)) (.empty devices) where
  deviceCount := rfl
  slots := by simp [KernelCache.empty]
  slot := by
    intro handle device source f
    simp [KernelCache.slot, KernelCache.get, KernelCache.empty, Outcome.orError, Outcome.bind]

/-- A turn that stores nothing. -/
lemma quiet (h : CacheKept devices before c) (hstored : isStored t.compiled = false) :
    CacheKept devices (before ++ [t]) c where
  deviceCount := h.deviceCount
  slots := h.slots
  slot := by
    intro handle device source f
    have hnot : ¬ t.Compiles handle device source f := by
      rintro ⟨-, hcompiled⟩
      rw [hcompiled] at hstored
      cases hstored
    rw [h.slot, exists_compiles_concat]
    simp [hnot]

lemma insert (h : CacheKept devices before c) (hstored : isStored t.compiled = false)
    (source : KernelSource) : CacheKept devices (before ++ [t]) (c.insert source).2 where
  deviceCount := h.deviceCount
  slots := by
    intro k hk
    rcases List.mem_append.1 hk with hold | hnew
    · exact h.slots k hold
    · rw [List.mem_singleton.1 hnew, List.length_replicate, h.deviceCount]
  slot := by
    intro handle device source' f
    rw [KernelCache.slot_insert_filled_iff]
    exact (h.quiet hstored).slot handle device source' f

lemma fill (h : CacheKept devices before c) {source : KernelSource} {f : HostFunction}
    (hpair : t.call.pair? = some (handle, device)) (hcompiled : t.compiled = some (source, .ok f))
    (hslot : c.slot handle device = .ok (source, none)) :
    CacheKept devices (before ++ [t]) (c.fill handle device f) where
  deviceCount := h.deviceCount
  slots := by
    intro k hk
    obtain ⟨k₀, hk₀, rfl | rfl⟩ := KernelCache.AllSound.mem_of_mem_modify hk
    · exact h.slots k hk₀
    · rw [List.length_modify]
      exact h.slots k₀ hk₀
  slot := by
    intro handle' device' source' f'
    rw [exists_compiles_concat, ← h.slot, KernelCache.slot_fill_eq]
    by_cases hsame : handle = handle' ∧ device = device'
    · obtain ⟨rfl, rfl⟩ := hsame
      simp [hslot, Outcome.bind, Turn.Compiles, hpair, hcompiled]
    · have hnot : ¬ t.Compiles handle' device' source' f' := by
        rintro ⟨hpair', -⟩
        exact hsame (Prod.mk.inj (Option.some.inj (hpair.symm.trans hpair')))
      simp only [if_neg hsame, hnot, or_false]
      cases c.slot handle' device' <;> simp [Outcome.bind, Prod.ext_iff]

/-- What a turn does to the cache is what the turns say of it. -/
lemma step {c' : KernelCache HostFunction} (h : CacheKept devices before c)
    (hgoes : CacheGoes devices t.call c t.compiled c') :
    CacheKept devices (before ++ [t]) c' ∧
      c'.filled = c.filled + (isStored t.compiled).toNat := by
  generalize hcompiled : t.compiled = compiled at hgoes
  cases hgoes with
  | inserted hpair source =>
    refine ⟨h.insert ?_ source, KernelCache.filled_insert source⟩
    rw [hcompiled]
    rfl
  | aside hpair =>
    refine ⟨h.quiet ?_, rfl⟩
    rw [hcompiled]
    rfl
  | refused hpair hwhy =>
    refine ⟨h.quiet ?_, rfl⟩
    rw [hcompiled]
    rfl
  | found hpair hslot =>
    refine ⟨h.quiet ?_, rfl⟩
    rw [hcompiled]
    rfl
  | stored hpair hreaches hslot =>
    exact ⟨h.fill hpair hcompiled hslot, KernelCache.filled_fill hslot _⟩
  | @failed _ _ source o hpair hreaches hslot ho =>
    have hnot : isStored (some (source, o)) = false := by
      cases o with
      | ok f => exact absurd rfl (ho f)
      | error e => rfl
      | fault w => rfl
    rw [hnot]
    refine ⟨h.quiet ?_, rfl⟩
    rw [hcompiled, hnot]

/-- A known handle on a device that exists has a slot. -/
lemma slot_ne_error (h : CacheKept devices before c) {why : KernelError}
    (hdevice : device < devices) (hknown : handle.index < c.size) :
    c.slot handle device ≠ .error why := by
  intro herror
  rcases KernelCache.slot_cases c handle device with
    ⟨hlen, -⟩ | ⟨k, hk, hlen, -⟩ | ⟨k, filled, -, -, hslot⟩
  · omega
  · rw [h.slots k (List.mem_of_getElem? hk)] at hlen
    omega
  · rw [hslot] at herror
    cases herror

/-- An empty slot belongs to a known handle, and its pair was not compiled. -/
lemma of_empty (h : CacheKept devices before c) {source : KernelSource}
    (hslot : c.slot handle device = .ok (source, none)) : handle.index < c.size ∧
      ¬ ∃ source f, ∃ t' ∈ before, t'.Compiles handle device source f := by
  constructor
  · obtain ⟨slots, hk, -⟩ := KernelCache.slot_eq_iff.1 hslot
    exact (List.getElem?_eq_some_iff.1 hk).1
  · rintro ⟨source', f, hcompiled⟩
    rw [← h.slot, hslot] at hcompiled
    cases hcompiled

/-- The compile step is run on the calls that get to it, as long as it has not succeeded. -/
lemma isSome_compiled_iff {c' : KernelCache HostFunction} (h : CacheKept devices before c)
    (hgoes : CacheGoes devices t.call c t.compiled c')
    (hpair : t.call.pair? = some (handle, device)) :
    t.compiled.isSome ↔ t.call.Reaches devices ∧ handle.index < c.size ∧
      ¬ ∃ source f, ∃ t' ∈ before, t'.Compiles handle device source f := by
  generalize t.compiled = compiled at hgoes
  cases hgoes with
  | inserted hnone source => cases hpair.symm.trans hnone
  | aside hnone => cases hpair.symm.trans hnone
  | refused hpair' hwhy =>
    obtain ⟨rfl, rfl⟩ := Prod.mk.inj (Option.some.inj (hpair.symm.trans hpair'))
    refine ⟨by simp, ?_⟩
    rintro ⟨hreaches, hknown, -⟩
    rcases hwhy with hnot | ⟨why, herror⟩
    · exact absurd hreaches hnot
    · exact absurd herror (h.slot_ne_error (hreaches _ _ hpair).1 hknown)
  | found hpair' hslot =>
    obtain ⟨rfl, rfl⟩ := Prod.mk.inj (Option.some.inj (hpair.symm.trans hpair'))
    refine ⟨by simp, ?_⟩
    rintro ⟨-, -, hnever⟩
    exact absurd ⟨_, _, (h.slot _ _ _ _).1 hslot⟩ hnever
  | stored hpair' hreaches hslot =>
    obtain ⟨rfl, rfl⟩ := Prod.mk.inj (Option.some.inj (hpair.symm.trans hpair'))
    simp only [Option.isSome_some, true_iff]
    exact ⟨hreaches, h.of_empty hslot⟩
  | failed hpair' hreaches hslot ho =>
    obtain ⟨rfl, rfl⟩ := Prod.mk.inj (Option.some.inj (hpair.symm.trans hpair'))
    simp only [Option.isSome_some, true_iff]
    exact ⟨hreaches, h.of_empty hslot⟩

end CacheKept

/-- What a turn shows, after the turns before it. -/
structure Turn.After (devices : Nat) (before : List (Turn S)) (t : Turn S) : Prop where
  /-- The compile step is run on the calls that get to it, as long as it has not succeeded. -/
  compiles : ∀ handle device, t.call.pair? = some (handle, device) →
    (t.compiled.isSome ↔ t.call.Reaches devices ∧ handle.index < t.before.2.cache.size ∧
      ¬ ∃ source f, ∃ t' ∈ before, t'.Compiles handle device source f)
  aside : t.call.pair? = none → t.compiled = none
  /-- A compile step that fails leaves its slot empty, and the others as they were. -/
  failed : ∀ handle device source o, t.call.pair? = some (handle, device) →
    t.compiled = some (source, o) → (∀ f, o ≠ .ok f) →
      t.after.2.cache = t.before.2.cache ∧
      t.after.2.cache.slot handle device = .ok (source, none)
  stored : ∀ handle device source f, t.Compiles handle device source f →
    t.after.2.cache = t.before.2.cache.fill handle device f
  /-- What is launched is the kernel that was registered when the pair was compiled. -/
  launched : ∀ f, t.launched = some f → ∃ handle device source l,
    t.call.pair? = some (handle, device) ∧ t.call.launch? = some l ∧ t.RunsKernel source l f ∧
    ∃ t' ∈ before ++ [t], t'.Compiles handle device source f ∧
      f.entry = source.entry ∧ f.device = device ∧
      t'.before.1.kernel? source.entry = some f.kernel
  served : t.isServed = true → t.launched.isSome

/-- What holds between turns. -/
structure Kept (devices loads₀ : Nat) (before : List (Turn S)) (q : HostInvoker S) : Prop where
  leaves : ∀ c ∈ q.2.compilers, c.Leaves HostState.world
  archs : q.2.archs.length = devices
  cache : CacheKept devices before q.2.cache
  compilations : q.2.compilations = q.2.cache.filled
  loads : Trace.loads q.1.trace = loads₀ + q.2.compilations
  launches : q.2.launches = before.countP Turn.isServed
  registered : ∀ t ∈ before, ∀ handle device source f, t.Compiles handle device source f →
    f.entry = source.entry ∧ f.device = device ∧
      t.before.1.kernel? source.entry = some f.kernel

namespace Kept

variable {loads₀ : Nat} {before : List (Turn S)} {t : Turn S}

lemma step (h : Kept devices loads₀ before t.before) (hgoes : t.Goes devices) :
    Kept devices loads₀ (before ++ [t]) t.after := by
  have heffect := hgoes.effect h.leaves
  obtain ⟨hcache, hfilled⟩ := h.cache.step heffect.cache
  constructor
  · rw [heffect.compilers]
    exact h.leaves
  · rw [heffect.archs]
    exact h.archs
  · exact hcache
  · rw [heffect.compilations, hfilled, h.compilations]
  · rw [heffect.loads, heffect.compilations, h.loads]
    omega
  · rw [heffect.launches, h.launches, List.countP_append]
    cases hserved : t.isServed <;> simp [hserved]
  · intro t' ht' handle device source f hcompiles
    rcases List.mem_append.1 ht' with hold | hnew
    · exact h.registered t' hold handle device source f hcompiles
    · rw [List.mem_singleton.1 hnew] at hcompiles ⊢
      exact heffect.registered handle device source f hcompiles.1 hcompiles.2

/-- A turn shows what it should after the turns before it. -/
lemma after (h : Kept devices loads₀ before t.before) (hgoes : t.Goes devices) :
    t.After devices before := by
  have heffect := hgoes.effect h.leaves
  have hkept := h.step hgoes
  have hcache := heffect.cache
  constructor
  · intro handle device hpair
    exact h.cache.isSome_compiled_iff heffect.cache hpair
  · intro hpair
    generalize t.compiled = compiled at hcache
    generalize t.after.2.cache = after at hcache
    cases hcache with
    | inserted _ source => rfl
    | aside => rfl
    | refused hpair' => cases hpair.symm.trans hpair'
    | found hpair' => cases hpair.symm.trans hpair'
    | stored hpair' => cases hpair.symm.trans hpair'
    | failed hpair' => cases hpair.symm.trans hpair'
  · intro handle device source o hpair hcompiled ho
    rw [hcompiled] at hcache
    generalize t.after.2.cache = after at hcache
    cases hcache with
    | stored => exact absurd rfl (ho _)
    | failed hpair' _ hslot =>
      obtain ⟨rfl, rfl⟩ := Prod.mk.inj (Option.some.inj (hpair.symm.trans hpair'))
      exact ⟨rfl, hslot⟩
  · rintro handle device source f ⟨hpair, hcompiled⟩
    rw [hcompiled] at hcache
    generalize t.after.2.cache = after at hcache
    cases hcache with
    | stored hpair' =>
      obtain ⟨rfl, rfl⟩ := Prod.mk.inj (Option.some.inj (hpair.symm.trans hpair'))
      rfl
    | failed _ _ _ ho => exact absurd rfl (ho f)
  · intro f hf
    obtain ⟨handle, device, source, l, hpair, hlaunch, hslot, hruns⟩ := heffect.launched f hf
    obtain ⟨t', ht', hcompiles⟩ := (hkept.cache.slot _ _ _ _).1 hslot
    exact ⟨handle, device, source, l, hpair, hlaunch, hruns, t', ht', hcompiles,
      hkept.registered t' ht' _ _ _ _ hcompiles⟩
  · exact heffect.served

end Kept

/-- Make the calls, one after another, and give what they were answered. -/
def runAll (devices : Nat) :
    List Call → Act S (HostInvoker S) KernelError (List (Outcome KernelError Unit))
  | [] => pure []
  | call :: calls => do
    let answer ← (call.run devices).attempt
    let answers ← runAll devices calls
    pure (answer :: answers)

/-- Turns in a row, each from the state that the one before it led to. -/
inductive Row (devices : Nat) : HostInvoker S → List (Turn S) → HostInvoker S → Prop where
  | nil (q : HostInvoker S) : Row devices q [] q
  | cons {t : Turn S} {turns : List (Turn S)} {q' : HostInvoker S} (hgoes : t.Goes devices)
      (hrest : Row devices t.after turns q') : Row devices t.before (t :: turns) q'

/-- A run goes in turns, and every turn shows what it should after the ones before it. -/
lemma Kept.run {loads₀ : Nat} {done : List (Turn S)} {q q' : HostInvoker S} {calls : List Call}
    {o : Outcome KernelError (List (Outcome KernelError Unit))} (h : Kept devices loads₀ done q)
    (hend : (runAll devices calls q).CanEnd (o, q')) :
    ∃ turns : List (Turn S), turns.map Turn.call = calls ∧ o = .ok (turns.map Turn.answer) ∧
      Row devices q turns q' ∧ Kept devices loads₀ (done ++ turns) q' ∧
      ∀ before t after, turns = before ++ t :: after → t.After devices (done ++ before) := by
  induction calls generalizing q q' done o with
  | nil =>
    cases Program.canEnd_done_iff.1 hend
    refine ⟨[], rfl, rfl, .nil _, ?_, ?_⟩
    · rw [List.append_nil]
      exact h
    · intro before t after heq
      simp at heq
  | cons call calls ih =>
    obtain ⟨⟨o₁, q₁⟩, h₁, h₂⟩ := Program.canEnd_bind_iff.1 hend
    obtain ⟨⟨answer, q₁'⟩, hcall, h₃⟩ := Program.canEnd_bind_iff.1 h₁
    cases Program.canEnd_done_iff.1 h₃
    obtain ⟨⟨o₂, q₂⟩, hrest, h₄⟩ := Program.canEnd_bind_iff.1 h₂
    obtain ⟨compiled, launched, hgoes⟩ := goes_of_canEnd h.archs hcall
    obtain ⟨turns, hcalls, rfl, hrow, hkept, hafter⟩ := ih (h.step hgoes) hrest
    cases Program.canEnd_done_iff.1 h₄
    refine ⟨⟨call, q, compiled, launched, answer, q₁'⟩ :: turns, ?_, rfl, .cons hgoes hrow, ?_, ?_⟩
    · rw [List.map_cons, hcalls]
    · simpa using hkept
    · intro before t after heq
      cases before with
      | nil =>
        obtain ⟨rfl, -⟩ := List.cons.inj heq
        rw [List.append_nil]
        exact h.after hgoes
      | cons first before =>
        obtain ⟨rfl, hturns⟩ := List.cons.inj heq
        simpa using hafter before t after hturns

/-- Every run of an invoker on the host platform, whatever is called with whatever arguments and
however the calls end, goes in turns. Every turn compiles when it gets to it and the pair of its
handle and device was not compiled in an earlier turn; when that fails, the cache is left as it was.
What a turn launches is the host kernel that was registered when the pair was compiled. Afterwards,
the compilations that were counted are as many as the filled slots and the loads in the trace, and
the launches that were counted are as many as the invocations that were answered with success. -/
theorem invocations_accounted (compilers : List (Compiler S HostState)) (settings : Settings)
    (hleaves : ∀ c ∈ compilers, c.Leaves HostState.world) (s : HostState) (calls : List Call) :
    (runAll devices calls).Ensures (s, Invoker.create devices compilers settings) fun o q =>
      ∃ turns : List (Turn S), turns.map Turn.call = calls ∧ o = .ok (turns.map Turn.answer) ∧
        Row devices (s, Invoker.create devices compilers settings) turns q ∧
        (∀ before t after, turns = before ++ t :: after → t.After devices before) ∧
        q.2.compilations = q.2.cache.filled ∧
        Trace.loads q.1.trace = Trace.loads s.trace + q.2.compilations ∧
        q.2.launches = turns.countP Turn.isServed := by
  intro o q hend
  have hstart : Kept devices (Trace.loads s.trace) ([] : List (Turn S))
      (s, Invoker.create devices compilers settings) := by
    constructor
    · exact hleaves
    · simp [create]
    · exact .empty devices
    · rfl
    · rfl
    · rfl
    · simp
  obtain ⟨turns, hcalls, ho, hrow, hkept, hafter⟩ := hstart.run hend
  rw [List.nil_append] at hkept
  refine ⟨turns, hcalls, ho, hrow, ?_, hkept.compilations, hkept.loads, hkept.launches⟩
  intro before t after heq
  simpa using hafter before t after heq

/-- A kernel is fetched, another one is registered under its name, and the first is launched: one
compilation, one load and one launch, all calls with success. -/
theorem invocations_accounted_after_register :
    let calls : List Call := [.inject "__global__ void k() \x7b\x7d", .function ⟨0⟩ 0,
      .register "k" fun _ _ => Act.fault none, .invoke ⟨0⟩ 0 [] [] .none]
    let start : HostInvoker Silence :=
      (⟨[], [("k", fun _ _ => pure ())], [], []⟩, Invoker.create 1 [Compiler.host] .none)
    (∀ c ∈ [(Compiler.host : Compiler Silence HostState)], c.Leaves HostState.world) ∧
      ∃ (turns : List (Turn Silence)) (q : HostInvoker Silence),
        (runAll 1 calls start).CanEnd (.ok [.ok (), .ok (), .ok (), .ok ()], q) ∧
        turns.map Turn.call = calls ∧ turns.map Turn.answer = [.ok (), .ok (), .ok (), .ok ()] ∧
        Row 1 start turns q ∧
        (∀ before t after, turns = before ++ t :: after → t.After 1 before) ∧
        q.2.compilations = 1 ∧ q.2.cache.filled = 1 ∧ Trace.loads q.1.trace = 1 ∧
        q.2.launches = 1 ∧ turns.countP Turn.isServed = 1 := by
  intro calls start
  have hleaves : ∀ c ∈ [(Compiler.host : Compiler Silence HostState)],
      c.Leaves HostState.world := by
    intro c hc
    rw [List.mem_singleton.1 hc]
    intro source target
    exact .pure _
  let seen (r : Outcome KernelError (List (Outcome KernelError Unit)) × HostInvoker Silence) :=
    (r.1, r.2.2.compilations, r.2.2.launches)
  have hseen : seen (runAll 1 calls start).value =
      (.ok [.ok (), .ok (), .ok (), .ok ()], 1, 1) := by decide +kernel
  have hend : (runAll 1 calls start).CanEnd (runAll 1 calls start).value :=
    Program.canEnd_value _
  generalize (runAll 1 calls start).value = ended at hseen hend
  obtain ⟨o, q⟩ := ended
  obtain ⟨rfl, hcounted, hlaunched⟩ : o = _ ∧ q.2.compilations = 1 ∧ q.2.launches = 1 := by
    simpa only [seen, Prod.mk.injEq] using hseen
  obtain ⟨turns, hcalls, hanswered, hrow, hafter, hfilled, hloads, hserved⟩ :=
    invocations_accounted [Compiler.host] .none hleaves _ calls _ _ hend
  refine ⟨hleaves, turns, q, hend, hcalls, (Outcome.ok.inj hanswered).symm, hrow, hafter, hcounted,
    ?_, ?_, hlaunched, ?_⟩
  · exact hfilled.symm.trans hcounted
  · rw [hloads, hcounted]
    rfl
  · exact hserved.symm.trans hlaunched

end Invoker

end ExpertExchange
