import ExpertExchange.Host.Platform
import ExpertExchange.Kernel.Invoker
import ExpertExchange.Proofs.Group.Script

/-!
# Kernels that a host invoker provides

On the host platform a registered source stands for the host kernel of the same name. An invoker
provides that kernel on a device when its slot of the cache is empty, so that the host compiler
will fill it, or holds the kernel already. What is provided stays provided.
-/

namespace ExpertExchange

abbrev HostKernels := HostState × Invoker Net HostState HostFunction

namespace KernelCache

variable {F : Type} {c : KernelCache F} {handle : KernelHandle} {device : Nat}
  {source : KernelSource} {filled : Option F}

lemma slot_eq_iff : c.slot handle device = .ok (source, filled) ↔
    ∃ slots, c.kernels[handle.index]? = some ⟨source, slots⟩ ∧ slots[device]? = some filled := by
  simp only [slot, get]
  cases hk : c.kernels[handle.index]? with
  | none => simp [Outcome.orError, Outcome.bind]
  | some k =>
    cases hs : k.slots[device]? with
    | none =>
      simp only [Outcome.orError, Outcome.bind, hs, reduceCtorEq, false_iff, not_exists, not_and]
      rintro slots hslots
      simp only [Option.some.injEq] at hslots
      simp [hslots ▸ hs]
    | some s =>
      simp only [Outcome.orError, Outcome.bind, hs, Outcome.ok.injEq, Prod.mk.injEq]
      constructor
      · rintro ⟨rfl, rfl⟩
        exact ⟨k.slots, rfl, hs⟩
      · rintro ⟨slots, hslots, hs'⟩
        simp only [Option.some.injEq] at hslots
        subst hslots
        exact ⟨rfl, by simpa [hs] using hs'⟩

/-- Filling one slot fills an empty slot, and leaves every other slot alone. -/
lemma slot_fill (h : c.slot handle device = .ok (source, filled)) (handle' : KernelHandle)
    (device' : Nat) (f : F) :
    (c.fill handle' device' f).slot handle device = .ok (source,
      if handle' = handle ∧ device' = device then filled.or (some f) else filled) := by
  obtain ⟨slots, hk, hs⟩ := slot_eq_iff.1 h
  refine slot_eq_iff.2 ?_
  by_cases hh : handle' = handle
  · subst hh
    refine ⟨slots.modify device' fun s => s.or (some f), by simp [fill, hk], ?_⟩
    by_cases hd : device' = device <;> simp [hs, hd]
  · have hindex : handle'.index ≠ handle.index := fun he => hh (by
      cases handle'
      cases handle
      exact congrArg _ he)
    exact ⟨slots, by simp [fill, hindex, hk], by simp [hh, hs]⟩

end KernelCache

namespace Invoker

variable {p p' p'' : HostKernels} {handle : KernelHandle} {device devices : Nat} {entry : String}
  {kernel : HostKernel} {g : Bytes} {r : Nat}

/-- On the device, launching the source of the handle runs the kernel. -/
structure Provides (p : HostKernels) (handle : KernelHandle) (device : Nat) (entry : String)
    (kernel : HostKernel) : Prop where
  compiler : p.2.compilers.head? = some .host
  device_lt : device < p.2.archs.length
  registered : p.1.kernel? entry = some kernel
  slot : ∃ source filled, p.2.cache.slot handle device = .ok (source, filled) ∧
    source.entry = entry ∧ ∀ f ∈ filled, f = ⟨entry, device, kernel⟩

/-- All kernels that were provided still are. -/
def StillProvides (p p' : HostKernels) : Prop :=
  ∀ handle device entry kernel, Provides p handle device entry kernel →
    Provides p' handle device entry kernel

/-- Nothing is different but records, traces, counts and known architectures. -/
structure Alike (p p' : HostKernels) : Prop where
  heap : p'.1.heap = p.1.heap
  kernels : p'.1.kernels = p.1.kernels
  compilers : p'.2.compilers = p.2.compilers
  archs : p'.2.archs.length = p.2.archs.length
  cache : p'.2.cache = p.2.cache

lemma Alike.refl (p : HostKernels) : Alike p p := ⟨rfl, rfl, rfl, rfl, rfl⟩

lemma Alike.trans (h : Alike p p') (h' : Alike p' p'') : Alike p p'' :=
  ⟨h'.heap.trans h.heap, h'.kernels.trans h.kernels, h'.compilers.trans h.compilers,
    h'.archs.trans h.archs, h'.cache.trans h.cache⟩

lemma Alike.stillProvides (h : Alike p p') : StillProvides p p' := by
  intro handle device entry kernel hp
  refine ⟨h.compilers ▸ hp.compiler, h.archs ▸ hp.device_lt, ?_, h.cache ▸ hp.slot⟩
  rw [HostState.kernel?, h.kernels]
  exact hp.registered

lemma StillProvides.refl (p : HostKernels) : StillProvides p p := fun _ _ _ _ h => h

lemma StillProvides.trans (h : StillProvides p p') (h' : StillProvides p' p'') :
    StillProvides p p'' := fun _ _ _ _ hp => h' _ _ _ _ (h _ _ _ _ hp)

variable {α : Type} {a : α} {s : HostState}

/-- A platform call that ends at once, in terms of the invoker. -/
lemma onPlatform_done {S : Service} {p : HostState × Invoker S HostState HostFunction}
    {m : Act S HostState DeviceError α} {o : Outcome DeviceError α} (h : m p.1 = .done (o, s)) :
    onPlatform m p = .done (o.mapError .device, (s, p.2)) :=
  Act.within_done (Act.mapError_done h)

lemma onPlatform_eq {m : Act Net HostState DeviceError α} (h : m p.1 = .done (.ok a, s)) :
    onPlatform m p = .done (.ok a, (s, p.2)) := onPlatform_done h

lemma checkDevice_eq (h : device < p.2.archs.length) :
    (checkDevice device : Act Net HostKernels KernelError Unit) p = .done (.ok (), p) := by
  exact Act.ensure_done h _ p

lemma hostCheckDevice_eq (h : device < devices) :
    (Host.checkDevice devices device : Act Net HostState DeviceError Unit) s =
      .done (.ok (), s) := by
  exact Act.ensure_done h _ s

lemma runs_arch (h : device < p.2.archs.length) (hd : device < devices) :
    (arch (Host.platform devices) device).Runs g r p [] fun _ => Alike p := by
  refine .step (checkDevice_eq h) (.step rfl ?_)
  split
  · exact .pure (.refl _)
  · have hname : (Host.platform devices : Platform Net _ _ _).arch device p.1 =
        .done (.ok Host.archName, p.1) := Act.bind_done (hostCheckDevice_eq hd)
    refine .step (onPlatform_eq hname) (.step rfl (.pure ?_))
    exact ⟨rfl, rfl, rfl, by simp, rfl⟩

/-- The host compiler, tried first, makes an image that names the kernel. -/
lemma runs_compile {compilers : List (Compiler Net HostState)} (h : compilers.head? = some .host)
    (source : KernelSource) (target : CompileTarget) :
    ((Compiler.compileWith (Host.platform devices : Platform Net HostState HostFunction HostEvent)
      compilers source target device).within noticePart).Runs g r p [] fun image p' =>
      image = .host source.entry ∧ Alike p p' := by
  obtain ⟨rest, rfl⟩ := List.head?_eq_some_iff.1 h
  exact .of_done rfl ⟨rfl, rfl, rfl, rfl, rfl, rfl⟩

lemma runs_load {source : KernelSource} (hd : device < devices)
    (hkernel : p.1.kernel? source.entry = some kernel) (bound : Nat) :
    (onPlatform ((Host.platform devices).load device (.host source.entry) source.entry bound)).Runs
      g r p [] fun f p' => f = ⟨source.entry, device, kernel⟩ ∧ Alike p p' := by
  have hload : (Host.platform devices : Platform Net _ _ _).load device (.host source.entry)
      source.entry bound p.1 =
      .done (.ok ⟨source.entry, device, kernel⟩, p.1.note (.compile source.entry device)) := by
    refine (Act.bind_done (hostCheckDevice_eq hd)).trans ?_
    refine (Act.bind_done (Act.ensure_done rfl _ _)).trans ?_
    refine (Act.bind_done rfl).trans ?_
    rw [hkernel]
    rfl
  exact .of_done (onPlatform_eq hload) ⟨rfl, rfl, rfl, rfl, rfl, rfl⟩

lemma runs_build {source : KernelSource} (hp : p.2.compilers.head? = some .host)
    (hdevice : device < p.2.archs.length) (hd : device < devices)
    (hkernel : p.1.kernel? source.entry = some kernel) :
    (build (Host.platform devices) device source).Runs g r p [] fun f p' =>
      f = ⟨source.entry, device, kernel⟩ ∧ Alike p p' := by
  refine .after (runs_arch hdevice hd) fun name p₁ h₁ => .step rfl ?_
  refine .after (runs_compile (h₁.compilers ▸ hp) source _) fun image p₂ ⟨himage, h₂⟩ => ?_
  subst himage
  have hkernel' : p₂.1.kernel? source.entry = some kernel := by
    rw [HostState.kernel?, (h₁.trans h₂).kernels]
    exact hkernel
  refine .after (runs_load hd hkernel' _) fun f p₃ ⟨hf, h₃⟩ => .step rfl (.pure ⟨hf, ?_⟩)
  have := h₁.trans (h₂.trans h₃)
  exact ⟨this.heap, this.kernels, this.compilers, this.archs, this.cache⟩

/-- With its slot filled by the kernel that it stands for, a source is provided as before, and so
is every other. -/
lemma stillProvides_fill (hp : Provides p handle device entry kernel) :
    StillProvides p (p.1, { p.2 with
      cache := p.2.cache.fill handle device ⟨entry, device, kernel⟩ }) := by
  obtain ⟨source, filled, hslot, hentry, hfilled⟩ := hp.slot
  intro handle' device' entry' kernel' hp'
  obtain ⟨source', filled', hslot', hentry', hfilled'⟩ := hp'.slot
  refine ⟨hp'.compiler, hp'.device_lt, hp'.registered, source', _,
    KernelCache.slot_fill hslot' handle device _, hentry', ?_⟩
  by_cases hsame : handle = handle' ∧ device = device'
  · obtain ⟨rfl, rfl⟩ := hsame
    obtain ⟨rfl, rfl⟩ : source = source' ∧ filled = filled' := by simpa [hslot] using hslot'
    obtain rfl : entry = entry' := hentry.symm.trans hentry'
    obtain rfl : kernel = kernel' := by simpa [hp.registered] using hp'.registered
    simp only [and_self, if_true]
    cases filled with
    | none => simp
    | some f => simpa using hfilled f rfl
  · rwa [if_neg hsame]

lemma runs_function (hp : Provides p handle device entry kernel) (hd : device < devices) :
    (function (Host.platform devices) handle device).Runs g r p [] fun f p' =>
      f = ⟨entry, device, kernel⟩ ∧ p'.1.heap = p.1.heap ∧ StillProvides p p' := by
  obtain ⟨source, filled, hslot, hentry, hfilled⟩ := hp.slot
  refine .step (checkDevice_eq hp.device_lt) ?_
  refine .step (Act.outcome_done hslot p) ?_
  cases filled with
  | some f => exact .pure ⟨hfilled f rfl, rfl, .refl _⟩
  | none =>
    subst hentry
    refine .after (runs_build hp.compiler hp.device_lt hd hp.registered) fun f p' ⟨hf, hp'⟩ => ?_
    subst hf
    refine .step rfl (.pure ⟨rfl, hp'.heap, hp'.stillProvides.trans ?_⟩)
    exact stillProvides_fill (hp'.stillProvides _ _ _ _ hp)

/-- The invoker compiles for the host, on as many devices as the platform has. -/
structure OnHost (devices : Nat) (p : HostKernels) : Prop where
  compiler : p.2.compilers.head? = some .host
  archs : p.2.archs.length = devices
  cache : p.2.cache.deviceCount = devices

/-- What registering and building kernels does not change. -/
structure Grown (devices : Nat) (p p' : HostKernels) : Prop where
  heap : p'.1.heap = p.1.heap
  kernels : p'.1.kernels = p.1.kernels
  onHost : OnHost devices p → OnHost devices p'
  provides : StillProvides p p'

lemma Grown.trans (h : Grown devices p p') (h' : Grown devices p' p'') : Grown devices p p'' :=
  ⟨h'.heap.trans h.heap, h'.kernels.trans h.kernels, fun hp => h'.onHost (h.onHost hp),
    h.provides.trans h'.provides⟩

lemma Grown.kernel? (h : Grown devices p p') (entry : String) :
    p'.1.kernel? entry = p.1.kernel? entry := by
  rw [HostState.kernel?, h.kernels, HostState.kernel?]

/-- A new source is the last of the cache; its slots are empty. -/
lemma slot_insert {F : Type} {c : KernelCache F} {source : KernelSource}
    (h : device < c.deviceCount) :
    (c.insert source).2.slot (c.insert source).1 device = .ok (source, none) :=
  KernelCache.slot_eq_iff.2 ⟨List.replicate c.deviceCount none, by simp [KernelCache.insert],
    by simp [h]⟩

/-- The sources registered before are not affected. -/
lemma slot_insert_of_slot {F : Type} {c : KernelCache F} {source new : KernelSource}
    {filled : Option F} (h : c.slot handle device = .ok (source, filled)) :
    (c.insert new).2.slot handle device = .ok (source, filled) := by
  obtain ⟨slots, hk, hs⟩ := KernelCache.slot_eq_iff.1 h
  refine KernelCache.slot_eq_iff.2 ⟨slots, ?_, hs⟩
  rw [KernelCache.insert, List.getElem?_append_left (List.getElem?_eq_some_iff.1 hk).1]
  exact hk

/-- A source that is well formed, and names a kernel of the platform, is registered for every
device. -/
lemma inject_done {text : String} {source : KernelSource} (hp : OnHost devices p)
    (htext : KernelSource.parse text = .ok source)
    (hkernel : p.1.kernel? source.entry = some kernel) :
    ∃ handle p', inject (Host.platform devices) text p = .done (.ok handle, p') ∧
      Grown devices p p' ∧ ∀ device < devices, Provides p' handle device source.entry kernel := by
  rw [inject, htext]
  refine ⟨_, _, rfl, ⟨rfl, rfl, fun h => ?_, ?_⟩, fun device hd => ?_⟩
  · exact ⟨h.compiler, h.archs, h.cache⟩
  · intro handle' device' entry' kernel' hp'
    obtain ⟨source', filled, hslot, hentry, hfilled⟩ := hp'.slot
    exact ⟨hp'.compiler, hp'.device_lt, hp'.registered, source', filled,
      slot_insert_of_slot hslot, hentry, hfilled⟩
  · exact ⟨hp.compiler, hp.archs.symm ▸ hd, hkernel, source, none,
      slot_insert (hp.cache.symm ▸ hd), rfl, nofun⟩

lemma runs_inject {text : String} {source : KernelSource} (hp : OnHost devices p)
    (hd : device < devices) (htext : KernelSource.parse text = .ok source)
    (hkernel : p.1.kernel? source.entry = some kernel) :
    (inject (Host.platform devices) text).Runs g r p [] fun handle p' =>
      Grown devices p p' ∧ Provides p' handle device source.entry kernel := by
  obtain ⟨handle, p', hdone, hgrown, hprovides⟩ := inject_done hp htext hkernel
  exact .of_done hdone ⟨hgrown, hprovides device hd⟩

lemma checkBuffers_eq {buffers : List Buffer} (h : ∀ b ∈ buffers, b.device = device)
    (index : Nat) : checkBuffers device index buffers = .ok () := by
  induction buffers generalizing index with
  | nil => rfl
  | cons b buffers ih =>
    rw [checkBuffers, if_pos (h b List.mem_cons_self)]
    exact ih (fun b' hb' => h b' (List.mem_cons_of_mem b hb')) (index + 1)

lemma checkArguments_eq {buffers : List Buffer} (scalars : List Scalar)
    (h : ∀ b ∈ buffers, s.heap.isHost b = true) :
    (Host.checkArguments (Argument.list buffers scalars) : Act Net HostState DeviceError Unit) s =
      .done (.ok (), s) := by
  refine Act.forEach_done fun x hx => ?_
  obtain hx | hx := List.mem_append.1 hx
  · obtain ⟨b, hb, rfl⟩ := List.mem_map.1 hx
    exact Act.ensure_done (h b hb) _ s
  · obtain ⟨x, -, rfl⟩ := List.mem_map.1 hx
    rfl

lemma log_done (devices : Nat) (level : LogLevel) (text : String)
    (values : List (String × LogValue)) :
    ∃ p', log (Host.platform devices) level text values p = .done (.ok (), p') ∧ Alike p p' :=
  ⟨_, rfl, rfl, rfl, rfl, rfl, rfl⟩

/-- What is done last changes the state or not, and the outcome stays. -/
lemma bind_modify_done {σ ε : Type} {m : Act Net σ ε Unit} {t t' : σ} {o : Outcome ε Unit}
    (change : σ → σ) (h : m t = .done (o, t')) :
    ∃ t'', (m.bind fun _ => Act.modify change) t = .done (o, t'') ∧
      (t'' = t' ∨ t'' = change t') := by
  cases o with
  | ok _ => exact ⟨_, Act.bind_done h, .inr rfl⟩
  | error e => exact ⟨_, Act.bind_error h, .inl rfl⟩
  | fault w => exact ⟨_, Act.bind_fault h, .inl rfl⟩

/-- A launch of a provided kernel ends as the kernel does on the geometry that is given, whatever
the source declares, and does to the heap what it does. -/
lemma invokeOn_resolved_done {stream : Stream} {buffers : List Buffer} {scalars : List Scalar}
    {heap : Heap} {o : Outcome DeviceError Unit} (geometry : GeometryOverride)
    (hp : Provides p handle stream.device entry kernel) (hd : stream.device < devices)
    (hbuffers : ∀ b ∈ buffers, b.device = stream.device ∧ p.1.heap.isHost b = true)
    (hkernel : ∀ declared, kernel (geometry.resolve declared) (Argument.list buffers scalars)
      p.1.heap = .done (o, heap)) :
    ∃ p', invokeOn (Host.platform devices) stream handle buffers scalars geometry p =
      .done (o.mapError .device, p') ∧ p'.1.heap = heap ∧ StillProvides p p' := by
  have hcheck : (Act.ofOutcome (checkBuffers stream.device 0 buffers) :
      Act Net HostKernels KernelError Unit) p = .done (.ok (), p) :=
    Act.outcome_done (checkBuffers_eq (fun b hb => (hbuffers b hb).1) 0) p
  obtain ⟨f, p₁, hfunction, rfl, hheap, h₁⟩ :=
    Act.runs_nil_iff.1 (runs_function (g := []) (r := 0) hp hd)
  obtain ⟨declared, filled, hslot, -, -⟩ := (h₁ _ _ _ _ hp).slot
  obtain ⟨slots, hcached, -⟩ := KernelCache.slot_eq_iff.1 hslot
  have hsource : (source handle : Act Net HostKernels KernelError KernelSource) p₁ =
      .done (.ok declared, p₁) := by
    have hget : p₁.2.cache.get handle = .ok ⟨declared, slots⟩ := by
      simp only [KernelCache.get, hcached, Outcome.orError]
    exact Act.bind_done (m := fun p : HostKernels => .done (p.2.cache.get handle, p))
      (Act.outcome_done hget p₁)
  have hlaunch (s : HostState) (hs : s.heap = p.1.heap) :
      (Host.platform devices : Platform Net _ _ _).launch ⟨entry, stream.device, kernel⟩
        (geometry.resolve declared.geometry) (Argument.list buffers scalars) stream s =
      .done (o, { s.note (.launch entry stream.device stream.kind) with heap := heap }) := by
    have hargs := checkArguments_eq (s := s) scalars fun b hb => hs ▸ (hbuffers b hb).2
    refine (Act.bind_done hargs).trans ((Act.bind_done rfl).trans ?_)
    have hembed : ((kernel (geometry.resolve declared.geometry)
        (Argument.list buffers scalars)).embed : Act Net Heap DeviceError Unit) s.heap =
          .done (o, heap) := by
      rw [Act.embed, hs, hkernel]
      rfl
    simp only [Host.onHeap, Act.within]
    exact congrArg (Program.bind · _) hembed
  obtain ⟨p₂, hlog, h₂⟩ := log_done (p := p₁) devices .trace "launching kernel"
    [("handle", .shown handle.text), ("device", .number stream.device),
      ("stream", .shown stream.kind.name),
      ("blocks", .shown (geometry.resolve declared.geometry).blocks.text),
      ("threads", .shown (geometry.resolve declared.geometry).threads.text)]
  have hstill : StillProvides p p₂ := h₁.trans h₂.stillProvides
  obtain ⟨p₃, hend, hp₃⟩ := bind_modify_done
    (fun s : HostKernels => (s.1, { s.2 with launches := s.2.launches + 1 }))
    (onPlatform_done (p := p₂) (hlaunch p₂.1 (h₂.heap.trans hheap)))
  refine ⟨p₃, ?_, ?_⟩
  · refine (Act.bind_done hcheck).trans ?_
    refine (Act.bind_done hfunction).trans ?_
    refine (Act.bind_done hsource).trans ?_
    exact (Act.bind_done hlog).trans hend
  · rcases hp₃ with rfl | rfl
    · exact ⟨rfl, hstill.trans fun _ _ _ _ hp =>
        ⟨hp.compiler, hp.device_lt, hp.registered, hp.slot⟩⟩
    · exact ⟨rfl, hstill.trans fun _ _ _ _ hp =>
        ⟨hp.compiler, hp.device_lt, hp.registered, hp.slot⟩⟩

/-- A launch of a provided kernel ends as the kernel does, and does to the heap what it does. -/
lemma invokeOn_done {stream : Stream} {buffers : List Buffer} {scalars : List Scalar}
    {heap : Heap} {o : Outcome DeviceError Unit} (geometry : GeometryOverride)
    (hp : Provides p handle stream.device entry kernel) (hd : stream.device < devices)
    (hbuffers : ∀ b ∈ buffers, b.device = stream.device ∧ p.1.heap.isHost b = true)
    (hkernel : ∀ resolved,
      kernel resolved (Argument.list buffers scalars) p.1.heap = .done (o, heap)) :
    ∃ p', invokeOn (Host.platform devices) stream handle buffers scalars geometry p =
      .done (o.mapError .device, p') ∧ p'.1.heap = heap ∧ StillProvides p p' :=
  invokeOn_resolved_done geometry hp hd hbuffers fun _ => hkernel _

/-- A launch of a provided kernel does to the heap what the kernel does. -/
lemma runs_invokeOn {stream : Stream} {buffers : List Buffer} {scalars : List Scalar}
    {geometry : GeometryOverride} {heap : Heap}
    (hp : Provides p handle stream.device entry kernel) (hd : stream.device < devices)
    (hbuffers : ∀ b ∈ buffers, b.device = stream.device ∧ p.1.heap.isHost b = true)
    (hkernel : ∀ resolved,
      kernel resolved (Argument.list buffers scalars) p.1.heap = .done (.ok (), heap)) :
    (invokeOn (Host.platform devices) stream handle buffers scalars geometry).Runs g r p []
      fun _ p' => p'.1.heap = heap ∧ StillProvides p p' := by
  obtain ⟨p', hdone, hp'⟩ := invokeOn_done geometry hp hd hbuffers hkernel
  exact .of_done hdone hp'

end Invoker

end ExpertExchange
