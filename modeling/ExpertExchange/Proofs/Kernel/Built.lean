import ExpertExchange.Proofs.Kernel.Fetched
import ExpertExchange.Proofs.Kernel.Sound

/-!
# What building a kernel does

A kernel is built by asking for the architecture, compiling, and loading. Building leaves the cache,
the memory and the registry of host kernels alone. It counts one compilation and traces one loaded
kernel when it succeeds, and nothing when it does not; what it gives is the kernel that is
registered under the name of the source.
-/

namespace ExpertExchange

namespace KernelCache

variable {F : Type} {c : KernelCache F} {handle : KernelHandle} {device : Nat}

def filled (c : KernelCache F) : Nat := (c.kernels.flatMap CachedKernel.slots).countP Option.isSome

lemma filled_insert (source : KernelSource) : (c.insert source).2.filled = c.filled := by
  have hempty : (List.replicate c.deviceCount (none : Option F)).countP Option.isSome = 0 := by
    simp [List.countP_replicate]
  simp [filled, insert, hempty]

/-- Changing one element of a list changes a count by what it changes for that element. -/
lemma countP_modify {α : Type} {p : α → Bool} {g : α → α} {xs : List α} {i : Nat} {x : α}
    (h : xs[i]? = some x) (hx : p x = false) (hg : p (g x) = true) :
    (xs.modify i g).countP p = xs.countP p + 1 := by
  induction xs generalizing i with
  | nil => simp at h
  | cons y ys ih =>
    cases i with
    | zero =>
      obtain rfl : y = x := by simpa using h
      simp [hx, hg]
    | succ i =>
      have hrest : ys[i]? = some x := by simpa using h
      simp only [List.modify_succ_cons, List.countP_cons, ih hrest]
      omega

lemma countP_flatMap_modify {α β : Type} {p : β → Bool} {f : α → List β} {g : α → α}
    {xs : List α} {i : Nat} {x : α} (h : xs[i]? = some x)
    (hg : (f (g x)).countP p = (f x).countP p + 1) :
    ((xs.modify i g).flatMap f).countP p = (xs.flatMap f).countP p + 1 := by
  induction xs generalizing i with
  | nil => simp at h
  | cons y ys ih =>
    cases i with
    | zero =>
      obtain rfl : y = x := by simpa using h
      simp only [List.modify_zero_cons, List.flatMap_cons, List.countP_append, hg]
      omega
    | succ i =>
      have hrest : ys[i]? = some x := by simpa using h
      simp only [List.modify_succ_cons, List.flatMap_cons, List.countP_append, ih hrest]
      omega

/-- Filling an empty slot fills one slot. -/
lemma filled_fill {source : KernelSource} (h : c.slot handle device = .ok (source, none)) (f : F) :
    (c.fill handle device f).filled = c.filled + 1 := by
  obtain ⟨slots, hk, hs⟩ := slot_eq_iff.1 h
  exact countP_flatMap_modify hk (countP_modify hs rfl rfl)

end KernelCache

variable {S : Service}

abbrev HostInvoker (S : Service) := HostState × Invoker S HostState HostFunction

/-- How often a kernel was loaded. -/
def Trace.loads (t : Trace) : Nat := t.countP fun
  | .compile .. => true
  | _ => false

lemma Trace.loads_append (t t' : Trace) : Trace.loads (t ++ t') = Trace.loads t + Trace.loads t' :=
  List.countP_append

/-- Memory, registered kernels and trace of the host platform: everything but its log. -/
def HostState.world (s : HostState) : Heap × List (String × HostKernel) × Trace :=
  (s.heap, s.kernels, s.trace)

/-- The host platform with its memory, kernels and trace watched, and nothing asked of what is
done to them. -/
def Host.watching : Regime HostState HostFunction (Heap × List (String × HostKernel) × Trace) where
  watch := HostState.world
  Allows _ _ _ := True
  InOrder _ := True
  Sound _ := True

lemma Host.watching_governs (devices : Nat) :
    Host.watching.Governs (Host.platform devices : Platform S _ _ HostEvent) where
  chains := ⟨fun _ => trivial, fun _ _ => trivial⟩
  self _ _ := trivial
  inOrder _ _ := trivial
  arch _ := .bind (.ensure _ _) fun _ => .pure _
  stream _ _ := .bind (.ensure _ _) fun _ => .pure _
  record _ _ _ := rfl
  load _ _ _ _ _ := fun _ _ _ => ⟨trivial, fun _ _ _ => trivial⟩

/-- The platform loads the kernel that is registered, or leaves everything alone. -/
lemma Host.load_cases (devices device : Nat) (image : Image) (entry : String) (s : HostState) :
    (∃ kernel, s.kernel? entry = some kernel ∧
      (Host.load devices device image entry : Act S HostState DeviceError HostFunction) s =
        .done (.ok ⟨entry, device, kernel⟩, s.note (.compile entry device))) ∨
    ∃ e, (Host.load devices device image entry : Act S HostState DeviceError HostFunction) s =
      .done (.error e, s) := by
  unfold Host.load Host.checkDevice Act.ensure
  by_cases hdevice : device < devices
  · rw [if_pos hdevice]
    cases image with
    | ptx text => exact .inr ⟨_, rfl⟩
    | binary content => exact .inr ⟨_, rfl⟩
    | host exported =>
      dsimp only
      by_cases hentry : exported = entry
      · rw [if_pos hentry]
        cases hkernel : s.kernel? entry with
        | none =>
          right
          refine ⟨.missingHostKernel entry, (Act.bind_done rfl).trans ?_⟩
          refine (Act.bind_done rfl).trans ((Act.bind_done rfl).trans ?_)
          rw [hkernel]
          rfl
        | some kernel =>
          left
          refine ⟨kernel, rfl, (Act.bind_done rfl).trans ?_⟩
          refine (Act.bind_done rfl).trans ((Act.bind_done rfl).trans ?_)
          rw [hkernel]
          rfl
      · rw [if_neg hentry]
        exact .inr ⟨_, rfl⟩
  · rw [if_neg hdevice]
    exact .inr ⟨_, rfl⟩

lemma HostState.kernel?_of_world {s s' : HostState} (h : s'.world = s.world) (entry : String) :
    s'.kernel? entry = s.kernel? entry := by
  have hkernels : s'.kernels = s.kernels := congrArg (·.2.1) h
  rw [HostState.kernel?, hkernels, HostState.kernel?]

namespace Invoker

variable {devices device : Nat} {source : KernelSource} {q q' : HostInvoker S}
  {o : Outcome KernelError HostFunction}

/-- Everything of a host platform and an invoker but the log, the gate for records and the known
architectures. -/
def stock (q : HostInvoker S) :=
  (q.1.world, q.2.compilers, q.2.cache, q.2.archs.length, q.2.compilations, q.2.launches)

lemma spares_onPlatform {α : Type} {m : Act S HostState DeviceError α}
    (hm : m.Spares HostState.world) :
    (onPlatform m : Act S (HostInvoker S) KernelError α).Spares stock := by
  refine Act.Changes.part (Act.Changes.mapError hm) ?_
  intro t _ s heq
  exact congrArg (·, t.2.compilers, t.2.cache, t.2.archs.length, t.2.compilations, t.2.launches) heq

lemma stock_checkDevice :
    (checkDevice device : Act S (HostInvoker S) KernelError Unit).Spares stock := by
  refine .bind (.view _) ?_
  intro count
  exact .ensure _ _

lemma stock_arch : (arch (Host.platform devices) device : Act S (HostInvoker S) KernelError
    String).Spares stock := by
  refine .bind stock_checkDevice ?_
  intro _
  refine .bind (.view _) ?_
  intro known
  have hfresh : Act.Spares stock (Act.bind
      (onPlatform ((Host.platform devices : Platform S _ _ HostEvent).arch device)) fun name =>
      Act.bind
        (Act.modify fun s => (s.1, { s.2 with archs := s.2.archs.set device (some name) }))
        fun _ => (pure name : Act S (HostInvoker S) KernelError String)) := by
    refine .bind (spares_onPlatform ((Host.watching_governs devices).arch device)) ?_
    intro name
    refine .bind (.modify fun q => ?_) ?_
    · simp [stock]
    intro _
    exact .pure name
  rcases known with _ | _ | name
  · exact hfresh
  · exact hfresh
  · exact .pure name

lemma stock_compile {compilers : List (Compiler S HostState)}
    (hleaves : ∀ c ∈ compilers, c.Leaves HostState.world) (source : KernelSource)
    (target : CompileTarget) :
    ((Compiler.compileWith (Host.platform devices : Platform S HostState HostFunction HostEvent)
      compilers source target device).within noticePart : Act S (HostInvoker S) _ _).Spares
      stock := by
  refine Act.Changes.part
    ((Host.watching_governs devices).spares_tryEach source target device hleaves []) ?_
  intro t _ s heq
  exact congrArg (·, t.2.compilers, t.2.cache, t.2.archs.length, t.2.compilations, t.2.launches) heq

structure Built (device : Nat) (source : KernelSource) (q : HostInvoker S)
    (o : Outcome KernelError HostFunction) (q' : HostInvoker S) : Prop where
  heap : q'.1.heap = q.1.heap
  kernels : q'.1.kernels = q.1.kernels
  compilers : q'.2.compilers = q.2.compilers
  cache : q'.2.cache = q.2.cache
  archs : q'.2.archs.length = q.2.archs.length
  launches : q'.2.launches = q.2.launches
  /-- A kernel that is built is the one registered under the name of the source. -/
  done : ∀ f, o = .ok f → f.entry = source.entry ∧ f.device = device ∧
    q.1.kernel? source.entry = some f.kernel ∧ q'.2.compilations = q.2.compilations + 1 ∧
    q'.1.trace = q.1.trace ++ [.compile source.entry device]
  undone : (∀ f, o ≠ .ok f) → q'.2.compilations = q.2.compilations ∧ q'.1.trace = q.1.trace

/-- What failed before anything was loaded. -/
lemma Built.of_stock (h : stock q' = stock q) (ho : ∀ f, o ≠ .ok f) :
    Built device source q o q' where
  heap := congrArg (·.1.1) h
  kernels := congrArg (·.1.2.1) h
  compilers := congrArg (·.2.1) h
  cache := congrArg (·.2.2.1) h
  archs := congrArg (·.2.2.2.1) h
  launches := congrArg (·.2.2.2.2.2) h
  done f hf := absurd hf (ho f)
  undone _ := ⟨congrArg (·.2.2.2.2.1) h, congrArg (·.1.2.2) h⟩

/-- Building loads the registered kernel last of all, and counts it. -/
lemma ensures_build (hleaves : ∀ c ∈ q.2.compilers, c.Leaves HostState.world) :
    (build (Host.platform devices) device source).Ensures q fun o q' =>
      Built device source q o q' := by
  refine Act.Ensures.bind (stock_arch q) ?_ ?_ ?_
  · intro name q₁ h₁
    refine .viewing ?_
    have hleaves₁ : ∀ c ∈ q₁.2.compilers, c.Leaves HostState.world := by
      rw [show q₁.2.compilers = q.2.compilers from congrArg (·.2.1) h₁]
      exact hleaves
    refine Act.Ensures.bind (stock_compile hleaves₁ source _ q₁) ?_ ?_ ?_
    · intro image q₂ h₂
      have h : stock q₂ = stock q := Eq.trans h₂ h₁
      rcases Host.load_cases (S := S) devices device image source.entry q₂.1 with
        ⟨kernel, hkernel, hload⟩ | ⟨e, hload⟩
      · refine .of_done (Act.bind_done (onPlatform_done hload)) ?_
        have hregistered : q.1.kernel? source.entry = some kernel := by
          rw [← HostState.kernel?_of_world (congrArg (·.1) h)]
          exact hkernel
        constructor
        · exact congrArg (·.1.1) h
        · exact congrArg (·.1.2.1) h
        · exact congrArg (·.2.1) h
        · exact congrArg (·.2.2.1) h
        · exact congrArg (·.2.2.2.1) h
        · exact congrArg (·.2.2.2.2.2) h
        · have htrace : q₂.1.trace = q.1.trace := congrArg (·.1.2.2) h
          rintro f ⟨⟩
          refine ⟨rfl, rfl, hregistered, congrArg (·.2.2.2.2.1 + 1) h, ?_⟩
          rw [← htrace]
          rfl
        · intro hfailed
          exact absurd rfl (hfailed _)
      · refine .of_done (Act.bind_error (onPlatform_done hload)) (.of_stock h ?_)
        simp
    · intro e q₂ h₂
      exact .of_stock (Eq.trans h₂ h₁) (by simp)
    · intro w q₂ h₂
      exact .of_stock (Eq.trans h₂ h₁) (by simp)
  · intro e q₁ h₁
    exact .of_stock h₁ (by simp)
  · intro w q₁ h₁
    exact .of_stock h₁ (by simp)

end Invoker

end ExpertExchange
