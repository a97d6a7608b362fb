import ExpertExchange.Proofs.Act.Watched
import ExpertExchange.Proofs.Kernel.Fetched
import ExpertExchange.Proofs.Kernel.Sound

/-!
# Compiled once

Calls on a cache leave a history: what was registered, what was looked up, and for every fetch
what its closure was run on, how that ended and what the fetch answered. The closures are any acts
on a state of their own, and any of them may fail. The history alone determines the cache: a slot
holds the value of the first successful run of a closure on its pair of handle and device. From
this follow the rules of the cache, among them that a pair is compiled once, and that it does not
matter to a pair what is called on others.
-/

namespace ExpertExchange.KernelCache

variable {S : Service} {ω F : Type}

abbrev Compilation (F : Type) := KernelSource × Outcome KernelError F

/-- What is seen of a call on a cache. -/
inductive Event (F : Type) where
  | inserted (source : KernelSource) (handle : KernelHandle)
  | looked (handle : KernelHandle) (answer : Outcome KernelError (CachedKernel F))
  | tested (handle : KernelHandle) (device : Nat) (answer : Outcome KernelError Bool)
  /-- The closure was run this often. -/
  | fetched (handle : KernelHandle) (device : Nat) (runs : List (Compilation F))
      (answer : Outcome KernelError F)

/-- A call on a cache. The closure of a fetch works on the state `ω`. -/
inductive Call (S : Service) (ω F : Type) where
  | insert (source : KernelSource)
  | get (handle : KernelHandle)
  | isCompiled (handle : KernelHandle) (device : Nat)
  | getOrCompile (handle : KernelHandle) (device : Nat)
      (compile : KernelSource → Act S ω KernelError F)

/-- The closure, with a note of every run of it. -/
def noting (compile : KernelSource → Act S ω KernelError F) (source : KernelSource) :
    Act S ((ω × KernelCache F) × List (Compilation F)) KernelError F := do
  let o ← ((compile source).within (Part.first.inside Part.first)).attempt
  Act.modify fun s => (s.1, s.2 ++ [(source, o)])
  Act.ofOutcome o

/-- Make the call, and tell what is seen of it. -/
def Call.run : Call S ω F → Act S (ω × KernelCache F) KernelError (Event F)
  | .insert source => do
    let inserted ← Act.view fun s => s.2.insert source
    Act.modify fun s => (s.1, inserted.2)
    pure (.inserted source inserted.1)
  | .get handle => do
    let answer ← Act.view fun s => s.2.get handle
    pure (.looked handle answer)
  | .isCompiled handle device => do
    let answer ← Act.view fun s => (s.2.get handle).bind fun k => .ok (k.isCompiled device)
    pure (.tested handle device answer)
  | .getOrCompile handle device compile => Act.alongside [] do
    let answer ← (KernelCache.getOrCompile (Part.first.inside Part.second) handle device
      (noting compile)).attempt
    let runs ← Act.view (·.2)
    pure (.fetched handle device runs answer)

/-- Make all calls, one after the other. -/
def runAll : List (Call S ω F) → Act S (ω × KernelCache F) KernelError (List (Event F))
  | [] => pure []
  | call :: rest => do
    let event ← call.run
    let events ← runAll rest
    pure (event :: events)

def Issued (events : List (Event F)) (handle : KernelHandle) : Prop :=
  ∃ source, .inserted source handle ∈ events

def Succeeded (events : List (Event F)) (handle : KernelHandle) (device : Nat) : Prop :=
  ∃ runs f, .fetched handle device runs (.ok f) ∈ events

/-- The value of the first successful run of the closure, if this is a fetch on the pair. -/
def Event.compiled? (handle : KernelHandle) (device : Nat) : Event F → Option F
  | .fetched handle' device' runs _ =>
    if handle' = handle ∧ device' = device then runs.findSome? (·.2.toOption) else none
  | _ => none

/-- The value of the first successful run of a closure on the pair. -/
def firstCompiled? (events : List (Event F)) (handle : KernelHandle) (device : Nat) : Option F :=
  events.findSome? (·.compiled? handle device)

def Event.isInserted : Event F → Bool
  | .inserted .. => true
  | _ => false

structure FetchAfter (devices : Nat) (before : List (Event F)) (handle : KernelHandle)
    (device : Nat) (runs : List (Compilation F)) (answer : Outcome KernelError F) : Prop where
  unknown : runs = [] ∧ answer = .error (.unknownHandle handle) ↔ ¬ Issued before handle
  invalid : Issued before handle →
    (runs = [] ∧ answer = .error (.invalidDevice device devices) ↔ devices ≤ device)
  /-- The closure is run unless a fetch on the pair succeeded. -/
  runs_iff : Issued before handle → device < devices →
    (runs ≠ [] ↔ ¬ Succeeded before handle device)
  /-- It is run once, on the source of the handle, and its end is that of the fetch. -/
  once : ∀ source o, (source, o) ∈ runs →
    runs = [(source, o)] ∧ .inserted source handle ∈ before ∧ answer = o
  /-- What a fetch gives is what the first successful run gave. -/
  first : ∀ f, answer = .ok f →
    firstCompiled? (before ++ [.fetched handle device runs answer]) handle device = some f

/-- What a call shows, after the events before it. -/
def Event.After (devices : Nat) (before : List (Event F)) : Event F → Prop
  | .inserted _ handle => handle.index = before.countP Event.isInserted
  | .looked handle answer =>
    (answer = .error (.unknownHandle handle) ↔ ¬ Issued before handle) ∧
    (Issued before handle → ∃ k, answer = .ok k ∧ .inserted k.source handle ∈ before ∧
      ∀ device, k.isCompiled device = true ↔ Succeeded before handle device)
  | .tested handle device answer =>
    (answer = .error (.unknownHandle handle) ↔ ¬ Issued before handle) ∧
    (answer = .ok true ↔ Succeeded before handle device)
  | .fetched handle device runs answer => FetchAfter devices before handle device runs answer

inductive Step (w : ω) (c : KernelCache F) :
    Call S ω F → Event F → ω → KernelCache F → Prop where
  | inserted (source : KernelSource) :
      Step w c (.insert source) (.inserted source ⟨c.size⟩) w (c.insert source).2
  | looked (handle : KernelHandle) : Step w c (.get handle) (.looked handle (c.get handle)) w c
  | tested (handle : KernelHandle) (device : Nat) :
      Step w c (.isCompiled handle device)
        (.tested handle device ((c.get handle).bind fun k => .ok (k.isCompiled device))) w c
  | refused {handle : KernelHandle} {device : Nat}
      {compile : KernelSource → Act S ω KernelError F} {why : KernelError}
      (h : c.slot handle device = .error why) :
      Step w c (.getOrCompile handle device compile) (.fetched handle device [] (.error why)) w c
  | found {handle : KernelHandle} {device : Nat}
      {compile : KernelSource → Act S ω KernelError F} {source : KernelSource} {f : F}
      (h : c.slot handle device = .ok (source, some f)) :
      Step w c (.getOrCompile handle device compile) (.fetched handle device [] (.ok f)) w c
  | compiled {handle : KernelHandle} {device : Nat}
      {compile : KernelSource → Act S ω KernelError F} {source : KernelSource} {f : F} {w' : ω}
      (h : c.slot handle device = .ok (source, none))
      (hrun : (compile source w).CanEnd (.ok f, w')) :
      Step w c (.getOrCompile handle device compile)
        (.fetched handle device [(source, .ok f)] (.ok f)) w' (c.fill handle device f)
  | failed {handle : KernelHandle} {device : Nat}
      {compile : KernelSource → Act S ω KernelError F} {source : KernelSource}
      {o : Outcome KernelError F} {w' : ω} (h : c.slot handle device = .ok (source, none))
      (hrun : (compile source w).CanEnd (o, w')) (ho : ∀ f, o ≠ .ok f) :
      Step w c (.getOrCompile handle device compile) (.fetched handle device [(source, o)] o) w' c

variable {w w' : ω} {c c' : KernelCache F} {call : Call S ω F} {event : Event F}

/-- A closure that is noted ends as it would without. -/
lemma canEnd_noting_iff {compile : KernelSource → Act S ω KernelError F} {source : KernelSource}
    {o : Outcome KernelError F} {notes : List (Compilation F)}
    {t : (ω × KernelCache F) × List (Compilation F)} :
    (noting compile source ((w, c), notes)).CanEnd (o, t) ↔
      ∃ w', (compile source w).CanEnd (o, w') ∧ t = ((w', c), notes ++ [(source, o)]) := by
  constructor
  · intro hend
    obtain ⟨⟨o₁, t₁⟩, h₁, h₂⟩ := Program.canEnd_bind_iff.1 hend
    obtain ⟨⟨o₂, t₂⟩, h₃, h₄⟩ := Program.canEnd_bind_iff.1 h₁
    cases Program.canEnd_done_iff.1 h₄
    obtain ⟨⟨o₃, w'⟩, hrun, h₅⟩ := Program.canEnd_bind_iff.1 h₃
    cases Program.canEnd_done_iff.1 h₅
    cases Program.canEnd_done_iff.1 h₂
    exact ⟨w', hrun, rfl⟩
  · rintro ⟨w', hrun, rfl⟩
    refine Program.canEnd_bind_iff.2 ⟨(.ok o, ((w', c), notes)), ?_, .done _⟩
    exact Program.canEnd_bind_iff.2
      ⟨(o, ((w', c), notes)), Program.canEnd_bind_iff.2 ⟨_, hrun, .done _⟩, .done _⟩

/-- What a fetch with a noted closure ends with, and the note. -/
lemma step_of_fetches {handle : KernelHandle} {device : Nat}
    {compile : KernelSource → Act S ω KernelError F} {ran : Option (Compilation F)}
    {o : Outcome KernelError F} {t : (ω × KernelCache F) × List (Compilation F)}
    (h : Fetches (Part.first.inside Part.second) handle device (noting compile) ((w, c), [])
      ran o t) :
    Step w c (.getOrCompile handle device compile) (.fetched handle device t.2 o) t.1.1 t.1.2 := by
  cases h with
  | refused h => exact .refused h
  | found h => exact .found h
  | compiled h hrun =>
    obtain ⟨w', hends, rfl⟩ := canEnd_noting_iff.1 hrun
    exact .compiled h hends
  | failed h hrun ho =>
    obtain ⟨w', hends, rfl⟩ := canEnd_noting_iff.1 hrun
    exact .failed h hends ho

/-- A call ends well, and as one of its steps. -/
lemma canEnd_run_iff {o : Outcome KernelError (Event F)} :
    (call.run (w, c)).CanEnd (o, (w', c')) ↔
      ∃ event, o = .ok event ∧ Step w c call event w' c' := by
  cases call with
  | insert source =>
    constructor
    · intro hend
      cases Program.canEnd_done_iff.1 hend
      exact ⟨_, rfl, .inserted source⟩
    · rintro ⟨event, rfl, ⟨⟩⟩
      exact .done _
  | get handle =>
    constructor
    · intro hend
      cases Program.canEnd_done_iff.1 hend
      exact ⟨_, rfl, .looked handle⟩
    · rintro ⟨event, rfl, ⟨⟩⟩
      exact .done _
  | isCompiled handle device =>
    constructor
    · intro hend
      cases Program.canEnd_done_iff.1 hend
      exact ⟨_, rfl, .tested handle device⟩
    · rintro ⟨event, rfl, ⟨⟩⟩
      exact .done _
  | getOrCompile handle device compile =>
    constructor
    · intro hend
      obtain ⟨⟨o₁, p₁, notes⟩, h₁, h₂⟩ := Program.canEnd_bind_iff.1 hend
      cases Program.canEnd_done_iff.1 h₂
      obtain ⟨⟨o₂, t₂⟩, h₃, h₄⟩ := Program.canEnd_bind_iff.1 h₁
      obtain ⟨⟨o₃, t₃⟩, h₅, h₆⟩ := Program.canEnd_bind_iff.1 h₃
      cases Program.canEnd_done_iff.1 h₆
      cases Program.canEnd_done_iff.1 h₄
      obtain ⟨ran, hfetch⟩ := canEnd_getOrCompile_iff.1 h₅
      exact ⟨_, rfl, step_of_fetches hfetch⟩
    · rintro ⟨event, rfl, hstep⟩
      suffices h : ∃ ran o t, Fetches (Part.first.inside Part.second) handle device
          (noting compile) ((w, c), []) ran o t ∧ event = .fetched handle device t.2 o ∧
          t.1 = (w', c') by
        obtain ⟨ran, o, t, hfetch, rfl, ht⟩ := h
        have hget := canEnd_getOrCompile_iff.2 ⟨ran, hfetch⟩
        refine Program.canEnd_bind_iff.2 ⟨(.ok (.fetched handle device t.2 o), t), ?_, ?_⟩
        · refine Program.canEnd_bind_iff.2 ⟨(.ok o, t), ?_, .done _⟩
          exact Program.canEnd_bind_iff.2 ⟨_, hget, .done _⟩
        · rw [ht]
          exact .done _
      cases hstep with
      | refused h => exact ⟨none, _, _, .refused h, rfl, rfl⟩
      | found h => exact ⟨none, _, _, .found h, rfl, rfl⟩
      | compiled h hrun =>
        exact ⟨_, _, _, .compiled h (canEnd_noting_iff.2 ⟨_, hrun, rfl⟩), rfl, rfl⟩
      | failed h hrun ho =>
        exact ⟨_, _, _, .failed h (canEnd_noting_iff.2 ⟨_, hrun, rfl⟩) ho, rfl, rfl⟩

lemma firstCompiled?_concat (events : List (Event F)) (event : Event F) (handle : KernelHandle)
    (device : Nat) : firstCompiled? (events ++ [event]) handle device =
      (firstCompiled? events handle device).or (event.compiled? handle device) := by
  rw [firstCompiled?, List.findSome?_append, firstCompiled?]
  simp

lemma succeeded_concat {events : List (Event F)} {event : Event F} {handle : KernelHandle}
    {device : Nat} : Succeeded (events ++ [event]) handle device ↔
      Succeeded events handle device ∨ ∃ runs f, event = .fetched handle device runs (.ok f) := by
  simp only [Succeeded, List.mem_append, List.mem_singleton]
  constructor
  · rintro ⟨runs, f, hold | rfl⟩
    · exact .inl ⟨runs, f, hold⟩
    · exact .inr ⟨runs, f, rfl⟩
  · rintro (⟨runs, f, hold⟩ | ⟨runs, f, rfl⟩)
    · exact ⟨runs, f, .inl hold⟩
    · exact ⟨runs, f, .inr rfl⟩

structure Records (devices : Nat) (events : List (Event F)) (c : KernelCache F) : Prop where
  deviceCount : c.deviceCount = devices
  slots : ∀ k ∈ c.kernels, k.slots.length = devices
  size : c.size = events.countP Event.isInserted
  inserted : ∀ source handle, .inserted source handle ∈ events ↔
    ∃ k, c.kernels[handle.index]? = some k ∧ k.source = source
  compiled : ∀ handle device f, firstCompiled? events handle device = some f ↔
    ∃ source, c.slot handle device = .ok (source, some f)
  succeeded : ∀ handle device, Succeeded events handle device ↔
    (firstCompiled? events handle device).isSome

namespace Records

variable {devices : Nat} {events : List (Event F)} {handle : KernelHandle} {device : Nat}

lemma empty (devices : Nat) : Records devices [] (KernelCache.empty devices : KernelCache F) where
  deviceCount := rfl
  slots := by simp [KernelCache.empty]
  size := rfl
  inserted := by simp [KernelCache.empty]
  compiled := by
    intro handle device f
    simp [firstCompiled?, slot, get, KernelCache.empty, Outcome.orError, Outcome.bind]
  succeeded := by simp [Succeeded, firstCompiled?]

lemma issued_iff (h : Records devices events c) : Issued events handle ↔ handle.index < c.size := by
  simp only [Issued, h.inserted, KernelCache.size]
  constructor
  · rintro ⟨source, k, hk, -⟩
    exact (List.getElem?_eq_some_iff.1 hk).1
  · intro hlt
    exact ⟨_, _, List.getElem?_eq_getElem hlt, rfl⟩

/-- What the history says of a slot. -/
lemma slot_cases (h : Records devices events c) (handle : KernelHandle) (device : Nat) :
    (¬ Issued events handle ∧ c.slot handle device = .error (.unknownHandle handle)) ∨
    (Issued events handle ∧ devices ≤ device ∧
      c.slot handle device = .error (.invalidDevice device devices)) ∨
    (Issued events handle ∧ device < devices ∧ ∃ source, .inserted source handle ∈ events ∧
      c.slot handle device = .ok (source, firstCompiled? events handle device)) := by
  rcases KernelCache.slot_cases c handle device with
    ⟨hlen, hslot⟩ | ⟨k, hk, hlen, hslot⟩ | ⟨k, filled, hk, hs, hslot⟩
  · left
    refine ⟨?_, hslot⟩
    rw [h.issued_iff]
    omega
  · right; left
    refine ⟨⟨k.source, (h.inserted _ _).2 ⟨k, hk, rfl⟩⟩, ?_, ?_⟩
    · rw [← h.slots k (List.mem_of_getElem? hk)]
      exact hlen
    · rw [hslot, h.deviceCount]
  · right; right
    have hmem := (h.inserted _ _).2 ⟨k, hk, rfl⟩
    refine ⟨⟨k.source, hmem⟩, ?_, k.source, hmem, ?_⟩
    · rw [← h.slots k (List.mem_of_getElem? hk)]
      exact (List.getElem?_eq_some_iff.1 hs).1
    · rw [hslot]
      cases filled with
      | some f => rw [(h.compiled handle device f).2 ⟨k.source, hslot⟩]
      | none =>
        cases hfirst : firstCompiled? events handle device with
        | none => rfl
        | some f =>
          obtain ⟨source, hfilled⟩ := (h.compiled handle device f).1 hfirst
          rw [hslot] at hfilled
          cases hfilled

/-- Events that neither register nor compile anything. -/
lemma quiet (h : Records devices events c) (hinserted : event.isInserted = false)
    (hcompiled : ∀ handle device, event.compiled? handle device = none)
    (hanswer : ∀ handle device runs f, event = .fetched handle device runs (.ok f) →
      (firstCompiled? events handle device).isSome) :
    Records devices (events ++ [event]) c where
  deviceCount := h.deviceCount
  slots := h.slots
  size := by simp [h.size, hinserted]
  inserted := by
    intro source handle
    rw [← h.inserted, List.mem_append, List.mem_singleton]
    constructor
    · rintro (hmem | rfl)
      · exact hmem
      · cases hinserted
    · exact .inl
  compiled := by
    intro handle device f
    rw [firstCompiled?_concat, hcompiled, Option.or_none]
    exact h.compiled handle device f
  succeeded := by
    intro handle device
    rw [firstCompiled?_concat, hcompiled, Option.or_none, succeeded_concat, h.succeeded]
    constructor
    · rintro (hold | ⟨runs, f, hnew⟩)
      · exact hold
      · exact hanswer handle device runs f hnew
    · exact .inl

lemma insert (h : Records devices events c) (source : KernelSource) :
    Records devices (events ++ [.inserted source ⟨c.size⟩]) (c.insert source).2 where
  deviceCount := h.deviceCount
  slots := by
    intro k hk
    rcases List.mem_append.1 hk with hold | hnew
    · exact h.slots k hold
    · rw [List.mem_singleton.1 hnew, List.length_replicate, h.deviceCount]
  size := by
    have hsize := h.size
    simp only [KernelCache.size] at hsize
    simp [KernelCache.size, KernelCache.insert, Event.isInserted, hsize]
  inserted := by
    intro source' handle
    rw [List.mem_append, List.mem_singleton, h.inserted]
    simp only [KernelCache.insert, List.getElem?_append, KernelCache.size]
    cases handle with | mk index =>
    rcases Nat.lt_trichotomy index c.kernels.length with hlt | heq | hgt
    · simp [hlt, Nat.ne_of_lt hlt]
    · subst heq
      simp [eq_comm]
    · have hne : index - c.kernels.length ≠ 0 := by omega
      have hout : c.kernels.length ≤ index := by omega
      simp [Nat.not_lt.2 hout, hne, Nat.ne_of_gt hgt]
  compiled := by
    intro handle device f
    have hnone : (Event.inserted source ⟨c.size⟩ : Event F).compiled? handle device = none := rfl
    simp only [firstCompiled?_concat, hnone, Option.or_none, h.compiled, slot_insert_filled_iff]
  succeeded := by
    intro handle device
    have hnone : (Event.inserted source ⟨c.size⟩ : Event F).compiled? handle device = none := rfl
    simp [firstCompiled?_concat, hnone, succeeded_concat, h.succeeded]

/-- The first success on a pair fills its slot. -/
lemma fill (h : Records devices events c) {source : KernelSource} {f : F}
    (hslot : c.slot handle device = .ok (source, none)) :
    Records devices (events ++ [.fetched handle device [(source, .ok f)] (.ok f)])
      (c.fill handle device f) where
  deviceCount := h.deviceCount
  slots := by
    intro k hk
    obtain ⟨k₀, hk₀, rfl | rfl⟩ := AllSound.mem_of_mem_modify hk
    · exact h.slots k hk₀
    · rw [List.length_modify]
      exact h.slots k₀ hk₀
  size := by
    have hsize := h.size
    simp only [KernelCache.size] at hsize
    simp [KernelCache.size, KernelCache.fill, Event.isInserted, hsize]
  inserted := by
    intro source' handle'
    rw [List.mem_append, List.mem_singleton, h.inserted, getElem?_fill]
    simp only [reduceCtorEq, or_false, Option.map_eq_some_iff]
    constructor
    · rintro ⟨k, hk, rfl⟩
      refine ⟨_, ⟨k, hk, rfl⟩, ?_⟩
      split <;> rfl
    · rintro ⟨_, ⟨k, hk, rfl⟩, rfl⟩
      refine ⟨k, hk, ?_⟩
      split <;> rfl
  compiled := by
    intro handle' device' g
    rw [firstCompiled?_concat, slot_fill_eq]
    by_cases hsame : handle = handle' ∧ device = device'
    · obtain ⟨rfl, rfl⟩ := hsame
      have hfirst : firstCompiled? events handle device = none := by
        cases hfirst : firstCompiled? events handle device with
        | none => rfl
        | some f₀ =>
          obtain ⟨source₀, hfilled⟩ := (h.compiled handle device f₀).1 hfirst
          rw [hslot] at hfilled
          cases hfilled
      simp [hfirst, hslot, Event.compiled?, Outcome.toOption, Outcome.bind]
    · simp only [Event.compiled?, if_neg hsame, Option.or_none, h.compiled]
      cases hslot' : c.slot handle' device' with
      | ok found =>
        obtain ⟨source', filled⟩ := found
        simp [Outcome.bind]
      | error why => simp [Outcome.bind]
      | fault reason => simp [Outcome.bind]
  succeeded := by
    intro handle' device'
    rw [firstCompiled?_concat, Option.isSome_or, Bool.or_eq_true, succeeded_concat, h.succeeded]
    by_cases hsame : handle = handle' ∧ device = device'
    · obtain ⟨rfl, rfl⟩ := hsame
      simp [Event.compiled?, Outcome.toOption]
    · simp only [Event.compiled?, if_neg hsame, Event.fetched.injEq, Option.isSome_none,
        Bool.false_eq_true, or_false, or_iff_left_iff_imp]
      rintro ⟨runs, g, hhandle, hdevice, -⟩
      exact absurd ⟨hhandle, hdevice⟩ hsame

lemma step (h : Records devices events c) (hstep : Step w c call event w' c') :
    Records devices (events ++ [event]) c' := by
  cases hstep with
  | inserted source => exact h.insert source
  | looked handle =>
    refine h.quiet rfl (fun _ _ => rfl) ?_
    rintro _ _ _ _ ⟨⟩
  | tested handle device =>
    refine h.quiet rfl (fun _ _ => rfl) ?_
    rintro _ _ _ _ ⟨⟩
  | refused hslot =>
    refine h.quiet rfl (fun _ _ => by simp [Event.compiled?]) ?_
    rintro _ _ _ _ ⟨⟩
  | found hslot =>
    refine h.quiet rfl (fun _ _ => by simp [Event.compiled?]) ?_
    rintro _ _ _ _ ⟨⟩
    rw [(h.compiled _ _ _).2 ⟨_, hslot⟩]
    rfl
  | compiled hslot hrun => exact h.fill hslot
  | @failed _ _ _ source o _ hslot hrun ho =>
    have hnone : o.toOption = none := by
      cases o with
      | ok f => exact absurd rfl (ho f)
      | error e => rfl
      | fault reason => rfl
    refine h.quiet rfl (fun _ _ => by simp [Event.compiled?, hnone]) ?_
    rintro _ _ _ f ⟨⟩
    exact absurd rfl (ho f)

lemma issued_of_succeeded (h : Records devices events c) (hs : Succeeded events handle device) :
    Issued events handle := by
  obtain ⟨f, hfirst⟩ := Option.isSome_iff_exists.1 ((h.succeeded _ _).1 hs)
  obtain ⟨source, hslot⟩ := (h.compiled _ _ _).1 hfirst
  obtain ⟨slots, hk, -⟩ := slot_eq_iff.1 hslot
  exact ⟨source, (h.inserted _ _).2 ⟨_, hk, rfl⟩⟩

lemma get_cases (h : Records devices events c) (handle : KernelHandle) :
    (¬ Issued events handle ∧ c.get handle = .error (.unknownHandle handle)) ∨
    (Issued events handle ∧ ∃ k, c.get handle = .ok k ∧ .inserted k.source handle ∈ events ∧
      ∀ device, k.isCompiled device = true ↔ Succeeded events handle device) := by
  rw [h.issued_iff, KernelCache.size]
  cases hk : c.kernels[handle.index]? with
  | none =>
    left
    refine ⟨?_, by rw [KernelCache.get, hk]; rfl⟩
    simpa using hk
  | some k =>
    right
    refine ⟨(List.getElem?_eq_some_iff.1 hk).1, k, by rw [KernelCache.get, hk]; rfl,
      (h.inserted _ _).2 ⟨k, hk, rfl⟩, ?_⟩
    intro device
    rw [isCompiled_iff hk, h.succeeded, Option.isSome_iff_exists]
    apply exists_congr
    intro f
    rw [h.compiled]
    constructor
    · intro hslot
      exact ⟨_, hslot⟩
    · rintro ⟨source, hslot⟩
      obtain ⟨slots, hk', -⟩ := slot_eq_iff.1 hslot
      rw [hk, Option.some.injEq] at hk'
      rw [hslot, hk']

lemma fetchAfter (h : Records devices events c) {compile : KernelSource → Act S ω KernelError F}
    {runs : List (Compilation F)} {answer : Outcome KernelError F}
    (hstep : Step w c (.getOrCompile handle device compile) (.fetched handle device runs answer)
      w' c') : FetchAfter devices events handle device runs answer := by
  rcases h.slot_cases handle device with
    ⟨hissued, hslot⟩ | ⟨hissued, hle, hslot⟩ | ⟨hissued, hlt, source, hmem, hslot⟩
  · cases hstep with
    | refused hwhy =>
      obtain rfl := Outcome.error.inj (hslot.symm.trans hwhy)
      constructor <;> simp [hissued]
    | found hfound => cases hslot.symm.trans hfound
    | compiled hempty => cases hslot.symm.trans hempty
    | failed hempty => cases hslot.symm.trans hempty
  · cases hstep with
    | refused hwhy =>
      obtain rfl := Outcome.error.inj (hslot.symm.trans hwhy)
      constructor <;> simp [hissued, hle, Nat.not_lt.2 hle]
    | found hfound => cases hslot.symm.trans hfound
    | compiled hempty => cases hslot.symm.trans hempty
    | failed hempty => cases hslot.symm.trans hempty
  · have hnot : ¬ devices ≤ device := Nat.not_le.2 hlt
    have hsucceeded := h.succeeded handle device
    cases hstep with
    | refused hwhy => cases hslot.symm.trans hwhy
    | found hfound =>
      obtain ⟨rfl, hfirst⟩ := Prod.mk.inj (Outcome.ok.inj (hslot.symm.trans hfound))
      rw [hfirst] at hsucceeded
      constructor <;> simp [hissued, hnot, hsucceeded, firstCompiled?_concat, hfirst]
    | compiled hempty =>
      obtain ⟨rfl, hfirst⟩ := Prod.mk.inj (Outcome.ok.inj (hslot.symm.trans hempty))
      rw [hfirst] at hsucceeded
      constructor <;> simp [hissued, hnot, hsucceeded, hmem, firstCompiled?_concat, hfirst,
        Event.compiled?, Outcome.toOption]
    | failed hempty hrun ho =>
      obtain ⟨rfl, hfirst⟩ := Prod.mk.inj (Outcome.ok.inj (hslot.symm.trans hempty))
      rw [hfirst] at hsucceeded
      constructor <;> simp [hissued, hnot, hsucceeded, hmem, ho]

lemma after (h : Records devices events c) (hstep : Step w c call event w' c') :
    event.After devices events := by
  cases event with
  | inserted source handle =>
    cases hstep
    exact h.size
  | looked handle answer =>
    cases hstep
    rcases h.get_cases handle with ⟨hissued, hget⟩ | ⟨hissued, k, hget, hk⟩
    · simp [Event.After, hget, hissued]
    · simp only [Event.After, hget, hissued]
      exact ⟨by simp, fun _ => ⟨k, rfl, hk⟩⟩
  | tested handle device answer =>
    cases hstep
    rcases h.get_cases handle with ⟨hissued, hget⟩ | ⟨hissued, k, hget, hmem, hk⟩
    · have hnever : ¬ Succeeded events handle device := by
        intro hsucceeded
        exact hissued (h.issued_of_succeeded hsucceeded)
      simp [Event.After, hget, hissued, hnever, Outcome.bind]
    · simp [Event.After, hget, hissued, Outcome.bind, hk]
  | fetched handle device runs answer =>
    cases call with
    | insert source => cases hstep
    | get handle => cases hstep
    | isCompiled handle device => cases hstep
    | getOrCompile handle' device' compile =>
      have hsame : handle' = handle ∧ device' = device := by cases hstep <;> exact ⟨rfl, rfl⟩
      obtain ⟨rfl, rfl⟩ := hsame
      exact h.fetchAfter hstep

end Records

/-- What a row of calls can show and lead to. -/
inductive Run : ω → KernelCache F → List (Call S ω F) → List (Event F) → ω → KernelCache F →
    Prop where
  | nil (w : ω) (c : KernelCache F) : Run w c [] [] w c
  | cons {w w₁ w₂ : ω} {c c₁ c₂ : KernelCache F} {call : Call S ω F} {calls : List (Call S ω F)}
      {event : Event F} {events : List (Event F)} (hstep : Step w c call event w₁ c₁)
      (hrest : Run w₁ c₁ calls events w₂ c₂) : Run w c (call :: calls) (event :: events) w₂ c₂

variable {calls : List (Call S ω F)} {events : List (Event F)}

/-- A row of calls ends well, and as the steps in a row. -/
lemma canEnd_runAll_iff {o : Outcome KernelError (List (Event F))} :
    (runAll calls (w, c)).CanEnd (o, (w', c')) ↔
      ∃ events, o = .ok events ∧ Run w c calls events w' c' := by
  induction calls generalizing w w' c c' o with
  | nil =>
    constructor
    · intro hend
      cases Program.canEnd_done_iff.1 hend
      exact ⟨[], rfl, .nil w c⟩
    · rintro ⟨events, rfl, ⟨⟩⟩
      exact .done _
  | cons call calls ih =>
    constructor
    · intro hend
      obtain ⟨⟨o₁, w₁, c₁⟩, h₁, h₂⟩ := Program.canEnd_bind_iff.1 hend
      obtain ⟨event, rfl, hstep⟩ := canEnd_run_iff.1 h₁
      obtain ⟨⟨o₂, w₂, c₂⟩, h₃, h₄⟩ := Program.canEnd_bind_iff.1 h₂
      obtain ⟨events, rfl, hrest⟩ := ih.1 h₃
      cases Program.canEnd_done_iff.1 h₄
      exact ⟨event :: events, rfl, .cons hstep hrest⟩
    · rintro ⟨events, rfl, hrun⟩
      cases hrun with
      | cons hstep hrest =>
        refine Program.canEnd_bind_iff.2 ⟨_, canEnd_run_iff.2 ⟨_, rfl, hstep⟩, ?_⟩
        exact Program.canEnd_bind_iff.2 ⟨_, ih.2 ⟨_, rfl, hrest⟩, .done _⟩

/-- Every call of a run shows what it should after the calls before it, and all are recorded. -/
lemma Records.run {devices : Nat} {done : List (Event F)} (h : Records devices done c)
    (hrun : Run w c calls events w' c') :
    (∀ before event after, events = before ++ event :: after →
      event.After devices (done ++ before)) ∧ Records devices (done ++ events) c' := by
  induction hrun generalizing done with
  | nil w c =>
    constructor
    · intro before event after heq
      simp at heq
    · simpa using h
  | cons hstep hrest ih =>
    obtain ⟨hafter, hrecords⟩ := ih (h.step hstep)
    constructor
    · intro before event' after heq
      cases before with
      | nil =>
        obtain ⟨rfl, -⟩ := List.cons.inj heq
        rw [List.append_nil]
        exact h.after hstep
      | cons first before =>
        obtain ⟨rfl, hrest⟩ := List.cons.inj heq
        simpa using hafter before event' after hrest
    · simpa using hrecords

/-- Whether the call can matter to the pair: it registers a source, or is on the pair. -/
def Call.concerns (handle : KernelHandle) (device : Nat) : Call S ω F → Bool
  | .insert _ => true
  | .get _ => false
  | .isCompiled handle' device' => handle' = handle ∧ device' = device
  | .getOrCompile handle' device' _ => handle' = handle ∧ device' = device

/-- Whether the event is of a call on the pair. -/
def Event.isOn (handle : KernelHandle) (device : Nat) : Event F → Bool
  | .inserted .. => false
  | .looked .. => false
  | .tested handle' device' _ => handle' = handle ∧ device' = device
  | .fetched handle' device' _ _ => handle' = handle ∧ device' = device

/-- The closure of the call, if it has one, leaves the state of the closures alone. -/
def Call.SparesState : Call S ω F → Prop
  | .getOrCompile _ _ compile => ∀ source, (compile source).Spares id
  | _ => True

structure SameFor (handle : KernelHandle) (device : Nat) (c d : KernelCache F) : Prop where
  deviceCount : c.deviceCount = d.deviceCount
  size : c.size = d.size
  slot : c.slot handle device = d.slot handle device

namespace SameFor

variable {handle : KernelHandle} {device : Nat} {d : KernelCache F}

lemma trans {c₁ c₂ c₃ : KernelCache F} (h : SameFor handle device c₁ c₂)
    (h' : SameFor handle device c₂ c₃) : SameFor handle device c₁ c₃ :=
  ⟨h.deviceCount.trans h'.deviceCount, h.size.trans h'.size, h.slot.trans h'.slot⟩

/-- A call that does not concern the pair. -/
lemma of_step (hstep : Step w c call event w' c') (hother : call.concerns handle device = false) :
    SameFor handle device c' c ∧ event.isOn handle device = false := by
  cases hstep with
  | inserted source => cases hother
  | looked handle' => exact ⟨⟨rfl, rfl, rfl⟩, rfl⟩
  | tested handle' device' => exact ⟨⟨rfl, rfl, rfl⟩, hother⟩
  | refused hslot => exact ⟨⟨rfl, rfl, rfl⟩, hother⟩
  | found hslot => exact ⟨⟨rfl, rfl, rfl⟩, hother⟩
  | failed hslot hrun ho => exact ⟨⟨rfl, rfl, rfl⟩, hother⟩
  | @compiled handle' device' _ _ f _ hslot hrun =>
    have hdiffers : ¬ (handle' = handle ∧ device' = device) := by
      simpa [Call.concerns] using hother
    refine ⟨⟨rfl, by simp [KernelCache.size, fill], ?_⟩, hother⟩
    simp only [slot_fill_eq, if_neg hdiffers]
    cases c.slot handle device <;> rfl

lemma insert (h : SameFor handle device c d) (source : KernelSource) :
    SameFor handle device (c.insert source).2 (d.insert source).2 := by
  have hsize := h.size
  refine ⟨h.deviceCount, ?_, ?_⟩
  · simp only [KernelCache.size] at hsize
    simp [KernelCache.size, KernelCache.insert, hsize]
  · rw [slot_insert_eq, slot_insert_eq, h.size, h.deviceCount, h.slot]

/-- In both the pair is compiled, or in neither. -/
lemma tested (h : SameFor handle device c d) :
    ((c.get handle).bind fun k => .ok (k.isCompiled device)) =
      (d.get handle).bind fun k => .ok (k.isCompiled device) := by
  rw [tested_eq, tested_eq, h.slot]

/-- A call that concerns the pair goes the same way in both caches. -/
lemma step (h : SameFor handle device c d) (hstep : Step w c call event w' c')
    (hconcerns : call.concerns handle device = true) :
    ∃ d', Step w d call event w' d' ∧ SameFor handle device c' d' := by
  cases hstep with
  | inserted source =>
    refine ⟨_, ?_, h.insert source⟩
    rw [h.size]
    exact .inserted source
  | looked handle' => cases hconcerns
  | tested handle' device' =>
    obtain ⟨rfl, rfl⟩ : handle' = handle ∧ device' = device := by
      simpa [Call.concerns] using hconcerns
    refine ⟨d, ?_, h⟩
    rw [h.tested]
    exact .tested handle' device'
  | @refused handle' device' _ _ hslot =>
    obtain ⟨rfl, rfl⟩ : handle' = handle ∧ device' = device := by
      simpa [Call.concerns] using hconcerns
    exact ⟨d, .refused (h.slot ▸ hslot), h⟩
  | @found handle' device' _ _ _ hslot =>
    obtain ⟨rfl, rfl⟩ : handle' = handle ∧ device' = device := by
      simpa [Call.concerns] using hconcerns
    exact ⟨d, .found (h.slot ▸ hslot), h⟩
  | @failed handle' device' _ _ _ _ hslot hrun ho =>
    obtain ⟨rfl, rfl⟩ : handle' = handle ∧ device' = device := by
      simpa [Call.concerns] using hconcerns
    exact ⟨d, .failed (h.slot ▸ hslot) hrun ho, h⟩
  | @compiled handle' device' _ _ f _ hslot hrun =>
    obtain ⟨rfl, rfl⟩ : handle' = handle ∧ device' = device := by
      simpa [Call.concerns] using hconcerns
    refine ⟨_, .compiled (h.slot ▸ hslot) hrun, h.deviceCount, ?_, ?_⟩
    · simpa [KernelCache.size, fill] using h.size
    · rw [slot_fill_eq, slot_fill_eq, h.slot]

/-- A run without the calls that do not concern the pair shows the same of the pair. -/
lemma run (h : SameFor handle device c d) (hrun : Run w c calls events w' c')
    (hspares : ∀ call ∈ calls, call.concerns handle device = false → call.SparesState) :
    ∃ events' w'' d', Run w d (calls.filter (Call.concerns handle device)) events' w'' d' ∧
      events'.filter (Event.isOn handle device) = events.filter (Event.isOn handle device) := by
  induction hrun generalizing d with
  | nil w c => exact ⟨[], w, d, .nil w d, rfl⟩
  | @cons w w₁ w₂ c c₁ c₂ call calls event events hstep hrest ih =>
    have hrest' := fun call' hmem => hspares call' (List.mem_cons_of_mem call hmem)
    cases hconcerns : call.concerns handle device with
    | true =>
      obtain ⟨d₁, hstep', hsame⟩ := h.step hstep hconcerns
      obtain ⟨events', w'', d', hrun', hevents⟩ := ih hsame hrest'
      refine ⟨event :: events', w'', d', ?_, ?_⟩
      · rw [List.filter_cons_of_pos hconcerns]
        exact .cons hstep' hrun'
      · simp only [List.filter_cons, hevents]
    | false =>
      obtain ⟨hsame, hoff⟩ := of_step hstep hconcerns
      have hstate : w₁ = w := by
        have hspare := hspares call List.mem_cons_self hconcerns
        cases hstep with
        | compiled hslot hrun => exact hspare _ _ _ _ hrun
        | failed hslot hrun ho => exact hspare _ _ _ _ hrun
        | _ => rfl
      obtain ⟨events', w'', d', hrun', hevents⟩ := ih (hsame.trans h) hrest'
      refine ⟨events', w'', d', ?_, ?_⟩
      · rw [List.filter_cons_of_neg (by simp [hconcerns]), ← hstate]
        exact hrun'
      · rw [hevents, List.filter_cons_of_neg (by simp [hoff])]

end SameFor

/-- The rules of the cache, for every row of calls with any handles, devices and closures. Every
call shows what `Event.After` says, after the calls before it: handles are given out in order and
keep their source; a fetch is refused for an unknown handle, or else for a device out of range,
and its closure is not run then; otherwise it is run unless a fetch on the pair succeeded before;
what is given is the value of the first successful run on the pair. And no pair depends on the
calls on others: none of them changes what the cache says about its slot, and had those whose
closures leave the common state alone not been made, the same would have been seen of the pair. -/
theorem compiled_once (devices : Nat) (calls : List (Call S ω F)) (w : ω) :
    (runAll calls).Ensures (w, KernelCache.empty devices) fun o s =>
      ∃ events, o = .ok events ∧
        (∀ before event after, events = before ++ event :: after → event.After devices before) ∧
        ∀ handle device,
          (∀ call : Call S ω F, call.concerns handle device = false →
            call.run.Ensures s fun _ s' => s'.2.slot handle device = s.2.slot handle device) ∧
          ((∀ call ∈ calls, call.concerns handle device = false → call.SparesState) →
            ∃ events' s', (runAll (calls.filter (Call.concerns handle device))
                (w, KernelCache.empty devices)).CanEnd (.ok events', s') ∧
              events'.filter (Event.isOn handle device) =
                events.filter (Event.isOn handle device)) := by
  rintro o ⟨w', c'⟩ hend
  obtain ⟨events, rfl, hrun⟩ := canEnd_runAll_iff.1 hend
  refine ⟨events, rfl, ((Records.empty devices).run hrun).1, ?_⟩
  intro handle device
  constructor
  · rintro call hother o ⟨w'', c''⟩ hcall
    obtain ⟨event, rfl, hstep⟩ := canEnd_run_iff.1 hcall
    exact (SameFor.of_step hstep hother).1.slot
  · intro hspares
    have hsame : SameFor handle device (KernelCache.empty devices : KernelCache F)
        (KernelCache.empty devices) := ⟨rfl, rfl, rfl⟩
    obtain ⟨events', w'', d', hrun', hevents⟩ := hsame.run hrun hspares
    exact ⟨events', (w'', d'), canEnd_runAll_iff.2 ⟨events', rfl, hrun'⟩, hevents⟩

end ExpertExchange.KernelCache
