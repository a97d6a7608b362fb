import ExpertExchange.Host.Kernels
import ExpertExchange.Proofs.Exchange.Participant
import ExpertExchange.Proofs.Kernel.EntryPoint
import Mathlib.Tactic.Choose

/-!
# Joining a group makes a participant

A process that has joined a simulated group sets up its scheduler: a pool of event slots, and the
two regrouping kernels. On a host platform with the library's kernels it cannot fail, and makes the
process a participant.
-/

namespace ExpertExchange

namespace RegroupUnit

lemma entries_source (unit : RegroupUnit) :
    (KernelSource.afterMarkersFrom 0 unit.source.toList).map KernelSource.entryName? =
      [some unit.entry.toList] := by
  cases unit <;>
  · simp only [source, suffix, cType, entry, String.toList_intercalate, String.toList_append,
      List.map_cons, List.map_nil]
    repeat rw [String.toList_ofList]
    decide +kernel

lemma parse_source (unit : RegroupUnit) :
    ∃ source, KernelSource.parse unit.source = .ok source ∧ source.entry = unit.entry := by
  obtain ⟨after, hmarkers, hname⟩ := List.map_eq_singleton_iff.1 (entries_source unit)
  obtain ⟨source, hparse, hentry⟩ := KernelSource.parse_eq hmarkers hname
  exact ⟨source, hparse, hentry.trans String.ofList_toList⟩

lemma kernel?_own [TensorLibrary] (unit : RegroupUnit) (h : Heap) (t : Trace) (l : List LogRecord) :
    (HostState.mk h Host.ownKernels t l).kernel? unit.entry = some (Regroup.hostKernel unit) := by
  cases unit <;> rfl

end RegroupUnit

namespace RegroupKernels

variable {devices device r : Nat} {g : Bytes} {p : HostKernels}

def OnPlatform (p : HostKernels) : Prop :=
  ∀ unit : RegroupUnit, p.1.kernel? unit.entry = some (Regroup.hostKernel unit)

lemma runs_injectUnit (hp : Invoker.OnHost devices p) (hd : device < devices)
    (hkernels : OnPlatform p) (unit : RegroupUnit) :
    (Invoker.inject (Host.platform devices) unit.source).Runs g r p [] fun handle p' =>
      Invoker.Grown devices p p' ∧
        Invoker.Provides p' handle device unit.entry (Regroup.hostKernel unit) := by
  obtain ⟨source, hparse, hentry⟩ := unit.parse_source
  rw [← hentry]
  exact Invoker.runs_inject hp hd hparse (hentry ▸ hkernels unit)

lemma runs_install (hp : Invoker.OnHost devices p) (hd : device < devices)
    (hkernels : OnPlatform p) :
    (install (Host.platform devices) device).Runs g r p [] fun k p' =>
      p'.1.heap = p.1.heap ∧ k.Provided device p' := by
  refine .after (runs_injectUnit hp hd hkernels .byte) fun byte p₁ ⟨h₁, hbyte⟩ => ?_
  have hkernels₁ : OnPlatform p₁ := fun unit => (h₁.kernel? _).trans (hkernels unit)
  refine .after (runs_injectUnit (h₁.onHost hp) hd hkernels₁ .vector) ?_
  rintro vector p₂ ⟨h₂, hvector⟩
  refine .after (Invoker.runs_function hvector hd) fun f p₃ ⟨hf, hheap, h₃⟩ => ?_
  have hbyte₃ := h₃ _ _ _ _ (h₂.provides _ _ _ _ hbyte)
  have hvector₃ := h₃ _ _ _ _ hvector
  refine .step rfl (.step rfl (.pure ⟨hheap.trans (h₂.heap.trans h₁.heap), fun unit => ?_⟩))
  cases unit with
  | byte => exact ⟨hbyte₃.compiler, hbyte₃.device_lt, hbyte₃.registered, hbyte₃.slot⟩
  | vector => exact ⟨hvector₃.compiler, hvector₃.device_lt, hvector₃.registered, hvector₃.slot⟩

end RegroupKernels

namespace Scheduler

open SimulatedLink

variable {devices device W L r : Nat} {g : Bytes} {p : HostKernels}

lemma runs_createFrom {s : HostState} {first count : Nat} {made : List HostEvent}
    (hd : device < devices) :
    (Slots.createFrom (Host.platform devices) device first count made).Runs g r s []
      fun events s' => s' = s ∧ events.length = made.length + count := by
  induction count generalizing first made with
  | zero => exact .pure ⟨rfl, rfl⟩
  | succ count ih =>
    have hevent : ((Host.platform devices).createEvent device first : Act Net _ _ _) s =
        .done (.ok ⟨device, first⟩, s) := Act.bind_done (Invoker.hostCheckDevice_eq hd)
    refine .after (.orElseClean (.of_done (Q := fun _ s' => s' = s) hevent rfl)) ?_
    rintro event _ rfl
    refine ih.mono ?_
    rintro events _ ⟨rfl, hlength⟩
    refine ⟨rfl, ?_⟩
    rw [hlength, List.length_append, List.length_singleton]
    omega

variable [TensorLibrary]

/-- Setting up the scheduler succeeds, and makes the process a participant. -/
theorem runs_create {comm : Communicator SimulatedLink} {settings : Settings}
    (hp : Invoker.OnHost devices p) (hkernels : RegroupKernels.OnPlatform p)
    (hlink : comm.link.Idle g W r) (hd : comm.link.device < devices)
    (hplace : comm.topology = ⟨W, r, L, r % L⟩) :
    (create (Host.platform devices) transport settings comm).Runs g r p [] fun scheduler p' =>
      p'.1.heap = p.1.heap ∧ scheduler.slots.capacity = settings.maxNumSplitOrDefault ∧
        ownDevice (p'.1, (p'.2, scheduler)) = comm.link.device ∧
        Participant devices g W L r (p'.1, (p'.2, scheduler)) := by
  refine .orElseClean ?_
  have hslots : ((Slots.create (Host.platform devices) comm.link.device
      settings.maxNumSplitOrDefault).within Part.first).Runs g r p [] fun slots p' =>
      p'.1.heap = p.1.heap ∧ p'.1.kernels = p.1.kernels ∧ p'.2 = p.2 ∧
        slots.capacity = settings.maxNumSplitOrDefault ∧
        slots.slots.length = settings.maxNumSplitOrDefault := by
    refine .within (.after (.mapError (runs_createFrom hd)) ?_)
    rintro events _ ⟨rfl, hlength⟩
    refine .step rfl (.pure ⟨rfl, rfl, rfl, ?_, List.length_replicate⟩)
    rw [Slots.capacity, hlength, List.length_nil, Nat.zero_add]
  refine .after hslots ?_
  rintro slots p₁ ⟨hheap, hregistered, hinvoker, hcapacity, hslots⟩
  have hp₁ : Invoker.OnHost devices p₁ :=
    ⟨hinvoker ▸ hp.compiler, hinvoker ▸ hp.archs, hinvoker ▸ hp.cache⟩
  have hkernels₁ : RegroupKernels.OnPlatform p₁ := by
    intro unit
    rw [HostState.kernel?, hregistered]
    exact hkernels unit
  refine .after (.orElseClean (.mapError (RegroupKernels.runs_install hp₁ hd hkernels₁))) ?_
  rintro regroup p₂ ⟨hheap₂, hprovided⟩
  refine .step rfl (.pure ⟨hheap₂.trans hheap, hcapacity, rfl, ⟨hlink, hd, hplace, ?_, ?_⟩⟩)
  · exact hslots.trans hcapacity.symm
  · intro unit
    have := hprovided unit
    exact ⟨this.compiler, this.device_lt, this.registered, this.slot⟩

/-- The state of a process that has joined a group and set up its scheduler, with these allocations
made before. -/
def joined (devices : Nat) (settings : Settings) (g : Bytes) (W L r device patience : Nat)
    (heap : Heap) : Option HostEngine :=
  match create (Host.platform devices) transport settings
    ⟨⟨g, W, r, device, patience, 0, []⟩, ⟨W, r, L, r % L⟩⟩
    (⟨heap, Host.ownKernels, [], []⟩, Invoker.create devices [.host] settings) with
  | .done (.ok scheduler, p) => some (p.1, (p.2, scheduler))
  | _ => none

theorem exists_joined (settings : Settings) (patience : Nat) (heap : Heap) (hd : device < devices) :
    ∃ e, joined devices settings g W L r device patience heap = some e ∧ e.1.heap = heap ∧
      e.2.2.slots.capacity = settings.maxNumSplitOrDefault ∧ ownDevice e = device ∧
      Participant devices g W L r e := by
  let comm : Communicator SimulatedLink :=
    ⟨⟨g, W, r, device, patience, 0, []⟩, ⟨W, r, L, r % L⟩⟩
  let p : HostKernels :=
    (⟨heap, Host.ownKernels, [], []⟩, Invoker.create devices [.host] settings)
  have hp : Invoker.OnHost devices p := ⟨rfl, List.length_replicate, rfl⟩
  have hlink : comm.link.Idle g W r := ⟨rfl, rfl, rfl, rfl, rfl⟩
  have hcreate : (create (Host.platform devices) transport settings comm).Runs g r p [] _ :=
    runs_create hp (fun unit => unit.kernel?_own heap [] []) hlink hd rfl
  obtain ⟨scheduler, p, hdone, hheap, hcapacity, hdevice, hparticipant⟩ :=
    Act.runs_nil_iff.1 hcreate
  refine ⟨(p.1, (p.2, scheduler)), ?_, hheap, hcapacity, hdevice, hparticipant⟩
  rw [joined, hdone]

/-- All ranks of a group can have joined it, each on a device of its own. -/
theorem exists_group (settings : Settings) (patience : Nat) (heap : Nat → Heap) (hW : W ≤ devices) :
    ∃ es : Nat → HostEngine, ∀ r < W,
      joined devices settings g W L r r patience (heap r) = some (es r) ∧
        (es r).1.heap = heap r ∧
        (es r).2.2.slots.capacity = settings.maxNumSplitOrDefault ∧ ownDevice (es r) = r ∧
        Participant devices g W L r (es r) := by
  have hrank := fun r (hr : r < W) => exists_joined (g := g) (W := W) (L := L) (r := r) settings
    patience (heap r) (Nat.lt_of_lt_of_le hr hW)
  obtain ⟨e₀, -⟩ := exists_joined (g := g) (W := W) (L := L) (r := 0) settings patience []
    Nat.zero_lt_one
  have : Nonempty HostEngine := ⟨e₀⟩
  choose! es hes using hrank
  exact ⟨es, hes⟩

end Scheduler

end ExpertExchange
