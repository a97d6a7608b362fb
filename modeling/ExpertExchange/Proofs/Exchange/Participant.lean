import ExpertExchange.Exchange.Scheduler
import ExpertExchange.Proofs.Exchange.Regrouped
import ExpertExchange.Proofs.Group.Member

/-!
# Participants of a simulated group

A participant is a scheduler at work on the host platform, joined to a simulated group. What every
collective relies on is collected in `Participant`, and what no collective changes in `Leaves`; a
participant that does something of the kind is a participant after it.
-/

namespace ExpertExchange

/-- A scheduler at work on the host platform and the simulated transport. -/
abbrev HostEngine := Engine Net HostState HostFunction HostEvent SimulatedLink

namespace Scheduler

variable {devices W L r : Nat} {g : Bytes} {touched touched' : Nat → Prop} {e e' e'' : HostEngine}
  {α β : Type}

def ownDevice (e : HostEngine) : Nat := e.2.2.comm.link.device

def ownStream (e : HostEngine) (kind : StreamKind) : Stream := ⟨ownDevice e, kind, 0⟩

/-- Rank `r` of the group `g` of `W` ranks, with `L` devices per node, between two collectives. -/
structure Participant (devices : Nat) (g : Bytes) (W L r : Nat) (e : HostEngine) : Prop where
  link : e.2.2.comm.link.Idle g W r
  device_lt : ownDevice e < devices
  topology : e.2.2.comm.topology = ⟨W, r, L, r % L⟩
  slots : e.2.2.slots.slots.length = e.2.2.slots.capacity
  regroup : e.2.2.regroup.Provided (ownDevice e) (e.1, e.2.1)

/-- The group, the pool of slots and the kernels are as they were, and so are all buffers but those
of the touched cells. -/
structure Leaves (touched : Nat → Prop) (e e' : HostEngine) : Prop where
  comm : e'.2.2.comm = e.2.2.comm
  events : e'.2.2.slots.events = e.2.2.slots.events
  slots : e'.2.2.slots.slots.length = e.2.2.slots.slots.length
  regroup : e'.2.2.regroup = e.2.2.regroup
  provides : Invoker.StillProvides (e.1, e.2.1) (e'.1, e'.2.1)
  heap : Heap.Keeps touched e.1.heap e'.1.heap

lemma Leaves.refl (e : HostEngine) : Leaves touched e e :=
  ⟨rfl, rfl, rfl, rfl, .refl _, .refl _⟩

lemma Leaves.trans (h : Leaves touched e e') (h' : Leaves touched e' e'') :
    Leaves touched e e'' where
  comm := h'.comm.trans h.comm
  events := h'.events.trans h.events
  slots := h'.slots.trans h.slots
  regroup := h'.regroup.trans h.regroup
  provides := h.provides.trans h'.provides
  heap := h.heap.trans h'.heap

lemma Leaves.mono (h : Leaves touched e e')
    (ht : ∀ i, i < e.1.heap.length → touched i → touched' i) : Leaves touched' e e' :=
  { h with heap := h.heap.mono ht }

/-- No buffer is touched. -/
abbrev Undisturbed (e e' : HostEngine) : Prop := Leaves (fun _ => False) e e'

lemma Undisturbed.leaves (h : Undisturbed e e') : Leaves touched e e' := h.mono fun _ _ h => h.elim

lemma Leaves.ownDevice_eq (h : Leaves touched e e') : ownDevice e' = ownDevice e := by
  rw [ownDevice, h.comm, ownDevice]

lemma Leaves.ownStream_eq (h : Leaves touched e e') (kind : StreamKind) :
    ownStream e' kind = ownStream e kind := by
  rw [ownStream, h.ownDevice_eq, ownStream]

lemma Leaves.capacity_eq (h : Leaves touched e e') :
    e'.2.2.slots.capacity = e.2.2.slots.capacity := by
  rw [Slots.capacity, h.events, Slots.capacity]

lemma Participant.of_leaves (hp : Participant devices g W L r e) (h : Leaves touched e e') :
    Participant devices g W L r e' where
  link := h.comm ▸ hp.link
  device_lt := h.ownDevice_eq ▸ hp.device_lt
  topology := h.comm ▸ hp.topology
  slots := by rw [h.slots, h.capacity_eq, hp.slots]
  regroup := by
    rw [h.ownDevice_eq, h.regroup]
    exact fun unit => h.provides _ _ _ _ (hp.regroup unit)

variable {m : Act Net HostState DeviceError α} {a : α} {s : HostState} {b : Buffer} {c : Bytes}
  {kind : StreamKind} {index : Nat}

lemma onPlatform_eq (h : m e.1 = .done (.ok a, s)) :
    onPlatform m e = .done (.ok a, (s, e.2)) := Act.within_done (Act.mapError_done h)

lemma stillProvides_platform (hkernels : s.kernels = e.1.kernels) :
    Invoker.StillProvides (e.1, e.2.1) (s, e.2.1) := by
  intro handle device entry kernel hp
  refine ⟨hp.compiler, hp.device_lt, ?_, hp.slot⟩
  rw [HostState.kernel?, hkernels]
  exact hp.registered

/-- On the platform only the heap and the trace change. -/
lemma leaves_platform (hkernels : s.kernels = e.1.kernels)
    (hheap : Heap.Keeps touched e.1.heap s.heap) : Leaves touched e (s, e.2) where
  comm := rfl
  events := rfl
  slots := rfl
  regroup := rfl
  provides := stillProvides_platform hkernels
  heap := hheap

lemma runs_recordStream (b : Buffer) (user : Stream) :
    (onPlatform ((Host.platform devices).recordStream b user)).Runs g r e []
      fun _ e' => Undisturbed e e' ∧ e'.1.heap.length = e.1.heap.length := by
  refine .of_done (onPlatform_eq rfl) ⟨leaves_platform rfl (Heap.keeps_markUsed _ _ _), ?_⟩
  exact List.length_modify _ _ _

lemma runs_recordStreams (bs : List Buffer) (user : Stream) :
    (Act.forEach bs fun b => onPlatform ((Host.platform devices).recordStream b user)).Runs g r e []
      fun _ e' => Undisturbed e e' ∧ e'.1.heap.length = e.1.heap.length := by
  induction bs generalizing e with
  | nil => exact .pure ⟨.refl e, rfl⟩
  | cons b bs ih =>
    refine .after (runs_recordStream b user) ?_
    rintro _ e₁ ⟨h₁, hlength₁⟩
    refine ih.mono ?_
    rintro _ e₂ ⟨h₂, hlength₂⟩
    exact ⟨h₁.trans h₂, hlength₂.trans hlength₁⟩

lemma alloc_eq {t : Dtype} {shape : List Nat} {owner : Stream} {n : Nat} {h : HostState}
    (hd : owner.device < devices) (hn : Buffer.sizeOf? t shape = some n)
    (hsmall : n ≤ Word.allocationBound) :
    (Host.platform devices : Platform Net _ _ _).alloc t shape owner h =
      .done (.ok ⟨t, shape, owner.device, h.heap.length⟩,
        { h with heap := h.heap.allocated n owner }) := by
  refine (Act.bind_done (Invoker.hostCheckDevice_eq hd)).trans ?_
  change Program.bind (Heap.zeros t shape owner h.heap) _ = _
  rw [Heap.zeros_eq owner hn hsmall]
  rfl

lemma runs_alloc {t : Dtype} {shape : List Nat} {owner : Stream} {n : Nat}
    (hd : owner.device < devices) (hn : Buffer.sizeOf? t shape = some n)
    (hsmall : n ≤ Word.allocationBound) :
    (onPlatform ((Host.platform devices).alloc t shape owner)).Runs g r e [] fun b e' =>
      Undisturbed e e' ∧ b = ⟨t, shape, owner.device, e.1.heap.length⟩ ∧
        e'.1.heap.Holds b (List.replicate n 0) := by
  refine .of_done (onPlatform_eq (alloc_eq hd hn hsmall)) ⟨?_, rfl, ?_⟩
  · exact leaves_platform rfl (Heap.keeps_append _ _)
  · exact Heap.holds_allocated owner rfl hn hsmall

lemma stream_eq [TensorLibrary] (hp : Participant devices g W L r e) :
    stream (Host.platform devices) SimulatedLink.transport kind e =
      .done (.ok (ownStream e kind), e) := by
  have hstream : (Host.platform devices : Platform Net _ _ _).stream (ownDevice e) kind e.1 =
      .done (.ok (ownStream e kind), e.1) := Act.bind_done (Invoker.hostCheckDevice_eq hp.device_lt)
  change Program.bind (Program.bind (Program.bind
    ((Host.platform devices : Platform Net _ _ _).stream (ownDevice e) kind e.1) _) _) _ = _
  rw [hstream]
  rfl

end Scheduler

namespace Slots

variable {devices r index : Nat} {g : Bytes} {q q' q'' : HostState × Slots HostEvent}

/-- The platform is as it was but for records and the trace, and the pool but for the states of its
slots. -/
structure Kept (q q' : HostState × Slots HostEvent) : Prop where
  heap : q'.1.heap = q.1.heap
  kernels : q'.1.kernels = q.1.kernels
  events : q'.2.events = q.2.events
  slots : q'.2.slots.length = q.2.slots.length

lemma Kept.trans (h : Kept q q') (h' : Kept q' q'') : Kept q q'' :=
  ⟨h'.heap.trans h.heap, h'.kernels.trans h.kernels, h'.events.trans h.events,
    h'.slots.trans h.slots⟩

lemma runs_transition (q : HostState × Slots HostEvent) (hi : index < q.2.slots.length)
    (next : SlotState) :
    (transition (Host.platform devices) index next).Runs g r q [] fun _ q' => Kept q q' := by
  have hslot : q.2.slots[index]? = some q.2.slots[index] := List.getElem?_eq_getElem hi
  refine .step (Act.outcome_done (congrArg Outcome.ok hslot) q) ?_
  dsimp only
  cases q.2.slots[index].warning? index next with
  | none => exact .modify ⟨rfl, rfl, rfl, by simp⟩
  | some warning => exact .step rfl (.modify ⟨rfl, rfl, rfl, by simp [Part.first]⟩)

lemma event_eq (hi : index < q.2.events.length) :
    (event index : Act Net (HostState × Slots HostEvent) ExchangeError HostEvent) q =
      .done (.ok q.2.events[index], q) := by
  rw [event, List.getElem?_eq_getElem hi]
  rfl

lemma runs_release (hi : index < q.2.slots.length) (hevent : index < q.2.events.length)
    (stream : Stream) :
    (release (Host.platform devices) index stream).Runs g r q [] fun _ q' => Kept q q' := by
  refine .step (event_eq hevent) (.step rfl ?_)
  refine (runs_transition (q.1.note (.eventRecord _ _), q.2) hi _).mono fun _ _ h => ?_
  exact ⟨h.heap, h.kernels, h.events, h.slots⟩

lemma runs_acquire (hi : index < q.2.slots.length) (hevent : index < q.2.events.length)
    (stream : Stream) :
    (acquire (Host.platform devices) index stream []).Runs g r q [] fun _ q' => Kept q q' := by
  refine .step (event_eq hevent) (.step rfl ?_)
  refine (runs_transition (q.1.note (.eventWait _ _), q.2) hi _).after fun _ q₁ h₁ =>
    .step rfl ?_
  have h₁ : Kept q q₁ := ⟨h₁.heap, h₁.kernels, h₁.events, h₁.slots⟩
  exact (runs_transition q₁ (h₁.slots ▸ hi) _).mono fun _ _ h₂ => h₁.trans h₂

end Slots

namespace Scheduler

variable {α : Type} {devices W L r index : Nat} {g : Bytes} {e : HostEngine}

lemma Leaves.of_slots {q : HostState × Slots HostEvent} (h : Slots.Kept (e.1, e.2.2.slots) q) :
    Undisturbed e (slotsPart.put e q) where
  comm := rfl
  events := h.events
  slots := h.slots
  regroup := rfl
  provides := stillProvides_platform h.kernels
  heap := by
    rw [show (slotsPart.put e q).1.heap = e.1.heap from h.heap]
    exact .refl _

lemma runs_release (hp : Participant devices g W L r e) (hi : index < e.2.2.slots.capacity)
    (stream : Stream) :
    (onSlots (Slots.release (Host.platform devices) index stream)).Runs g r e []
      fun _ e' => Undisturbed e e' ∧ e'.1.heap = e.1.heap :=
  .within ((Slots.runs_release (hp.slots ▸ hi) hi stream).mono fun _ _ h => ⟨.of_slots h, h.heap⟩)

lemma runs_acquire (hp : Participant devices g W L r e) (hi : index < e.2.2.slots.capacity)
    (stream : Stream) :
    (onSlots (Slots.acquire (Host.platform devices) index stream [])).Runs g r e []
      fun _ e' => Undisturbed e e' ∧ e'.1.heap = e.1.heap :=
  .within ((Slots.runs_acquire (hp.slots ▸ hi) hi stream).mono fun _ _ h => ⟨.of_slots h, h.heap⟩)

lemma checkDevice_eq [TensorLibrary] {b : Buffer} (hb : b.device = ownDevice e) :
    onComm (Communicator.checkDevice SimulatedLink.transport b) e = .done (.ok (), e) :=
  onComm_eq (Communicator.checkDevice_eq hb)

lemma checkAlike_eq [TensorLibrary] {op : String} {t : Dtype} {bs : List Buffer}
    (h : ∀ b ∈ bs, b.dtype = t ∧ b.device = ownDevice e) :
    onComm (Communicator.checkAlike SimulatedLink.transport op t bs) e = .done (.ok (), e) :=
  onComm_eq (Communicator.checkAlike_eq h)

end Scheduler

end ExpertExchange
