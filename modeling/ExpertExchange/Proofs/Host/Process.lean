import ExpertExchange.Host.Kernels
import ExpertExchange.Proofs.Group.Bounded
import ExpertExchange.StandIn.Tensors
import Mathlib.Logic.Relation

/-!
# Processes on the host platform

A process makes buffers on a host platform, works on them, and moves their bytes over the links of
simulated groups, in any order and whatever comes of it. All the while every buffer holds as many
bytes as its type and shape ask for, so that a range that was accepted once can be sliced ever
after, and the streams that use a buffer are only added to.
-/

namespace ExpertExchange

inductive LinkCall where
  | groupStart
  | groupEnd
  | send (b : Buffer) (range : ByteRange) (peer : Nat) (stream : Stream)
  | recv (b : Buffer) (range : ByteRange) (peer : Nat) (stream : Stream)
  | broadcast (b : Buffer) (root : Nat) (stream : Stream)
  | allReduce (b : Buffer) (stream : Stream)

namespace LinkCall

variable [TensorLibrary]

open SimulatedLink

def run : LinkCall → LinkAct Unit
  | .groupStart => transport.groupStart
  | .groupEnd => transport.groupEnd
  | .send b range peer stream => transport.send b range peer stream
  | .recv b range peer stream => transport.recv b range peer stream
  | .broadcast b root stream => transport.broadcast b root stream
  | .allReduce b stream => transport.allReduce b stream

def buffers : LinkCall → List Buffer
  | .groupStart => []
  | .groupEnd => []
  | .send b _ _ _ => [b]
  | .recv b _ _ _ => [b]
  | .broadcast b _ _ => [b]
  | .allReduce b _ => [b]

/-- The operation adds nothing, or tensors that there are, of elements that always have a sum. -/
def AddsUp (plus : Addition) : LinkCall → Prop
  | .allReduce b _ => Number.Total plus b.dtype ∧ Strided b.shape
  | _ => True

/-- An operation changes the contents of buffers, but not the layout. -/
lemma spares_run (call : LinkCall) : call.run.Spares (beside HostState.layout) := by
  have hw := HostState.contentless_layout
  have ht := HostState.traceless_layout
  cases call with
  | groupStart => exact spares_groupStart ht
  | groupEnd => exact spares_groupEnd hw ht
  | send b range peer stream => exact spares_send hw ht stream
  | recv b range peer stream => exact spares_recv hw ht stream
  | broadcast b root stream =>
    exact spares_broadcast (contentless_beside hw) (traceless_beside ht) root
  | allReduce b stream => exact spares_allReduce (contentless_beside hw) (traceless_beside ht)

/-- What an operation leaves pending was so before, or has passed the checks. -/
lemma takes_run (call : LinkCall) : call.run.Changes Prod.snd (Takes call.buffers) := by
  cases call with
  | groupStart => exact takes_groupStart
  | groupEnd => exact takes_groupEnd
  | send b range peer stream =>
    change (SimulatedLink.send b range peer stream).Changes _ _
    rw [send_eq]
    exact takes_issueChecked _ _
  | recv b range peer stream =>
    change (SimulatedLink.recv b range peer stream).Changes _ _
    rw [recv_eq]
    exact takes_issueChecked _ _
  | broadcast b root stream =>
    exact takes_of_spares (spares_broadcast contentless_link traceless_link root) _
  | allReduce b stream => exact takes_of_spares (spares_allReduce contentless_link traceless_link) _

/-- Where buffers are as large as their types and shapes ask for, and transfers that are pending lie
inside them, no operation addresses what is not there. -/
lemma faultless_run {plus : Addition} (laws : TensorLaws plus) (call : LinkCall)
    (hadds : call.AddsUp plus) {q : HostState × SimulatedLink}
    (hbuffers : ∀ b ∈ call.buffers, ∃ size, Buffer.sizeOf? b.dtype b.shape = some size ∧
      (outlineOf q).HasSize b size)
    (hpending : ∀ t ∈ q.2.pending, InsideBuffer (outlineOf q) t) :
    call.run.Ensures q fun o _ => o.ending ≠ .fault := by
  have hfaultless {m : LinkAct Unit} {I : Outline → Prop} (hm : m.Faultless outlineOf I)
      (hI : I (outlineOf q)) : m.Ensures q fun o _ => o.ending ≠ .fault :=
    (hm.ensures hI).mono fun _ _ h => h.1
  cases call with
  | groupStart => exact hfaultless (I := fun _ => True) faultless_groupStart trivial
  | groupEnd => exact faultless_groupEnd q hpending
  | send b range peer stream =>
    obtain ⟨size, hsize, hcell⟩ := hbuffers b (List.mem_singleton_self b)
    change (SimulatedLink.send b range peer stream).Ensures _ _
    rw [send_eq]
    exact hfaultless (faultless_issueChecked _ hsize) hcell
  | recv b range peer stream =>
    obtain ⟨size, hsize, hcell⟩ := hbuffers b (List.mem_singleton_self b)
    change (SimulatedLink.recv b range peer stream).Ensures _ _
    rw [recv_eq]
    exact hfaultless (faultless_issueChecked _ hsize) hcell
  | broadcast b root stream =>
    obtain ⟨size, hsize, hcell⟩ := hbuffers b (List.mem_singleton_self b)
    exact hfaultless (faultless_broadcast hsize) hcell
  | allReduce b stream =>
    obtain ⟨size, hsize, hcell⟩ := hbuffers b (List.mem_singleton_self b)
    exact hfaultless (faultless_allReduce laws hadds.2 hsize hadds.1) hcell

end LinkCall

namespace SimulatedLink

/-- Joining a group does nothing to the platform but report. -/
lemma spares_connect (patience : Nat) (id : Bytes) (worldSize rank device timeout : Nat) :
    (connect patience id worldSize rank device timeout).Spares HostState.layout := by
  refine .bind (.ensure _ _) ?_
  intro _
  refine .bind (.request _) ?_
  intro answer
  cases answer with
  | tooLarge => exact .ofOutcome (.fault none)
  | otherSize formed => exact .fail _
  | joined =>
    refine .bind (.request _) ?_
    intro complete
    refine .ite ?_ ?_
    · exact .bind (.modify fun _ => rfl) fun _ => .pure _
    · exact .bind (.modify fun _ => rfl) fun _ => .fail _

/-- Nothing is pending on a new link. -/
lemma gives_connect (patience : Nat) (id : Bytes) (worldSize rank device timeout : Nat)
    (s : HostState) :
    (connect patience id worldSize rank device timeout).Gives s fun l _ => l.pending = [] := by
  refine .afterAny ?_
  intro _ s₁
  refine .afterAny ?_
  intro answer s₂
  cases answer with
  | tooLarge => exact .of_failed rfl nofun
  | otherSize formed => exact .of_failed rfl nofun
  | joined =>
    refine .afterAny ?_
    intro complete s₃
    cases complete with
    | true => exact .afterAny fun _ _ => .of_done rfl rfl
    | false => exact .afterAny fun _ _ => .of_failed rfl nofun

end SimulatedLink

/-- A host platform, the links that were made, and the buffers, with how each was made. -/
structure HostProcess [TensorLibrary] where
  platform : HostState
  links : List SimulatedLink
  made : List (Creation × Buffer)

namespace HostProcess

variable [TensorLibrary]

/-- A process that has made nothing yet. -/
def fresh (s : HostState) : HostProcess := ⟨s, [], []⟩

def usedBy (p : HostProcess) (b : Buffer) : List Stream := p.platform.heap.usedBy b

/-- One call of a process, whatever the network answers and however the call ends. -/
inductive Step (devices : Nat) (p : HostProcess) : HostProcess → Prop where
  | make (c : Creation) {b : Buffer} {s : HostState}
      (hend : Program.CanEnd (S := Net) (c.run devices p.platform) (.ok b, s)) :
      Step devices p { p with platform := s, made := p.made ++ [(c, b)] }
  | makeNone (c : Creation) {o : Outcome DeviceError Buffer} {s : HostState}
      (hend : Program.CanEnd (S := Net) (c.run devices p.platform) (o, s)) (ho : o.ending ≠ .ok) :
      Step devices p { p with platform := s }
  | work (work : Handling) {o : Outcome OperatorError Unit} {s : HostState}
      (hend : Program.CanEnd (S := Net) (work.run devices p.platform) (o, s)) :
      Step devices p { p with platform := s }
  | connect (patience : Nat) (id : Bytes) (worldSize rank device timeout : Nat) {l : SimulatedLink}
      {s : HostState} (hend : (SimulatedLink.connect patience id worldSize rank device timeout
        p.platform).CanEnd (.ok l, s)) :
      Step devices p { p with platform := s, links := p.links ++ [l] }
  | connectNone (patience : Nat) (id : Bytes) (worldSize rank device timeout : Nat)
      {o : Outcome ExchangeError SimulatedLink} {s : HostState}
      (hend : (SimulatedLink.connect patience id worldSize rank device timeout
        p.platform).CanEnd (o, s)) (ho : o.ending ≠ .ok) :
      Step devices p { p with platform := s }
  | transfer (call : LinkCall) {i : Nat} {l l' : SimulatedLink} {o : Outcome ExchangeError Unit}
      {s : HostState} (hlink : p.links[i]? = some l)
      (hmade : ∀ b ∈ call.buffers, ∃ c, (c, b) ∈ p.made)
      (hend : (call.run (p.platform, l)).CanEnd (o, (s, l'))) :
      Step devices p { p with platform := s, links := p.links.set i l' }

/-- Any number of calls. -/
abbrev Reaches (devices : Nat) : HostProcess → HostProcess → Prop :=
  Relation.ReflTransGen (Step devices)

/-- The platform's kernels change nothing but contents, every buffer is as large as when it was
made, and what is pending on a link has passed the checks for a buffer that was made. -/
structure Sound (p : HostProcess) : Prop where
  kernels : ∀ k ∈ p.platform.kernels, k.2.Tidy
  made : ∀ m ∈ p.made, p.platform.heap.outline.Houses m.1.dtype m.1.shape m.1.owner m.2
  pending : ∀ l ∈ p.links, ∀ t ∈ l.pending,
    (∃ c, (c, t.buffer) ∈ p.made) ∧ t.Legal l.worldSize

/-- The layout has grown, and what was made is still there. -/
structure Grows (p p' : HostProcess) : Prop where
  layout : p.platform.layout.Grows .ok p'.platform.layout
  made : p.made ⊆ p'.made

variable {devices : Nat} {p p' : HostProcess} {s : HostState} {b : Buffer} {c : Creation}

lemma Grows.refl (p : HostProcess) : p.Grows p :=
  ⟨p.platform.layout.grows_self .ok, List.Subset.refl _⟩

lemma Grows.trans {p₁ : HostProcess} (h : p.Grows p₁) (h' : p₁.Grows p') : p.Grows p' :=
  ⟨Layout.chains_grows.trans h.layout h'.layout, List.Subset.trans h.made h'.made⟩

/-- On a new platform nothing is made. -/
lemma Sound.fresh (hstart : (Host.start devices : Outcome DeviceError HostState) = .ok s) :
    (fresh s).Sound := by
  obtain ⟨_, -, hs⟩ := Outcome.bind_eq_ok_iff.1 hstart
  cases hs
  exact {
    kernels := Host.tidy_own
    made := fun _ hm => absurd hm List.not_mem_nil
    pending := fun _ hl => absurd hl List.not_mem_nil
  }

/-- A call lets the process grow. -/
lemma Step.grows (hstep : Step devices p p') (hp : p.Sound) : p.Grows p' := by
  cases hstep with
  | make c hend => exact ⟨(Host.houses_made c _ _ _ hend).1, List.subset_append_left _ _⟩
  | makeNone c hend ho => exact ⟨(Host.houses_made c _ _ _ hend).1, List.Subset.refl _⟩
  | work work hend => exact ⟨Host.grows_handled work _ hp.kernels _ _ hend, List.Subset.refl _⟩
  | connect patience id worldSize rank device timeout hend =>
    have hspared := SimulatedLink.spares_connect patience id worldSize rank device timeout
    exact ⟨hspared.changes Layout.grows_self _ _ _ hend, List.Subset.refl _⟩
  | connectNone patience id worldSize rank device timeout hend ho =>
    have hspared := SimulatedLink.spares_connect patience id worldSize rank device timeout
    exact ⟨hspared.changes Layout.grows_self _ _ _ hend, List.Subset.refl _⟩
  | transfer call hlink hmade hend =>
    refine ⟨?_, List.Subset.refl _⟩
    exact call.spares_run.changes Layout.grows_self _ _ _ hend

/-- What holds of kernels, old buffers and old links goes on to hold when the process grows. -/
lemma Sound.of_grows (hp : p.Sound) (hgrows : p.Grows p')
    (hmade : ∀ m ∈ p'.made, m ∉ p.made →
      p'.platform.heap.outline.Houses m.1.dtype m.1.shape m.1.owner m.2)
    (hpending : ∀ l ∈ p'.links, ∀ t ∈ l.pending,
      (∃ c, (c, t.buffer) ∈ p.made) ∧ t.Legal l.worldSize) : p'.Sound where
  kernels := by
    have hkernels : p'.platform.kernels = p.platform.kernels := hgrows.layout.1
    rw [hkernels]
    exact hp.kernels
  made m hm := by
    by_cases hold : m ∈ p.made
    · exact (hp.made m hold).grows hgrows.layout.2
    · exact hmade m hm hold
  pending l hl t ht := by
    obtain ⟨⟨c, hc⟩, hlegal⟩ := hpending l hl t ht
    exact ⟨⟨c, hgrows.made hc⟩, hlegal⟩

/-- A call keeps the process sound. -/
theorem Sound.step (hp : p.Sound) (hstep : Step devices p p') : p'.Sound := by
  have hgrows := hstep.grows hp
  have hold : ∀ m ∈ p.made, m ∉ p.made →
      p'.platform.heap.outline.Houses m.1.dtype m.1.shape m.1.owner m.2 := fun m hm hnew =>
    absurd hm hnew
  cases hstep with
  | make c hend =>
    refine hp.of_grows hgrows ?_ hp.pending
    intro m hm hnew
    rcases List.mem_append.1 hm with hm | hm
    · exact absurd hm hnew
    · obtain rfl := List.mem_singleton.1 hm
      exact (Host.houses_made c _ _ _ hend).2 _ rfl
  | makeNone c hend ho => exact hp.of_grows hgrows hold hp.pending
  | work work hend => exact hp.of_grows hgrows hold hp.pending
  | connect patience id worldSize rank device timeout hend =>
    refine hp.of_grows hgrows hold ?_
    intro l hl
    rcases List.mem_append.1 hl with hl | hl
    · exact hp.pending l hl
    · obtain rfl := List.mem_singleton.1 hl
      rw [SimulatedLink.gives_connect patience id worldSize rank device timeout _ _ _ hend]
      exact nofun
  | connectNone patience id worldSize rank device timeout hend ho =>
    exact hp.of_grows hgrows hold hp.pending
  | transfer call hlink hmade hend =>
    refine hp.of_grows hgrows hold ?_
    obtain ⟨hworld, htaken⟩ := call.takes_run _ _ _ hend
    intro l hl t ht
    rcases List.mem_or_eq_of_mem_set hl with hl | rfl
    · exact hp.pending l hl t ht
    · rw [hworld]
      rcases htaken t ht with hwas | ⟨hbuffer, hlegal⟩
      · exact hp.pending _ (List.mem_of_getElem? hlink) t hwas
      · exact ⟨hmade _ hbuffer, hlegal⟩

/-- Any number of calls let a sound process grow and keep it sound. -/
theorem Sound.reaches (hp : p.Sound) (hreach : Reaches devices p p') : p'.Sound ∧ p.Grows p' := by
  induction hreach with
  | refl => exact ⟨hp, .refl p⟩
  | tail _ hstep ih =>
    obtain ⟨hsound, hgrows⟩ := ih
    exact ⟨hsound.step hstep, hgrows.trans (hstep.grows hsound)⟩

/-- The buffer has the type and shape that it was made with, and as many bytes as these ask for. The
stream that it was allocated on is its first user, and no stream uses it twice. -/
structure Intact (p : HostProcess) (c : Creation) (b : Buffer) : Prop where
  dtype : b.dtype = c.dtype
  shape : b.shape = c.shape
  content : ∃ content handles, content.length = c.shape.prod * c.dtype.size ∧
    p.platform.heap.allocation? b = some ⟨.host content, p.usedBy b, handles⟩
  owner : (p.usedBy b).head? = some c.owner
  nodup : (p.usedBy b).Nodup

/-- The part lies inside the bytes that the buffer holds. -/
def Contains (p : HostProcess) (b : Buffer) (range : ByteRange) : Prop :=
  ∃ content users handles, p.platform.heap.allocation? b = some ⟨.host content, users, handles⟩ ∧
    range.Within content.length

lemma usedBy_eq {a : Allocation} (h : p.platform.heap.allocation? b = some a) :
    p.usedBy b = a.usedBy := by
  rw [usedBy, Heap.usedBy, h]

lemma Sound.intact (hp : p.Sound) (hb : (c, b) ∈ p.made) : p.Intact c b := by
  obtain ⟨hdtype, hshape, size, users, hcell, hsize, hhead, hnodup⟩ := hp.made _ hb
  obtain ⟨content, handles, hallocation, hlength⟩ := Heap.exists_content hcell
  have husers : p.usedBy b = users := usedBy_eq hallocation
  rw [← husers] at hallocation hhead hnodup
  refine ⟨hdtype, hshape, ⟨content, handles, ?_, hallocation⟩, hhead, hnodup⟩
  rw [hlength]
  exact Buffer.sizeOf?_eq_prod hsize

lemma Grows.usedBy (hp : p.Sound) (hgrows : p.Grows p') (hb : (c, b) ∈ p.made) :
    p.usedBy b <+: p'.usedBy b := by
  obtain ⟨-, -, size, users, hcell, -⟩ := hp.made _ hb
  obtain ⟨users', hcell', hprefix, -⟩ := hgrows.layout.2 _ _ _ hcell
  obtain ⟨content, handles, hallocation, -⟩ := Heap.exists_content hcell
  obtain ⟨content', handles', hallocation', -⟩ := Heap.exists_content hcell'
  rw [usedBy_eq hallocation, usedBy_eq hallocation']
  exact hprefix

lemma contains_of_hasSize {size : Nat} {range : ByteRange}
    (h : p.platform.heap.outline.HasSize b size) (hrange : range.Within size) :
    p.Contains b range := by
  obtain ⟨users, hcell⟩ := h
  obtain ⟨content, handles, hallocation, hlength⟩ := Heap.exists_content hcell
  exact ⟨content, users, handles, hallocation, hlength ▸ hrange⟩

/-- A pending transfer lies inside its buffer. -/
lemma Sound.inside (hp : p.Sound) {l : SimulatedLink} (hl : l ∈ p.links) {t : Transfer}
    (ht : t ∈ l.pending) : SimulatedLink.InsideBuffer p.platform.heap.outline t := by
  obtain ⟨⟨c, hc⟩, -, n, hn, hrange⟩ := hp.pending l hl t ht
  obtain ⟨size, hsize, hcell⟩ := (hp.made _ hc).hasSize
  obtain rfl : n = size := Option.some.inj (hn.symm.trans hsize)
  exact ⟨n, hcell, hrange⟩

/-- In every state that a process on a new host platform reaches, whatever calls it makes and
however these end, every buffer holds as many bytes as the type and shape ask for with which it was
made. The stream that it was allocated on is the first of its users, none of them is there twice,
and from then on users are only added. A byte range that is accepted for a buffer lies inside its
bytes ever after, and so does what is pending on a link: no transfer addresses bytes that are not
there, and no operation of a link ends in a fault but for a sum that overflows, or that the tensor
library has no tensors for. -/
theorem buffers_stay_sized (hstart : (Host.start devices : Outcome DeviceError HostState) = .ok s)
    (hreach : Reaches devices (fresh s) p) :
    (∀ c b, (c, b) ∈ p.made → p.Intact c b) ∧
      (∀ p', Reaches devices p p' → ∀ c b, (c, b) ∈ p.made →
        (c, b) ∈ p'.made ∧ p.usedBy b <+: p'.usedBy b) ∧
      (∀ c b, (c, b) ∈ p.made → ∀ range l,
        (SimulatedLink.checkRange b range).Gives (p.platform, l) fun _ _ =>
          ∀ p', Reaches devices p p' → p'.Contains b range ∧
            ∀ kind peer l', (SimulatedLink.perform ⟨kind, b, range, peer⟩).Ensures
              (p'.platform, l') fun o _ => o.ending ≠ .fault) ∧
      ∀ l ∈ p.links, (∀ t ∈ l.pending, p.Contains t.buffer t.range) ∧
        ∀ plus, TensorLaws plus → ∀ call : LinkCall,
          (∀ b ∈ call.buffers, ∃ c, (c, b) ∈ p.made) → call.AddsUp plus →
          call.run.Ensures (p.platform, l) fun o _ => o.ending ≠ .fault := by
  have hp := (Sound.fresh hstart |>.reaches hreach).1
  refine ⟨fun c b => hp.intact, ?_, ?_, ?_⟩
  · intro p' hlater c b hb
    have hgrows := (hp.reaches hlater).2
    exact ⟨hgrows.made hb, hgrows.usedBy hp hb⟩
  · intro c b hb range l
    refine SimulatedLink.gives_checkRange.mono ?_
    rintro _ _ ⟨n, hn, hrange⟩ p' hlater
    obtain ⟨hp', hgrows⟩ := hp.reaches hlater
    obtain ⟨size, hsize, hcell⟩ := (hp'.made _ (hgrows.made hb)).hasSize
    obtain rfl : n = size := Option.some.inj (hn.symm.trans hsize)
    refine ⟨contains_of_hasSize hcell hrange, ?_⟩
    intro kind peer l'
    have hperform := SimulatedLink.faultless_perform (t := ⟨kind, b, range, peer⟩) hrange
    exact (hperform.ensures (s := (p'.platform, l')) hcell).mono fun _ _ h => h.1
  · intro l hl
    constructor
    · intro t ht
      obtain ⟨size, hcell, hrange⟩ := hp.inside hl ht
      exact contains_of_hasSize hcell hrange
    · intro plus laws call hbuffers hadds
      refine call.faultless_run laws hadds ?_ fun t ht => hp.inside hl ht
      intro b hb
      obtain ⟨c, hc⟩ := hbuffers b hb
      exact (hp.made _ hc).hasSize

end HostProcess

open StandIn in
/-- A buffer of one number whose middle waits to be sent, as a run of five calls leaves it. Neither
the transfer nor a sum over the group can end in a fault. -/
theorem HostProcess.buffers_stay_sized_until_sent :
    let b : Buffer := ⟨.f32, [1], 0, 0⟩
    ∃ p l, Reaches 1 (fresh ⟨[], Host.ownKernels, [], []⟩) p ∧ p.links = [l] ∧
      l.pending = [⟨.send, b, ⟨1, 3⟩, 1⟩] ∧ p.usedBy b = [⟨0, .compute, 0⟩, ⟨0, .comm, 0⟩] ∧
      p.Contains b ⟨1, 3⟩ ∧
      LinkCall.groupEnd.run.Ensures (p.platform, l) (fun o _ => o.ending ≠ .fault) ∧
      (LinkCall.allReduce b ⟨0, .compute, 0⟩).run.Ensures (p.platform, l)
        fun o _ => o.ending ≠ .fault := by
  intro b
  let s : HostState := ⟨[⟨.host [1, 2, 3, 4], [⟨0, .compute, 0⟩], 1⟩], Host.ownKernels, [], []⟩
  let h : Heap := [⟨.host [1, 2, 3, 4], [⟨0, .compute, 0⟩, ⟨0, .comm, 0⟩], 1⟩]
  let s₁ : HostState := ⟨h, Host.ownKernels, [.recordStream .comm], []⟩
  let made : List (Creation × Buffer) := [(.ofBytes 0 .f32 [1] [1, 2, 3, 4], b)]
  let record : LogRecord := ⟨.debug, .network, "simulated transport connected",
    [("rank", .number 0), ("world_size", .number 2), ("device", .number 0)]⟩
  let l : SimulatedLink := ⟨[7], 2, 0, 0, 5, 1, [⟨.send, b, ⟨1, 3⟩, 1⟩]⟩
  let p : HostProcess := ⟨⟨h, Host.ownKernels,
    [.recordStream .comm, .groupStart, .send 1 ⟨1, 3⟩ .comm], [record]⟩, [l], made⟩
  have hmake : Step 1 (fresh ⟨[], Host.ownKernels, [], []⟩) ⟨s, [], made⟩ :=
    .make (.ofBytes 0 .f32 [1] [1, 2, 3, 4]) (.done _)
  have hrecord : Step 1 ⟨s, [], made⟩ ⟨s₁, [], made⟩ :=
    .work (.recordStream b ⟨0, .comm, 0⟩) (.done _)
  have hconnect : Step 1 ⟨s₁, [], made⟩
      ⟨s₁.report record, [⟨[7], 2, 0, 0, 5, 0, []⟩], made⟩ :=
    .connect 5 [7] 2 0 0 10 (.ask .joined (.ask true (.done _)))
  have hopen : Step 1 ⟨s₁.report record, [⟨[7], 2, 0, 0, 5, 0, []⟩], made⟩
      ⟨(s₁.report record).note .groupStart, [⟨[7], 2, 0, 0, 5, 1, []⟩], made⟩ :=
    .transfer .groupStart (i := 0) rfl nofun (.done _)
  have hsend : Step 1 ⟨(s₁.report record).note .groupStart, [⟨[7], 2, 0, 0, 5, 1, []⟩], made⟩ p :=
    .transfer (.send b ⟨1, 3⟩ 1 ⟨0, .comm, 0⟩) (i := 0) rfl
      (fun _ hb => ⟨_, List.mem_singleton.2 (congrArg _ (List.mem_singleton.1 hb))⟩) (.done _)
  have hreach : Reaches 1 (fresh ⟨[], Host.ownKernels, [], []⟩) p :=
    .tail (.tail (.tail (.tail (.single hmake) hrecord) hconnect) hopen) hsend
  have hstart : (Host.start 1 : Outcome DeviceError HostState) =
      .ok ⟨[], Host.ownKernels, [], []⟩ := rfl
  obtain ⟨-, -, -, hlinks⟩ := buffers_stay_sized hstart hreach
  obtain ⟨hcontains, hfaultless⟩ := hlinks l List.mem_cons_self
  have hsound := hfaultless Number.add? (StandIn.RowMajor.laws _)
  refine ⟨p, l, hreach, rfl, rfl, rfl, ?_, ?_, ?_⟩
  · exact hcontains _ (List.mem_singleton_self _)
  · exact hsound .groupEnd nofun trivial
  · refine hsound (.allReduce b _) ?_ ⟨Number.total_iff.2 (by decide), rfl⟩
    intro b' hb'
    exact ⟨_, List.mem_singleton.2 (congrArg _ (List.mem_singleton.1 hb'))⟩

end ExpertExchange
