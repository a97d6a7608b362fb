import ExpertExchange.Proofs.Exchange.Layout
import ExpertExchange.Proofs.Exchange.OpenRounds
import ExpertExchange.Proofs.Exchange.Participant
import ExpertExchange.Proofs.Exchange.Planned

/-!
# Exchanges behind their checks

The exchanges of a scheduler check their arguments first. What passes has a layout that keeps every
transfer inside its buffers and the group, and every slot inside the pool. So nothing that an
exchange does after its checks is refused by the transport or the pool.
-/

namespace ExpertExchange

open SimulatedLink

variable {devices : Nat} {str : Stream} {α : Type}

namespace Slots

variable {capacity index : Nat}

def Sized (capacity : Nat) (q : HostState × Slots HostEvent) : Prop := q.2.capacity = capacity

lemma steady_onPlatform (m : Act Net HostState DeviceError α) :
    (onPlatform m).Steady (Sized capacity) ExchangeError.IsLate :=
  .part m (fun _ _ h => h) fun _ => trivial

lemma steady_event (h : index < capacity) :
    (event index : Act Net (HostState × Slots HostEvent) ExchangeError HostEvent).Steady
      (Sized capacity) ExchangeError.IsLate := by
  refine .of_ensures ?_
  intro q hq
  have hindex : index < q.2.events.length := Nat.lt_of_lt_of_eq h hq.symm
  refine .of_done rfl ⟨hq, ?_⟩
  rw [List.getElem?_eq_getElem hindex]
  exact Outcome.Refuses.ok _

lemma steady_transition (next : SlotState) :
    (transition (Host.platform devices : Platform Net _ _ HostEvent) index next).Steady
      (Sized capacity) ExchangeError.IsLate := by
  refine .bind (.view _) ?_
  rintro (_ | slot)
  · exact .fault none
  have henter : (Act.modify fun s =>
        (s.1, { s.2 with slots := s.2.slots.set index (slot.enter next) }) :
      Act Net (HostState × Slots HostEvent) ExchangeError Unit).Steady (Sized capacity)
        ExchangeError.IsLate := .modify fun _ h => h
  dsimp only
  cases slot.warning? index next with
  | none => exact henter
  | some warning =>
    refine .bind ?_ fun _ => henter
    refine .of_ensures ?_
    intro q hq
    exact .within (.of_done rfl ⟨hq, .ok _⟩)

lemma steady_release (h : index < capacity) :
    (release (Host.platform devices : Platform Net _ _ _) index str).Steady (Sized capacity)
      ExchangeError.IsLate := by
  refine .bind (steady_event h) ?_
  intro e
  refine .bind (steady_onPlatform _) ?_
  intro _
  exact steady_transition _

lemma steady_acquire (h : index < capacity) (buffers : List Buffer) :
    (acquire (Host.platform devices : Platform Net _ _ _) index str buffers).Steady (Sized capacity)
      ExchangeError.IsLate := by
  refine .bind (steady_event h) ?_
  intro e
  refine .bind (steady_onPlatform _) ?_
  intro _
  refine .bind (steady_transition _) ?_
  intro _
  refine .bind (.forEach fun b _ => steady_onPlatform _) ?_
  intro _
  exact steady_transition _

end Slots

namespace Scheduler

variable {place : Topology} {capacity stages slices total index : Nat} {e : HostEngine}
  {direction : Direction} {p : Split} {h : Hierarchy} {input output b : Buffer}
  {inputs outputs : List Buffer} {shape : List Nat} {dtype t : Dtype} {op : String}
  {may : ExchangeError → Prop}

/-- The scheduler has this place in a group of the right size, and a pool of so many slots. -/
structure Posted (place : Topology) (capacity : Nat) (e : HostEngine) : Prop where
  seated : Communicator.Seated place (commPart.get e)
  slots : e.2.2.slots.capacity = capacity

lemma steady_onPlatform (m : Act Net HostState DeviceError α) :
    (onPlatform m : Act Net HostEngine ExchangeError α).Steady (Posted place capacity)
      ExchangeError.IsLate :=
  .part m (fun _ _ h => ⟨⟨h.seated.worldSize, h.seated.topology⟩, h.slots⟩) fun _ => trivial

lemma agrees_onLink {m' m : LinkAct α} (h : m'.Agrees (Among place.worldSize) may m) :
    (onLink m' : Act Net HostEngine ExchangeError α).Agrees (Posted place capacity) may
      (onLink m) :=
  h.within (fun _ he => he.seated.worldSize)
    fun _ _ he hl => ⟨⟨hl, he.seated.topology⟩, he.slots⟩

lemma steady_onSlots {m : Act Net (HostState × Slots HostEvent) ExchangeError α}
    (h : m.Steady (Slots.Sized capacity) may) :
    (onSlots m : Act Net HostEngine ExchangeError α).Steady (Posted place capacity) may :=
  h.within (fun _ he => he.slots)
    fun _ _ he hs => ⟨⟨he.seated.worldSize, he.seated.topology⟩, hs⟩

lemma verifies_onComm {Q : α → Prop}
    {m : Act Net (HostState × Communicator SimulatedLink) ExchangeError α}
    (h : m.Verifies Q (commPart.get e)) :
    (onComm m : Act Net HostEngine ExchangeError α).Verifies Q e := .within h rfl

lemma verifies_stream (kind : StreamKind) {X : Transport Net HostState SimulatedLink} :
    (stream (Host.platform devices) X kind : Act Net HostEngine ExchangeError Stream).Verifies
      (fun _ => True) e := verifies_onComm (Communicator.verifies_stream kind)

def HasBytes (n : Nat) (b : Buffer) : Prop := (b.byteCount : Outcome ExchangeError Nat) = .ok n

lemma verifies_size (dtype : Dtype) (shape : List Nat) :
    (Act.ofOutcome (Buffer.sizeOf dtype shape) : Act Net HostEngine ExchangeError Nat).Verifies
      (fun n => (Buffer.sizeOf dtype shape : Outcome ExchangeError Nat) = .ok n) e :=
  .ofOutcome (fun _ hn => hn) (Buffer.byteCount_errorless ⟨dtype, shape, 0, 0⟩).refuses

lemma sound_of_within {range : ByteRange} {W peer n : Nat} (hb : HasBytes n b) (hpeer : peer < W)
    (hrange : range.Within n) : Sound W b range peer := by
  refine ⟨hpeer, ?_⟩
  intro n' hn'
  obtain rfl : n = n' := by
    rw [hb] at hn'
    exact Outcome.ok.inj hn'
  exact hrange

lemma verifies_plan (he : Posted place capacity e) :
    (plan total stages slices direction : Act Net HostEngine ExchangeError Split).Verifies
      (Split.Planned total place.worldSize capacity) e := by
  refine .bind (.view rfl) ?_
  rintro _ rfl
  have hplace : e.2.2.comm.topology = place := he.seated.topology
  rw [hplace, he.slots]
  exact .ofOutcome (fun _ => Split.planned_of_create) fun error h =>
    .inl (Split.refuses_create error h)

lemma verifies_checkStageShape :
    (Act.ofOutcome (checkStageShape op p dtype shape) :
      Act Net HostEngine ExchangeError Unit).Verifies
      (fun _ => (Buffer.sizeOf dtype shape : Outcome ExchangeError Nat) = .ok p.stageBytes) e := by
  refine .ofOutcome ?_ ?_
  · intro _ hok
    obtain ⟨bytes, hbytes, hok⟩ := Outcome.bind_eq_ok_iff.1 hok
    by_cases heq : bytes = p.stageBytes
    · rw [hbytes, heq]
    · rw [if_neg heq] at hok
      obtain ⟨count, -, hok⟩ := Outcome.bind_eq_ok_iff.1 hok
      cases hok
  · refine Outcome.Refuses.bind (Buffer.byteCount_errorless ⟨dtype, shape, 0, 0⟩).refuses ?_
    intro bytes
    by_cases heq : bytes = p.stageBytes
    · rw [if_pos heq]
      exact .ok _
    · rw [if_neg heq]
      refine .bind Word.errorless_div.refuses ?_
      rintro count _ ⟨⟩
      exact .inl trivial

lemma verifies_checkStageBuffers :
    (checkStageBuffers op p dtype inputs : Act Net HostEngine ExchangeError Unit).Verifies
      (fun _ => ∀ b ∈ inputs, HasBytes p.stageBytes b) e := by
  refine .forEach ?_
  intro b
  refine .bind (verifies_size _ _) ?_
  intro bytes hbytes
  by_cases heq : bytes = p.stageBytes
  · rw [if_pos heq]
    exact .pure (heq ▸ hbytes)
  · rw [if_neg heq]
    refine .bind (.ofOutcome (fun _ _ => trivial) Word.errorless_div.refuses) ?_
    rintro count -
    exact .fail (.inl trivial)

def IsLike (dtype : Dtype) (shape : List Nat) (b : Buffer) : Prop :=
  b.dtype = dtype ∧ b.shape = shape

lemma IsLike.hasBytes {n : Nat} (hb : IsLike dtype shape b)
    (hn : (Buffer.sizeOf dtype shape : Outcome ExchangeError Nat) = .ok n) : HasBytes n b := by
  unfold HasBytes Buffer.byteCount
  rw [hb.1, hb.2]
  exact hn

lemma alloc_like (dtype : Dtype) (shape : List Nat) (owner : Stream) (s : HostState) :
    ((Host.platform devices : Platform Net _ _ HostEvent).alloc dtype shape owner).Gives s
      fun b _ => IsLike dtype shape b := by
  refine .afterAny ?_
  intro _ s₁
  refine .within (.afterAny ?_)
  intro size heap
  by_cases hsize : Word.allocationBound < size
  · rw [if_pos hsize]
    exact .of_failed rfl nofun
  · rw [if_neg hsize]
    exact .of_done rfl ⟨rfl, rfl⟩

lemma allocStages_like (dtype : Dtype) (shape : List Nat) (owner user : Stream) (count : Nat)
    {made : List Buffer} (hmade : ∀ b ∈ made, IsLike dtype shape b) (s : HostState) :
    (allocStages (Host.platform devices : Platform Net _ _ HostEvent) dtype shape owner user count
      made).Gives s fun outputs _ => ∀ b ∈ outputs, IsLike dtype shape b := by
  induction count generalizing made s with
  | zero => exact .of_done rfl hmade
  | succ count ih =>
    refine .bind (G := fun b _ => IsLike dtype shape b)
      (.orElseClean (.bind (alloc_like dtype shape owner s) ?_)) ?_
    · intro b s₁ hb
      refine .afterAny ?_
      intro _ s₂
      exact .of_done rfl hb
    · intro b s₁ hb
      refine ih ?_ s₁
      intro b' hb'
      rcases List.mem_append.1 hb' with hold | hnew
      · exact hmade b' hold
      · rw [List.mem_singleton.1 hnew]
        exact hb

lemma agrees_exchangeRanges [TensorLibrary] {peer : Outcome ExchangeError Nat}
    {sent received : Outcome ExchangeError ByteRange} {m n : Nat} (hpeer : peer.Errorless)
    (hsent : sent.Errorless) (hreceived : received.Errorless) (hinput : HasBytes m input)
    (houtput : HasBytes n output) (hlt : ∀ k, peer = .ok k → k < place.worldSize)
    (hread : ∀ r, sent = .ok r → r.Within m) (hwritten : ∀ r, received = .ok r → r.Within n) :
    (exchangeRanges unchecked input output str peer sent received).Agrees (Among place.worldSize)
      ExchangeError.IsLate (exchangeRanges transport input output str peer sent received) := by
  refine .after hpeer.refuses ?_
  intro k hk
  refine .after hsent.refuses ?_
  intro r hr
  refine .bind (agrees_send (fun _ h => h) (sound_of_within hinput (hlt k hk) (hread r hr))) ?_
  intro _
  refine .after hreceived.refuses ?_
  intro r hr
  exact agrees_recv (fun _ h => h) (sound_of_within houtput (hlt k hk) (hwritten r hr))

lemma agrees_scatterSlice [TensorLibrary] {stage j : Nat}
    (hp : p.Planned total place.worldSize capacity) (hstage : stage < p.stages) (hj : j < p.slices)
    (hinput : HasBytes total input) (houtput : HasBytes p.stageBytes output) :
    (scatterSlice unchecked p input output str stage j).Agrees (Among place.worldSize)
      ExchangeError.IsLate (scatterSlice transport p input output str stage j) :=
  agrees_exchangeRanges errorless_peer errorless_fusedRange errorless_stageRange hinput houtput
    (fun _ h => hp.peer_lt hj h) (fun _ h => hp.fusedRange_within hj hstage h)
    fun _ h => Split.stageRange_within hj h

lemma agrees_gatherSlice [TensorLibrary] {stage j : Nat}
    (hp : p.Planned total place.worldSize capacity) (hstage : stage < p.stages) (hj : j < p.slices)
    (hinput : HasBytes p.stageBytes input) (houtput : HasBytes total output) :
    (gatherSlice unchecked p input output str stage j).Agrees (Among place.worldSize)
      ExchangeError.IsLate (gatherSlice transport p input output str stage j) :=
  agrees_exchangeRanges errorless_peer errorless_stageRange errorless_fusedRange hinput houtput
    (fun _ h => hp.peer_lt hj h) (fun _ h => Split.stageRange_within hj h)
    fun _ h => hp.fusedRange_within hj hstage h

/-- The round of a stage, slice by slice. -/
lemma agrees_slices [TensorLibrary] {transfers' transfers : Nat → LinkAct Unit}
    (h : ∀ j < p.slices, (transfers' j).Agrees (Among place.worldSize) ExchangeError.IsLate
      (transfers j)) :
    (onLink (Communicator.inRound unchecked (Act.forEach (List.range p.slices) transfers')) :
      Act Net HostEngine ExchangeError Unit).Agrees (Posted place capacity) ExchangeError.IsLate
      (onLink (Communicator.inRound transport (Act.forEach (List.range p.slices) transfers))) :=
  agrees_onLink (agrees_inRound (fun _ h => h)
    (.forEach fun j hj => h j (List.mem_range.1 hj)))

lemma agrees_scatterStage [TensorLibrary] {stage : Nat}
    (hp : p.Planned total place.worldSize capacity) (hstage : stage < p.stages)
    (hinput : HasBytes total input) (houtputs : ∀ b ∈ outputs, HasBytes p.stageBytes b) :
    (scatterStage (Host.platform devices) unchecked p input outputs str stage).Agrees
      (Posted place capacity) ExchangeError.IsLate
      (scatterStage (Host.platform devices) transport p input outputs str stage) := by
  refine .after (Outcome.Errorless.refuses (.orFault _)) ?_
  intro output houtput
  have hmem := List.mem_of_getElem? (Outcome.orFault_eq_ok houtput)
  refine .bind (agrees_slices fun j hj =>
    agrees_scatterSlice hp hstage hj hinput (houtputs output hmem)) ?_
  intro _
  exact steady_onSlots (Slots.steady_release (Nat.lt_of_lt_of_le hstage hp.stages_le))

lemma agrees_gatherStage [TensorLibrary] {stage : Nat}
    (hp : p.Planned total place.worldSize capacity) (hstage : stage < p.stages)
    (hinputs : ∀ b ∈ inputs, HasBytes p.stageBytes b) (houtput : HasBytes total output) :
    (gatherStage (Host.platform devices) unchecked p inputs output str stage).Agrees
      (Posted place capacity) ExchangeError.IsLate
      (gatherStage (Host.platform devices) transport p inputs output str stage) := by
  refine .after (Outcome.Errorless.refuses (.orFault _)) ?_
  intro input hinput
  have hmem := List.mem_of_getElem? (Outcome.orFault_eq_ok hinput)
  refine .bind (steady_onSlots (Slots.steady_acquire
    (Nat.lt_of_lt_of_le hstage hp.stages_le) _)) ?_
  intro _
  exact agrees_slices fun j hj => agrees_gatherSlice hp hstage hj (hinputs input hmem) houtput

lemma slot_zero_lt (hp : p.Planned total place.worldSize capacity) : 0 < capacity :=
  Nat.lt_of_lt_of_le hp.stages_pos hp.stages_le

/-- What a scatter does after its checks. -/
lemma vetted_scatter [TensorLibrary] (he : Posted place capacity e) :
    (scatter (Host.platform devices) unchecked input shape stages slices direction).Vetted
      (Posted place capacity)
      (scatter (Host.platform devices) transport input shape stages slices direction) e := by
  refine .check he (verifies_onComm Communicator.verifies_checkDevice) ?_
  intro _ _
  refine .check he (verifies_size _ _) ?_
  intro total hinput
  refine .check he (verifies_plan he) ?_
  intro p hp
  refine .check he verifies_checkStageShape ?_
  intro _ hshape
  refine .check he (verifies_stream _) ?_
  intro comm _
  refine .check he (verifies_stream _) ?_
  intro compute _
  refine .of_agrees ?_ he
  refine .bind (steady_onPlatform _) ?_
  intro _
  have hnone : ∀ b ∈ ([] : List Buffer), IsLike input.dtype shape b :=
    fun b hb => absurd hb List.not_mem_nil
  refine .bindGives (steady_onPlatform _)
    (fun s _ => .within (.mapError (allocStages_like _ _ _ _ _ hnone s.1))) ?_
  intro outputs houtputs
  refine .bind (.orElseClean (.bind ?_ ?_) (steady_onPlatform _)) ?_
  · exact steady_onSlots (Slots.steady_acquire (slot_zero_lt hp) _)
  · intro _
    refine .forEach ?_
    intro stage hstage
    exact agrees_scatterStage hp ((Direction.mem_stageOrder p.direction).1 hstage) hinput
      fun b hb => (houtputs b hb).hasBytes hshape
  · intro _
    exact .pure outputs

lemma vetted_gather [TensorLibrary] (he : Posted place capacity e) :
    (gather (Host.platform devices) unchecked inputs shape stages slices direction).Vetted
      (Posted place capacity)
      (gather (Host.platform devices) transport inputs shape stages slices direction) e := by
  refine .check he (.ensure _ (.inl trivial)) ?_
  intro _ _
  cases inputs with
  | nil => exact .fail he trivial
  | cons first rest =>
    refine .check he (verifies_onComm Communicator.verifies_checkAlike) ?_
    intro _ _
    refine .check he (verifies_size _ _) ?_
    intro total htotal
    refine .check he (verifies_plan he) ?_
    intro p hp
    refine .check he verifies_checkStageBuffers ?_
    intro _ hinputs
    refine .check he (verifies_stream _) ?_
    intro comm _
    refine .check he (verifies_stream _) ?_
    intro compute _
    refine .of_agrees ?_ he
    refine .bind (.forEach fun b _ => steady_onPlatform _) ?_
    intro _
    refine .bindGives (steady_onPlatform _)
      (fun s _ => .within (.mapError (alloc_like _ _ _ s.1))) ?_
    intro output houtput
    refine .bind (.orElseClean (.bind (steady_onPlatform _) ?_) (steady_onPlatform _)) ?_
    · intro _
      refine .bind (.forEach ?_) ?_
      · intro stage hstage
        exact agrees_gatherStage hp ((Direction.mem_stageOrder p.direction).1 hstage) hinputs
          (houtput.hasBytes htotal)
      · intro _
        exact steady_onSlots (Slots.steady_release (slot_zero_lt hp))
    · intro _
      exact .pure output

/-- A round of blocks between two buffers of the size of the layout. -/
lemma agrees_blocks [TensorLibrary] {peer : Nat → Outcome ExchangeError Nat} {count blocks : Nat}
    (hp : h.Planned total place.worldSize) (hblocks : blocks * count = h.worldSize)
    (hpeer : ∀ i, (peer i).Errorless)
    (hlt : ∀ i < blocks, ∀ n, peer i = .ok n → n < place.worldSize)
    (hinput : HasBytes total input) (houtput : HasBytes total output) :
    (onLink (Communicator.inRound unchecked (Act.forEach (List.range blocks) fun i =>
      exchangeBlock unchecked input output str (peer i) (h.block count i))) :
      Act Net HostEngine ExchangeError Unit).Agrees (Posted place capacity) ExchangeError.IsLate
      (onLink (Communicator.inRound transport (Act.forEach (List.range blocks) fun i =>
        exchangeBlock transport input output str (peer i) (h.block count i)))) := by
  refine agrees_onLink (agrees_inRound (fun _ h => h) (.forEach ?_))
  intro i hi
  have hi := List.mem_range.1 hi
  have hblock : (h.block count i : Outcome ExchangeError ByteRange).Errorless :=
    errorless_block count i
  have hwithin : ∀ r, (h.block count i : Outcome ExchangeError ByteRange) = .ok r →
      r.Within total := fun r hr => hp.block_within hi hblocks hr
  rw [exchangeBlock_eq, exchangeBlock_eq]
  exact agrees_exchangeRanges (hpeer i) hblock hblock hinput houtput (hlt i hi) hwithin hwithin

lemma steady_noteFlat :
    (noteFlat (Host.platform devices) h : Act Net HostEngine ExchangeError Unit).Steady
      (Posted place capacity) ExchangeError.IsLate := by
  have hkeeps : ∀ e : HostEngine, Posted place capacity e → ∀ s notice,
      Posted place capacity (s, (e.2.1, { e.2.2 with notice := notice })) :=
    fun _ he _ _ => ⟨⟨he.seated.worldSize, he.seated.topology⟩, he.slots⟩
  refine .bind (.view _) ?_
  intro fired
  refine .bind (.modify fun e he => hkeeps e he _ _) ?_
  intro _
  refine .ite ?_ fun _ => .pure ()
  intro _
  refine .of_ensures ?_
  intro e he
  exact .within (.of_done rfl ⟨hkeeps e he _ _, .ok _⟩)

lemma steady_regroupChunks (chunk height width : Nat) :
    (regroupChunks (Host.platform devices) str output input chunk height width :
      Act Net HostEngine ExchangeError Unit).Steady (Posted place capacity)
      ExchangeError.IsLate := by
  refine .bind (.view _) ?_
  intro kernels
  exact .part _ (fun _ _ he => ⟨⟨he.seated.worldSize, he.seated.topology⟩, he.slots⟩)
    fun _ => trivial

variable [TensorLibrary]

lemma agrees_exchangeFlat {comm compute : Stream} (hp : h.Planned total place.worldSize)
    (hinput : HasBytes total input) (houtput : HasBytes total output) :
    (exchangeFlat (Host.platform devices) unchecked h input output comm compute).Agrees
      (Posted place capacity) ExchangeError.IsLate
      (exchangeFlat (Host.platform devices) transport h input output comm compute) := by
  refine .bind steady_noteFlat ?_
  intro _
  have hlt : ∀ i < h.worldSize, ∀ n, (.ok i : Outcome ExchangeError Nat) = .ok n →
      n < place.worldSize := by
    rintro i hi _ ⟨⟩
    exact Nat.lt_of_lt_of_eq hi hp.worldSize
  refine .bind (agrees_blocks hp (Nat.mul_one _) (fun _ => .ok _) hlt hinput houtput) ?_
  intro _
  exact steady_onPlatform _

lemma agrees_exchangeNested {comm compute : Stream} (hp : h.Planned total place.worldSize)
    (hinput : HasBytes total input) (hbetween : HasBytes total b) :
    (exchangeNested (Host.platform devices) unchecked h input b comm compute).Agrees
      (Posted place capacity) ExchangeError.IsLate
      (exchangeNested (Host.platform devices) transport h input b comm compute) := by
  refine .bind (steady_regroupChunks _ _ _) ?_
  intro _
  refine .bind (agrees_blocks hp (Nat.mul_comm _ _) errorless_intraPeer ?_ hbetween hinput) ?_
  · intro i hi n hn
    exact hp.intraPeer_lt hi hn
  intro _
  refine .bind (steady_regroupChunks _ _ _) ?_
  intro _
  refine .bind (agrees_blocks hp rfl errorless_interPeer ?_ hbetween hinput) ?_
  · intro i hi n hn
    exact hp.interPeer_lt hi hn
  intro _
  exact steady_onPlatform _

lemma vetted_exchangeAll (hplace : place.Valid) (he : Posted place capacity e) :
    (exchangeAll (Host.platform devices) unchecked input).Vetted (Posted place capacity)
      (exchangeAll (Host.platform devices) transport input) e := by
  refine .check he (verifies_onComm Communicator.verifies_checkDevice) ?_
  intro _ _
  refine .check he (verifies_size _ _) ?_
  intro total hinput
  refine .check he (.view rfl) ?_
  rintro _ rfl
  have htopology : e.2.2.comm.topology = place := he.seated.topology
  rw [htopology]
  refine .check he (.ofOutcome (fun _ => Hierarchy.planned_of_create hplace) fun error h =>
    .inl (Hierarchy.refuses_create error h)) ?_
  intro h hp
  refine .check he (verifies_stream _) ?_
  intro comm _
  refine .check he (verifies_stream _) ?_
  intro compute _
  refine .of_agrees ?_ he
  refine .bind (steady_onPlatform _) ?_
  intro _
  refine .bindGives (steady_onPlatform _)
    (fun s _ => .within (.mapError (alloc_like _ _ _ s.1))) ?_
  intro between hbetween
  have hbetween := hbetween.hasBytes hinput
  refine .ite ?_ ?_
  · intro _
    refine .bind (.orElseClean (agrees_exchangeFlat hp hinput hbetween) (steady_onPlatform _)) ?_
    intro _
    exact .pure between
  · intro _
    refine .bind (.andFinally (.bind (agrees_exchangeNested hp hinput hbetween) ?_)
      (steady_onPlatform _)) ?_
    · intro _
      exact steady_onPlatform _
    · intro _
      exact .pure input

end Scheduler

end ExpertExchange
