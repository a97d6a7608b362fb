import ExpertExchange.Proofs.Exchange.Dealt
import ExpertExchange.Proofs.Exchange.Joined
import ExpertExchange.Proofs.Exchange.Layout
import ExpertExchange.StandIn.Tensors
import Mathlib.Tactic.IntervalCases

/-!
# What a scatter does

Each stage of a scatter is one round: slice `j` of the stage goes to the rank it belongs to, and the
slices that arrive make up the stage buffer, by the rank they come from. No stage touches the
buffer of another, so the order of the stages does not matter for what the buffers hold.
-/

namespace ExpertExchange

namespace Split

variable {W stages m size r s p k : Nat} {fused : Nat → Bytes}

/-- Slice `j` of stage `s` of a fused buffer. -/
def slice (stages size : Nat) (fused : Bytes) (s j : Nat) : Bytes :=
  fused.chunk size (j * stages + s)

/-- What stage buffer `s` of rank `r` holds after a scatter, by the fused buffers of all ranks. -/
def scattered (W stages m size : Nat) (fused : Nat → Bytes) (r s : Nat) : Bytes :=
  Bytes.withBlocks size (W * m) (fun j => j)
    (fun j => slice stages size (fused (j / m)) s (r * m + j % m))
    (List.replicate (W * m * size) 0)

lemma length_slice {j : Nat} {c : Bytes} (hc : c.length = fusedLength W stages m size)
    (hs : s < stages) (hj : j < W * m) : (slice stages size c s j).length = size := by
  refine Bytes.length_chunk ?_
  rw [Nat.succ_mul, hc]
  exact slice_end_le hj hs

lemma blocks_scattered (hr : r < W) (hs : s < stages)
    (hlength : ∀ p < W, (fused p).length = fusedLength W stages m size) :
    Bytes.Blocks size 1 (W * m) (fun j => j)
      (fun j => slice stages size (fused (j / m)) s (r * m + j % m))
      (List.replicate (W * m * size) 0) where
  length j hj := by
    have hm : 0 < m := Nat.pos_of_mul_pos_left (Nat.lt_of_le_of_lt (Nat.zero_le j) hj)
    have hp : j / m < W := div_lt_of_block hj
    rw [length_slice (hlength _ hp) hs (block_lt hr (Nat.mod_lt j hm)), Nat.one_mul]
  fits j hj := by
    rw [List.length_replicate]
    exact Nat.mul_le_mul_right size hj
  apart j _ j' _ hne := by omega

/-- Slice `k` from rank `p` in a stage buffer of rank `r`. -/
lemma chunk_scattered (hr : r < W) (hs : s < stages)
    (hlength : ∀ p < W, (fused p).length = fusedLength W stages m size) (hp : p < W) (hk : k < m) :
    (scattered W stages m size fused r s).chunk size (p * m + k) =
      (fused p).chunk size ((r * m + k) * stages + s) := by
  have hj := block_lt hp hk
  have hchunk := (blocks_scattered hr hs hlength).chunk_inside hj Nat.zero_lt_one
  rw [Nat.add_zero] at hchunk
  rw [scattered, hchunk, block_div hk, block_mod hk]
  exact Bytes.chunk_zero_of_length (length_slice (hlength p hp) hs (block_lt hr hk))

lemma length_scattered (hr : r < W) (hs : s < stages)
    (hlength : ∀ p < W, (fused p).length = fusedLength W stages m size) :
    (scattered W stages m size fused r s).length = W * m * size := by
  rw [scattered, (blocks_scattered hr hs hlength).length_withBlocks, List.length_replicate]

end Split

namespace Scheduler

open SimulatedLink

variable {devices W L r m size stages s : Nat} {g : Bytes} {e : HostEngine} {input output : Buffer}
  {fused : Nat → Bytes} {direction : Direction} {shape : List Nat}

lemma exchangesSlices_scatter [TensorLibrary] (direction : Direction)
    (hf : Split.Feasible W stages m) (hs : s < stages)
    (hinput : Buffer.sizeOf? input.dtype input.shape = some (Split.fusedLength W stages m size))
    (houtput : Buffer.sizeOf? output.dtype output.shape = some (W * m * size))
    (slice : Nat → Nat → Nat → Bytes) (stream : Stream) :
    ExchangesSlices W m size r stream.kind input output (fun j => j * stages + s) (fun j => j) slice
      (scatterSlice transport (.even W stages m size direction) input output stream s) := by
  intro j hj
  have hpeer : j / m < W := div_lt_of_block hj
  refine .after (Split.peer_eq hf.world_pos (hf.peer_lt hj)) ?_
  refine .after (Split.fusedRange_eq hf.slices_lt (Buffer.lt_bound_of_sizeOf? hinput) hj hs) ?_
  refine (queues_send ⟨hpeer, _, hinput, ?_⟩).bind ?_
  · exact ⟨Nat.le_add_right _ _, Split.slice_end_le hj hs⟩
  refine .after (Split.stageRange_eq (Buffer.lt_bound_of_sizeOf? houtput) hj) ?_
  refine queues_recv (p := ⟨j / m, ⟨j * size, j * size + size⟩, slice (j / m) r (j % m)⟩)
    ⟨hpeer, _, houtput, ?_⟩
  exact ⟨Nat.le_add_right _ _, Split.stage_end_le hj⟩

/-- What goes from rank `p` to rank `q` in stage `s`, by the fused buffers of all ranks. -/
def scatterTable (stages m size : Nat) (fused : Nat → Bytes) (s p q : Nat) : List Bytes :=
  (List.range m).map fun k => Split.slice stages size (fused p) s (q * m + k)

lemma runs_scatterStage [TensorLibrary] {outputs : List Buffer} (hp : Participant devices g W L r e)
    (hr : r < W) (hf : Split.Feasible W stages m) (hs : s < stages)
    (hcapacity : stages ≤ e.2.2.slots.capacity) (hinput : e.1.heap.Holds input (fused r))
    (hlength : ∀ p < W, (fused p).length = Split.fusedLength W stages m size)
    (houtput : outputs[s]? = some output)
    (hzeros : e.1.heap.Holds output (List.replicate (W * m * size) 0)) (stream : Stream) :
    (scatterStage (Host.platform devices) transport (.even W stages m size direction) input outputs
      stream s).Runs g r e [Round.among W (scatterTable stages m size fused s) r] fun _ e' =>
      Leaves (· = output.cell) e e' ∧
        e'.1.heap.Holds output (Split.scattered W stages m size fused r s) := by
  have hsent : Buffer.sizeOf? input.dtype input.shape = some (Split.fusedLength W stages m size) :=
    hlength r hr ▸ hinput.size
  have hreceived : Buffer.sizeOf? output.dtype output.shape = some (W * m * size) := by
    rw [hzeros.size, List.length_replicate]
  have hround := runs_dealt (fun p q k => Split.slice stages size (fused p) s (q * m + k)) hp
    hf.share_pos hinput hzeros (exchangesSlices_scatter direction hf hs hsent hreceived _ stream)
    (fun j _ => by rw [Split.slice, Nat.div_add_mod'])
    (fun p hp k hk => Split.length_slice (hlength p hp) hs (block_lt hr hk))
    (fun j hj => hlength r hr ▸ Split.slice_end_le hj hs)
    (fun j hj => by
      rw [List.length_replicate]
      exact Split.stage_end_le hj)
  rw [scatterStage, houtput]
  refine .step rfl (hround.before ?_)
  rintro _ e₁ ⟨h₁, -, hheld⟩
  have hp₁ := hp.of_leaves h₁
  refine (runs_release hp₁ (by rw [h₁.capacity_eq]; omega) stream).mono ?_
  rintro _ e₂ ⟨h₂, hheap⟩
  refine ⟨h₁.trans h₂.leaves, ?_⟩
  rw [hheap]
  exact hheld

/-- Stage buffers are fresh cells, one after the other. -/
lemma runs_allocStages {t : Dtype} {shape : List Nat} {owner user : Stream} {n count : Nat}
    {made : List Buffer} {h : HostState} (hd : owner.device < devices)
    (hn : Buffer.sizeOf? t shape = some n) (hsmall : n ≤ Word.allocationBound) :
    (allocStages (Host.platform devices) t shape owner user count made).Runs g r h []
      fun bs h' => h'.kernels = h.kernels ∧ Heap.Keeps (fun _ => False) h.heap h'.heap ∧
        bs = made ++ (List.range' h.heap.length count).map (Buffer.mk t shape owner.device) ∧
        ∀ i < count, h'.heap.Holds (Buffer.mk t shape owner.device (h.heap.length + i))
          (List.replicate n 0) := by
  induction count generalizing made h with
  | zero =>
    refine .pure ⟨rfl, .refl _, ?_, fun i hi => ?_⟩
    · simp
    · omega
  | succ count ih =>
    let b : Buffer := ⟨t, shape, owner.device, h.heap.length⟩
    let grown : Heap := h.heap.allocated n owner
    have hkeeps : Heap.Keeps (fun _ => False) h.heap (grown.markUsed b user) :=
      (Heap.keeps_append _ _).trans (Heap.keeps_markUsed _ _ _)
    have hlength : (grown.markUsed b user).length = h.heap.length + 1 := by
      simp [grown, Heap.markUsed, Heap.allocated]
    have hzeros : (grown.markUsed b user).Holds b (List.replicate n 0) :=
      (Heap.keeps_markUsed _ _ _).holds _ _ id (Heap.holds_allocated owner rfl hn hsmall)
    let h₁ : HostState := ({ h with heap := grown.markUsed b user }).note (.recordStream user.kind)
    have hmake : (Act.bind ((Host.platform devices).alloc t shape owner) fun b =>
        Act.bind (((Host.platform devices).recordStream b user).orElseClean
          ((Host.platform devices).release b)) fun _ => pure b : Act Net _ _ _).Runs g r h []
        fun a h' => a = b ∧ h' = h₁ :=
      .step (alloc_eq hd hn hsmall) (.step rfl (.pure ⟨rfl, rfl⟩))
    refine .after hmake.orElseClean ?_
    rintro _ _ ⟨rfl, rfl⟩
    refine ih.mono ?_
    rintro bs h₂ ⟨hkernels, hkept, rfl, hheld⟩
    refine ⟨hkernels, hkeeps.trans hkept, ?_, fun i hi => ?_⟩
    · rw [List.range'_succ, List.map_cons, ← List.append_cons, show h₁.heap.length = _ from hlength]
    · cases i with
      | zero => exact hkept.holds _ _ id hzeros
      | succ i =>
        have := hheld i (by omega)
        rwa [show h₁.heap.length = _ from hlength, Nat.add_right_comm] at this

lemma runs_stageBuffers {t : Dtype} {shape : List Nat} {owner : Stream} {n count : Nat}
    (user : Stream) (hd : owner.device < devices) (hn : Buffer.sizeOf? t shape = some n)
    (hsmall : n ≤ Word.allocationBound) :
    (onPlatform (allocStages (Host.platform devices) t shape owner user count [])).Runs g r e []
      fun bs e' => Undisturbed e e' ∧
        bs = (List.range count).map (fun i => ⟨t, shape, owner.device, e.1.heap.length + i⟩) ∧
        ∀ i < count, e'.1.heap.Holds ⟨t, shape, owner.device, e.1.heap.length + i⟩
          (List.replicate n 0) := by
  refine .within (.mapError ((runs_allocStages hd hn hsmall).mono ?_))
  rintro bs h' ⟨hkernels, hkept, rfl, hheld⟩
  refine ⟨leaves_platform hkernels hkept, ?_, hheld⟩
  rw [List.nil_append, List.range'_eq_map_range, List.map_map]
  rfl

/-- The participant can split its buffer, which holds these bytes, into stage buffers of this
shape. -/
structure Splittable (W stages m size : Nat) (e : HostEngine) (input : Buffer) (shape : List Nat)
    (fused : Bytes) : Prop where
  capacity : stages ≤ e.2.2.slots.capacity
  device : input.device = ownDevice e
  holds : e.1.heap.Holds input fused
  length : fused.length = Split.fusedLength W stages m size
  shape : Buffer.sizeOf? input.dtype shape = some (W * m * size)

def stageBuffer (e : HostEngine) (input : Buffer) (shape : List Nat) (s : Nat) : Buffer :=
  ⟨input.dtype, shape, ownDevice e, e.1.heap.length + s⟩

lemma plan_eq (hp : Participant devices g W L r e) (hf : Split.Feasible W stages m)
    (hcapacity : stages ≤ e.2.2.slots.capacity) :
    plan (Split.fusedLength W stages m size) stages (W * m) direction e =
      .done (.ok (.even W stages m size direction), e) := by
  refine (Act.bind_done rfl).trans (Act.outcome_done ?_ e)
  rw [hp.topology]
  exact Split.create_eq hf hcapacity direction

lemma checkStageShape_eq {op : String} {t : Dtype}
    (hshape : Buffer.sizeOf? t shape = some (W * m * size)) :
    checkStageShape op (.even W stages m size direction) t shape = .ok () := by
  rw [checkStageShape, Buffer.sizeOf_eq hshape, Outcome.bind]
  exact if_pos rfl

/-- All stages, in either order: every stage buffer is filled. -/
lemma runs_scatterStages [TensorLibrary] {outputs : List Buffer} {out : Nat → Buffer}
    {stream : Stream} (hp : Participant devices g W L r e) (hr : r < W)
    (hf : Split.Feasible W stages m) (hcapacity : stages ≤ e.2.2.slots.capacity)
    (hinput : e.1.heap.Holds input (fused r))
    (hlength : ∀ p < W, (fused p).length = Split.fusedLength W stages m size)
    (hout : ∀ s < stages, outputs[s]? = some (out s))
    (hzeros : ∀ s < stages, e.1.heap.Holds (out s) (List.replicate (W * m * size) 0))
    (hinj : ∀ s < stages, ∀ s' < stages, (out s).cell = (out s').cell → s = s')
    (hfresh : ∀ s < stages, (out s).cell ≠ input.cell) :
    (Act.forEach (direction.stageOrder stages) (scatterStage (Host.platform devices) transport
      (.even W stages m size direction) input outputs stream)).Runs g r e
      (((direction.stageOrder stages).map (scatterTable stages m size fused)).map
        fun out => Round.among W out r)
      fun _ e' => Leaves (fun i => ∃ s < stages, i = (out s).cell) e e' ∧
        ∀ s < stages, e'.1.heap.Holds (out s) (Split.scattered W stages m size fused r s) := by
  let I (finished : List Nat) (e' : HostEngine) : Prop :=
    Leaves (fun i => ∃ s < stages, i = (out s).cell) e e' ∧ ∀ s < stages, e'.1.heap.Holds (out s)
      (if s ∈ finished then Split.scattered W stages m size fused r s
        else List.replicate (W * m * size) 0)
  have hstart : I [] e := ⟨.refl _, fun s hs => by simpa using hzeros s hs⟩
  rw [List.map_map]
  refine (Act.Runs.forEachRound (I := I) hstart ?_).mono ?_
  · intro finished s rest horder e₁ hI
    obtain ⟨h₁, hheld⟩ := hI
    obtain ⟨hs, hnew⟩ := Direction.new_stage horder
    have hinput₁ : e₁.1.heap.Holds input (fused r) := by
      refine h₁.heap.holds _ _ ?_ hinput
      rintro ⟨s', hs', hcell⟩
      exact hfresh s' hs' hcell.symm
    have hzeros₁ := hheld s hs
    rw [if_neg hnew] at hzeros₁
    refine (runs_scatterStage (hp.of_leaves h₁) hr hf hs (h₁.capacity_eq ▸ hcapacity) hinput₁
      hlength (hout s hs) hzeros₁ stream).mono ?_
    rintro _ e₂ ⟨h₂, hfilled⟩
    refine ⟨h₁.trans (h₂.mono fun i _ hi => ⟨s, hs, hi⟩), fun s' hs' => ?_⟩
    by_cases hss : s' = s
    · subst hss
      rw [if_pos (by simp)]
      exact hfilled
    · have hother : (out s').cell ≠ (out s).cell := fun hcell => hss (hinj s' hs' s hs hcell)
      have := h₂.heap.holds _ _ hother (hheld s' hs')
      simpa [hss] using this
  · rintro _ e' ⟨h', hheld⟩
    refine ⟨h', fun s hs => ?_⟩
    have := hheld s hs
    rwa [if_pos ((Direction.mem_stageOrder direction).2 hs)] at this

/-- The exchange of a scatter: the slot of the first stage, then all stages. -/
lemma runs_scatterExchange [TensorLibrary] {outputs : List Buffer} {out : Nat → Buffer}
    {stream : Stream} (hp : Participant devices g W L r e) (hr : r < W)
    (hf : Split.Feasible W stages m) (hcapacity : stages ≤ e.2.2.slots.capacity)
    (hinput : e.1.heap.Holds input (fused r))
    (hlength : ∀ p < W, (fused p).length = Split.fusedLength W stages m size)
    (hout : ∀ s < stages, outputs[s]? = some (out s))
    (hzeros : ∀ s < stages, e.1.heap.Holds (out s) (List.replicate (W * m * size) 0))
    (hinj : ∀ s < stages, ∀ s' < stages, (out s).cell = (out s').cell → s = s')
    (hfresh : ∀ s < stages, (out s).cell ≠ input.cell) :
    (Act.bind (onSlots (Slots.acquire (Host.platform devices) 0 stream [])) fun _ =>
      Act.forEach (direction.stageOrder stages) (scatterStage (Host.platform devices) transport
        (.even W stages m size direction) input outputs stream)).Runs g r e
      (((direction.stageOrder stages).map (scatterTable stages m size fused)).map
        fun out => Round.among W out r)
      fun _ e' => Leaves (fun i => ∃ s < stages, i = (out s).cell) e e' ∧
        ∀ s < stages, e'.1.heap.Holds (out s) (Split.scattered W stages m size fused r s) := by
  refine .after (runs_acquire hp (Nat.lt_of_lt_of_le hf.stages_pos hcapacity) stream) ?_
  rintro _ e₁ ⟨h₁, hheap⟩
  have hzeros₁ : ∀ s < stages, e₁.1.heap.Holds (out s) (List.replicate (W * m * size) 0) := by
    intro s hs
    rw [hheap]
    exact hzeros s hs
  refine (runs_scatterStages (hp.of_leaves h₁) hr hf (h₁.capacity_eq ▸ hcapacity)
    (hheap ▸ hinput) hlength hout hzeros₁ hinj hfresh).mono ?_
  rintro _ e₂ ⟨h₂, hfilled⟩
  exact ⟨h₁.leaves.trans h₂, hfilled⟩

theorem runs_scatter [TensorLibrary] (direction : Direction) (hp : Participant devices g W L r e)
    (h : Splittable W stages m size e input shape (fused r)) (hr : r < W)
    (hf : Split.Feasible W stages m)
    (hlength : ∀ p < W, (fused p).length = Split.fusedLength W stages m size) :
    (scatter (Host.platform devices) transport input shape stages (W * m) direction).Runs g r e
      (((direction.stageOrder stages).map (scatterTable stages m size fused)).map
        fun out => Round.among W out r)
      fun outs e' => Leaves (e.1.heap.length ≤ ·) e e' ∧
        outs = (List.range stages).map (stageBuffer e input shape) ∧
        ∀ s < stages, e'.1.heap.Holds (stageBuffer e input shape s)
          (Split.scattered W stages m size fused r s) := by
  have hsmall : W * m * size ≤ Word.allocationBound :=
    Nat.le_trans (Split.stage_le_fused hf.stages_pos) (h.length ▸ h.holds.small)
  refine .step (checkDevice_eq h.device) ?_
  refine .step (Act.outcome_done h.holds.byteCount e) ?_
  rw [h.length]
  refine .step (plan_eq hp hf h.capacity) ?_
  refine .step (Act.outcome_done (checkStageShape_eq h.shape) e) ?_
  refine .step (stream_eq hp) (.step (stream_eq hp) ?_)
  refine .after (runs_recordStream _ _) ?_
  rintro _ e₁ ⟨h₁, hbase⟩
  refine .after (runs_stageBuffers _ hp.device_lt h.shape hsmall) ?_
  rintro outs e₂ ⟨h₂, houts, hzeros⟩
  rw [hbase] at houts hzeros
  have hout (s : Nat) (hs : s < stages) : outs[s]? = some (stageBuffer e input shape s) := by
    rw [houts, List.getElem?_map, List.getElem?_range hs, Option.map_some]
    rfl
  have hp₂ := (hp.of_leaves h₁).of_leaves h₂
  have hcapacity₂ : stages ≤ e₂.2.2.slots.capacity := by
    rw [h₂.capacity_eq, h₁.capacity_eq]
    exact h.capacity
  have hinput₂ := h₂.heap.holds _ _ id (h₁.heap.holds _ _ id h.holds)
  have hinj : ∀ s < stages, ∀ s' < stages,
      (stageBuffer e input shape s).cell = (stageBuffer e input shape s').cell → s = s' := by
    intro s _ s' _ hcell
    exact Nat.add_left_cancel hcell
  have hfresh : ∀ s < stages, (stageBuffer e input shape s).cell ≠ input.cell := by
    intro s _
    have hcell := h.holds.cell_lt
    simp only [stageBuffer]
    omega
  refine .before (Act.Runs.orElseClean (runs_scatterExchange hp₂ hr hf hcapacity₂ hinput₂ hlength
    hout hzeros hinj hfresh)) ?_
  rintro _ e₃ ⟨h₃, hfilled⟩
  refine .pure ⟨h₁.leaves.trans (h₂.leaves.trans (h₃.mono ?_)), houts, hfilled⟩
  rintro i - ⟨s, -, rfl⟩
  exact Nat.le_add_right _ _

variable {inputs : Nat → Buffer} {shapes : Nat → List Nat} {es : Nat → HostEngine}

lemma lockstep_scatter [TensorLibrary] (direction : Direction)
    (hp : ∀ r < W, Participant devices g W L r (es r)) (hf : Split.Feasible W stages m)
    (h : ∀ r < W, Splittable W stages m size (es r) (inputs r) (shapes r) (fused r)) :
    Lockstep g W (fun r => scatter (Host.platform devices) transport (inputs r) (shapes r) stages
      (W * m) direction) es fun outs es' => ∀ r < W,
        Leaves ((es r).1.heap.length ≤ ·) (es r) (es' r) ∧
          outs r = (List.range stages).map (stageBuffer (es r) (inputs r) (shapes r)) ∧
          ∀ s < stages, (es' r).1.heap.Holds (stageBuffer (es r) (inputs r) (shapes r) s)
            (Split.scattered W stages m size fused r s) := by
  have hruns := fun r hr => runs_scatter direction (hp r hr) (h r hr) hr hf fun p hp =>
    (h p hp).length
  exact Lockstep.of_tables hf.world_pos _ hruns

/-- A scatter by all ranks. In every interleaving every rank gets its stage buffers, in which slice
`p * m + k` of stage `s` is slice `(r * m + k, s)` of what rank `p` has put in, whatever the
direction; the inputs stay as they are, and no message is left over. -/
theorem scatter_settles [TensorLibrary] (hp : ∀ r < W, Participant devices g W L r (es r))
    (hf : Split.Feasible W stages m)
    (h : ∀ r < W, Splittable W stages m size (es r) (inputs r) (shapes r) (fused r))
    {n : Network} (hn : n.Formed g) (hq : n.Quiet g) :
    ∃ stage : Nat → Nat → Bytes,
      (∀ r < W, ∀ s < stages, (stage r s).length = W * m * size ∧ ∀ p < W, ∀ k < m,
        (stage r s).chunk size (p * m + k) = (fused p).chunk size ((r * m + k) * stages + s)) ∧
      ∀ direction, (Crowd.starting W (fun r => scatter (Host.platform devices) transport
        (inputs r) (shapes r) stages (W * m) direction) es n).Settles fun vs n' =>
          n'.Quiet g ∧ ∃ (outs : Nat → List Buffer) (es' : Nat → HostEngine),
            vs = (List.range W).map (fun r => (.ok (outs r), es' r)) ∧ ∀ r < W,
              (es' r).1.heap.Holds (inputs r) (fused r) ∧ (outs r).length = stages ∧
              ∀ s < stages, ∃ b, (outs r)[s]? = some b ∧ (es' r).1.heap.Holds b (stage r s) := by
  have hlength : ∀ p < W, (fused p).length = Split.fusedLength W stages m size := fun p hp =>
    (h p hp).length
  refine ⟨Split.scattered W stages m size fused, fun r hr s hs => ?_, fun direction => ?_⟩
  · exact ⟨Split.length_scattered hr hs hlength, fun p hp k hk =>
      Split.chunk_scattered hr hs hlength hp hk⟩
  · obtain ⟨outs, es', hends, hsettles⟩ := (lockstep_scatter direction hp hf h).settles hn hq
    refine hsettles.mono fun vs n' ⟨hvs, _, hquiet⟩ => ⟨hquiet, outs, es', hvs, fun r hr => ?_⟩
    obtain ⟨hleaves, houts, hheld⟩ := hends r hr
    have hcell := (h r hr).holds.cell_lt
    refine ⟨hleaves.heap.holds _ _ (by omega) (h r hr).holds, ?_, fun s hs => ?_⟩
    · rw [houts, List.length_map, List.length_range]
    · refine ⟨_, ?_, hheld s hs⟩
      rw [houts, List.getElem?_map, List.getElem?_range hs, Option.map_some]

def fourSlices (r : Nat) : Bytes := if r = 0 then [1, 2, 3, 4] else [5, 6, 7, 8]

lemma exists_splittable [TensorLibrary] : ∃ es : Nat → HostEngine, ∀ r < 2,
    joined 2 .none [] 2 1 r r 0 [⟨.host (fourSlices r), [], 1⟩] = some (es r) ∧
      Participant 2 [] 2 1 r (es r) ∧
      Splittable 2 2 1 1 (es r) ⟨.u8, [4], r, 0⟩ [2] (fourSlices r) := by
  obtain ⟨es, hes⟩ := exists_group (g := []) (W := 2) (L := 1) .none 0
    (fun r => [⟨.host (fourSlices r), [], 1⟩]) (Nat.le_refl 2)
  refine ⟨es, fun r hr => ?_⟩
  obtain ⟨hjoined, hheap, hcapacity, hdevice, hparticipant⟩ := hes r hr
  refine ⟨hjoined, hparticipant, ?_, hdevice.symm, ?_, ?_, rfl⟩
  · rw [hcapacity]
    decide
  · rw [hheap]
    refine ⟨⟨[], 1, rfl⟩, ?_, ?_⟩ <;> interval_cases r <;> decide
  · interval_cases r <;> rfl

lemma feasible_two : Split.Feasible 2 2 1 := ⟨by decide, by decide, by decide, by decide, by decide⟩

open StandIn in
theorem scatter_settles_two_ranks :
    ∃ es : Nat → HostEngine,
      (∀ r < 2, joined 2 .none [] 2 1 r r 0 [⟨.host (fourSlices r), [], 1⟩] = some (es r)) ∧
      ∀ direction, (Crowd.starting 2 (fun r => scatter (Host.platform 2) transport
        ⟨.u8, [4], r, 0⟩ [2] 2 2 direction) es (.assembled [] 2)).Settles fun vs n' =>
          n'.Quiet [] ∧ ∃ (outs : Nat → List Buffer) (es' : Nat → HostEngine),
            vs = (List.range 2).map (fun r => (.ok (outs r), es' r)) ∧ ∀ r < 2, ∀ s < 2,
              ∃ b, (outs r)[s]? = some b ∧
                (es' r).1.heap.Holds b [.ofNat (2 * r + s + 1), .ofNat (2 * r + s + 5)] := by
  obtain ⟨es, hes⟩ := exists_splittable
  refine ⟨es, fun r hr => (hes r hr).1, fun direction => ?_⟩
  obtain ⟨stage, hstage, hsettles⟩ := scatter_settles (fun r hr => (hes r hr).2.1)
    feasible_two (fun r hr => (hes r hr).2.2) (Network.formed_assembled [] 2)
    (Network.quiet_assembled [] 2)
  refine (hsettles direction).mono ?_
  rintro vs n' ⟨hquiet, outs, es', hvs, hends⟩
  refine ⟨hquiet, outs, es', hvs, fun r hr s hs => ?_⟩
  obtain ⟨-, -, hheld⟩ := hends r hr
  obtain ⟨b, hb, hheld⟩ := hheld s hs
  have hbytes : stage r s = [.ofNat (2 * r + s + 1), .ofNat (2 * r + s + 5)] := by
    obtain ⟨hlength, hchunks⟩ := hstage r hr s hs
    refine Bytes.ext_chunk (show _ = 2 * 1 from hlength) rfl fun p hp => ?_
    have := hchunks p hp 0 Nat.zero_lt_one
    rw [Nat.mul_one, Nat.add_zero] at this
    rw [this]
    interval_cases r <;> interval_cases s <;> interval_cases p <;> rfl
  rw [hbytes] at hheld
  exact ⟨b, hb, hheld⟩

end Scheduler

end ExpertExchange
