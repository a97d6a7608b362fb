import ExpertExchange.Proofs.Exchange.Scattered
import ExpertExchange.StandIn.Tensors

/-!
# What a gather does, and that it undoes a scatter

Each stage of a gather is one round: slice `j` of the stage buffer goes to the rank it came from,
and the slices that arrive fill the places of this stage in the fused buffer. The places of
different stages do not overlap, so again the order of the stages does not matter.
-/

namespace ExpertExchange

namespace Split

variable {W stages m size r s j : Nat} {stage : Nat → Nat → Bytes} {c : Bytes}

/-- Slice `j` that rank `r` gets in stage `s` of a gather, by the stage buffers of all ranks. -/
def returned (m size : Nat) (stage : Nat → Nat → Bytes) (r s j : Nat) : Bytes :=
  (stage (j / m) s).chunk size (r * m + j % m)

/-- What the fused buffer of rank `r` holds after a gather, by the stage buffers of all ranks. -/
def gathered (W stages m size : Nat) (stage : Nat → Nat → Bytes) (r : Nat) : Bytes :=
  Bytes.withBlocks size (stages * (W * m)) (fun i => i)
    (fun i => returned m size stage r (i % stages) (i / stages))
    (List.replicate (fusedLength W stages m size) 0)

lemma length_returned (hr : r < W) (hj : j < W * m)
    (hlength : ∀ p < W, ∀ s < stages, (stage p s).length = W * m * size) (hs : s < stages) :
    (returned m size stage r s j).length = size := by
  have hm : 0 < m := Nat.pos_of_mul_pos_left (Nat.lt_of_le_of_lt (Nat.zero_le j) hj)
  refine Bytes.length_chunk ?_
  rw [Nat.succ_mul, hlength _ (div_lt_of_block hj) s hs]
  exact stage_end_le (block_lt hr (Nat.mod_lt j hm))

lemma blocks_gathered (hr : r < W) (hstages : 0 < stages)
    (hlength : ∀ p < W, ∀ s < stages, (stage p s).length = W * m * size) :
    Bytes.Blocks size 1 (stages * (W * m)) (fun i => i)
      (fun i => returned m size stage r (i % stages) (i / stages))
      (List.replicate (fusedLength W stages m size) 0) where
  length i hi := by
    rw [length_returned hr (Nat.div_lt_of_lt_mul hi) hlength (Nat.mod_lt i hstages), Nat.one_mul]
  fits i hi := by
    rw [List.length_replicate]
    exact Nat.mul_le_mul_right size hi
  apart i _ i' _ hne := by omega

/-- The slices of a gathered buffer. -/
lemma chunk_gathered (hr : r < W) (hs : s < stages)
    (hlength : ∀ p < W, ∀ s < stages, (stage p s).length = W * m * size) (hj : j < W * m) :
    (gathered W stages m size stage r).chunk size (j * stages + s) =
      returned m size stage r s j := by
  have hstages : 0 < stages := by omega
  have hchunk := (blocks_gathered hr hstages hlength).chunk_inside (slice_lt hj hs) Nat.zero_lt_one
  rw [Nat.add_zero, block_mod hs, block_div hs] at hchunk
  rw [gathered, hchunk]
  exact Bytes.chunk_zero_of_length (length_returned hr hj hlength hs)

lemma length_gathered (hr : r < W) (hstages : 0 < stages)
    (hlength : ∀ p < W, ∀ s < stages, (stage p s).length = W * m * size) :
    (gathered W stages m size stage r).length = fusedLength W stages m size := by
  rw [gathered, (blocks_gathered hr hstages hlength).length_withBlocks, List.length_replicate]

/-- Bytes with the slices of a gathered buffer are the gathered buffer. -/
lemma eq_gathered (hr : r < W) (hstages : 0 < stages)
    (hlength : ∀ p < W, ∀ s < stages, (stage p s).length = W * m * size)
    (hc : c.length = fusedLength W stages m size)
    (h : ∀ s < stages, ∀ j < W * m, c.chunk size (j * stages + s) = returned m size stage r s j) :
    c = gathered W stages m size stage r := by
  refine Bytes.ext_chunk hc (length_gathered hr hstages hlength) fun i hi => ?_
  have hj : i / stages < W * m := Nat.div_lt_of_lt_mul hi
  have hs : i % stages < stages := Nat.mod_lt i hstages
  rw [← Nat.div_add_mod' i stages, h _ hs _ hj, chunk_gathered hr hs hlength hj]

/-- The places of one stage. -/
lemma blocks_stage (hs : s < stages) (hr : r < W)
    (hlength : ∀ p < W, ∀ s < stages, (stage p s).length = W * m * size)
    (hc : c.length = fusedLength W stages m size) :
    Bytes.Blocks size 1 (W * m) (fun j => j * stages + s) (returned m size stage r s) c where
  length j hj := by rw [length_returned hr hj hlength hs, Nat.one_mul]
  fits j hj := by
    rw [hc]
    exact Nat.mul_le_mul_right size (slice_lt hj hs)
  apart j hj j' hj' hne := by
    have : j * stages ≠ j' * stages := fun h => hne (Nat.eq_of_mul_eq_mul_right (by omega) h)
    omega

/-- Filling the places of one stage fills no place of another. -/
lemma chunk_other_stage {s' : Nat} (hs : s < stages) (hs' : s' < stages) (hne : s' ≠ s) (hr : r < W)
    (hlength : ∀ p < W, ∀ s < stages, (stage p s).length = W * m * size)
    (hc : c.length = fusedLength W stages m size) :
    (Bytes.withBlocks size (W * m) (fun j => j * stages + s) (returned m size stage r s) c).chunk
      size (j * stages + s') = c.chunk size (j * stages + s') := by
  refine (blocks_stage hs hr hlength hc).chunk_outside fun i _ => ?_
  have : j * stages + s' ≠ i * stages + s := by
    intro h
    have := congrArg (· % stages) h
    simp only [block_mod hs, block_mod hs'] at this
    exact hne this
  omega

/-- Gathering what was scattered gives back what was there before. -/
lemma gathered_scattered {fused : Nat → Bytes} (hr : r < W) (hstages : 0 < stages)
    (hlength : ∀ p < W, (fused p).length = fusedLength W stages m size) :
    gathered W stages m size (scattered W stages m size fused) r = fused r := by
  refine (eq_gathered hr hstages (fun p hp s hs => length_scattered hp hs hlength) (hlength r hr)
    fun s hs j hj => ?_).symm
  have hm : 0 < m := Nat.pos_of_mul_pos_left (Nat.lt_of_le_of_lt (Nat.zero_le j) hj)
  rw [returned, chunk_scattered (div_lt_of_block hj) hs hlength hr (Nat.mod_lt j hm),
    Nat.div_add_mod']

end Split

namespace Scheduler

open SimulatedLink

variable {devices W L r m size stages s : Nat} {g : Bytes} {e : HostEngine} {input output : Buffer}
  {stage : Nat → Nat → Bytes} {direction : Direction} {shape : List Nat} {inputs : List Buffer}
  {inp : Nat → Buffer} {c : Bytes}

lemma exchangesSlices_gather [TensorLibrary] (direction : Direction)
    (hf : Split.Feasible W stages m) (hs : s < stages)
    (hinput : Buffer.sizeOf? input.dtype input.shape = some (W * m * size))
    (houtput : Buffer.sizeOf? output.dtype output.shape = some (Split.fusedLength W stages m size))
    (slice : Nat → Nat → Nat → Bytes) (stream : Stream) :
    ExchangesSlices W m size r stream.kind input output (fun j => j) (fun j => j * stages + s) slice
      (gatherSlice transport (.even W stages m size direction) input output stream s) := by
  intro j hj
  have hpeer : j / m < W := div_lt_of_block hj
  refine .after (Split.peer_eq hf.world_pos (hf.peer_lt hj)) ?_
  refine .after (Split.stageRange_eq (Buffer.lt_bound_of_sizeOf? hinput) hj) ?_
  refine (queues_send ⟨hpeer, _, hinput, ?_⟩).bind ?_
  · exact ⟨Nat.le_add_right _ _, Split.stage_end_le hj⟩
  refine .after (Split.fusedRange_eq hf.slices_lt (Buffer.lt_bound_of_sizeOf? houtput) hj hs) ?_
  refine queues_recv (p := ⟨j / m, ⟨(j * stages + s) * size, (j * stages + s) * size + size⟩,
    slice (j / m) r (j % m)⟩) ⟨hpeer, _, houtput, ?_⟩
  exact ⟨Nat.le_add_right _ _, Split.slice_end_le hj hs⟩

/-- What goes from rank `p` to rank `q` in stage `s`, by the stage buffers of all ranks. -/
def gatherTable (m size : Nat) (stage : Nat → Nat → Bytes) (s p q : Nat) : List Bytes :=
  (List.range m).map fun k => (stage p s).chunk size (q * m + k)

lemma runs_gatherStage [TensorLibrary] (hp : Participant devices g W L r e) (hr : r < W)
    (hf : Split.Feasible W stages m) (hs : s < stages) (hcapacity : stages ≤ e.2.2.slots.capacity)
    (hinput : inputs[s]? = some input) (hheld : e.1.heap.Holds input (stage r s))
    (hlength : ∀ p < W, ∀ s < stages, (stage p s).length = W * m * size)
    (houtput : e.1.heap.Holds output c) (hc : c.length = Split.fusedLength W stages m size)
    (stream : Stream) :
    (gatherStage (Host.platform devices) transport (.even W stages m size direction) inputs output
      stream s).Runs g r e [Round.among W (gatherTable m size stage s) r] fun _ e' =>
      Leaves (· = output.cell) e e' ∧ e'.1.heap.Holds output (Bytes.withBlocks size (W * m)
        (fun j => j * stages + s) (Split.returned m size stage r s) c) := by
  have hsent : Buffer.sizeOf? input.dtype input.shape = some (W * m * size) :=
    hlength r hr s hs ▸ hheld.size
  have hreceived : Buffer.sizeOf? output.dtype output.shape =
      some (Split.fusedLength W stages m size) := hc ▸ houtput.size
  rw [gatherStage, hinput]
  refine .step rfl (.after (runs_acquire hp (by omega) stream) ?_)
  rintro _ e₁ ⟨h₁, hheap⟩
  have hround := runs_dealt (fun p q k => (stage p s).chunk size (q * m + k)) (hp.of_leaves h₁)
    hf.share_pos (hheap ▸ hheld) (hheap ▸ houtput)
    (exchangesSlices_gather direction hf hs hsent hreceived _ stream)
    (fun j _ => by rw [Nat.div_add_mod'])
    (fun p hp k hk => by
      refine Bytes.length_chunk ?_
      rw [Nat.succ_mul, hlength p hp s hs]
      exact Split.stage_end_le (block_lt hr hk))
    (fun j hj => by
      rw [hlength r hr s hs]
      exact Split.stage_end_le hj)
    (fun j hj => hc ▸ Split.slice_end_le hj hs)
  refine hround.mono ?_
  rintro _ e₂ ⟨h₂, -, hfilled⟩
  exact ⟨h₁.leaves.trans h₂, hfilled⟩

/-- All stages, in either order: all places of the fused buffer are filled. -/
lemma runs_gatherStages [TensorLibrary] {stream : Stream} (hp : Participant devices g W L r e)
    (hr : r < W) (hf : Split.Feasible W stages m) (hcapacity : stages ≤ e.2.2.slots.capacity)
    (hinputs : ∀ s < stages, inputs[s]? = some (inp s))
    (hheld : ∀ s < stages, e.1.heap.Holds (inp s) (stage r s))
    (hlength : ∀ p < W, ∀ s < stages, (stage p s).length = W * m * size)
    (houtput : e.1.heap.Holds output c) (hc : c.length = Split.fusedLength W stages m size)
    (hfresh : ∀ s < stages, (inp s).cell ≠ output.cell) :
    (Act.forEach (direction.stageOrder stages) (gatherStage (Host.platform devices) transport
      (.even W stages m size direction) inputs output stream)).Runs g r e
      (((direction.stageOrder stages).map (gatherTable m size stage)).map
        fun out => Round.among W out r)
      fun _ e' => Leaves (· = output.cell) e e' ∧
        e'.1.heap.Holds output (Split.gathered W stages m size stage r) := by
  let I (finished : List Nat) (e' : HostEngine) : Prop :=
    Leaves (· = output.cell) e e' ∧ ∃ d, e'.1.heap.Holds output d ∧ d.length = c.length ∧
      ∀ s ∈ finished, ∀ j < W * m,
        d.chunk size (j * stages + s) = Split.returned m size stage r s j
  have hstart : I [] e := ⟨.refl _, c, houtput, rfl, nofun⟩
  rw [List.map_map]
  refine (Act.Runs.forEachRound (I := I) hstart ?_).mono ?_
  · intro finished s rest horder e₁ hI
    obtain ⟨h₁, d, hd, hdlen, hdone⟩ := hI
    rw [hc] at hdlen
    have hmem : ∀ s' ∈ finished ++ s :: rest, s' < stages := fun s' hs' =>
      (Direction.mem_stageOrder direction).1 (horder ▸ hs')
    obtain ⟨hs, hnew⟩ := Direction.new_stage horder
    have hheld₁ := h₁.heap.holds _ _ (hfresh s hs) (hheld s hs)
    refine (runs_gatherStage (hp.of_leaves h₁) hr hf hs (h₁.capacity_eq ▸ hcapacity)
      (hinputs s hs) hheld₁ hlength hd hdlen stream).mono ?_
    rintro _ e₂ ⟨h₂, hfilled⟩
    have hblocks := Split.blocks_stage hs hr hlength hdlen
    refine ⟨h₁.trans h₂, _, hfilled, by rw [hblocks.length_withBlocks, hdlen, hc], ?_⟩
    intro s' hs' j hj
    rcases List.mem_append.1 hs' with hs' | hs'
    · have hne : s' ≠ s := fun h => hnew (h ▸ hs')
      rw [Split.chunk_other_stage hs (hmem s' (by simp [hs'])) hne hr hlength hdlen]
      exact hdone s' hs' j hj
    · obtain rfl := List.mem_singleton.1 hs'
      have hchunk := hblocks.chunk_inside hj Nat.zero_lt_one
      rw [Nat.add_zero] at hchunk
      rw [hchunk]
      exact Bytes.chunk_zero_of_length (Split.length_returned hr hj hlength hs)
  · rintro _ e' ⟨h', d, hd, hdlen, hdone⟩
    refine ⟨h', ?_⟩
    rw [hc] at hdlen
    rw [← Split.eq_gathered hr hf.stages_pos hlength hdlen fun s hs =>
      hdone s ((Direction.mem_stageOrder direction).2 hs)]
    exact hd

/-- The participant can join its stage buffers, which hold these bytes, into a buffer of this
shape. -/
structure Joinable (W stages m size : Nat) (e : HostEngine) (t : Dtype) (inputs : List Buffer)
    (shape : List Nat) (stage : Nat → Bytes) : Prop where
  capacity : stages ≤ e.2.2.slots.capacity
  count : inputs.length = stages
  input : ∀ s < stages, ∃ b, inputs[s]? = some b ∧ b.dtype = t ∧ b.device = ownDevice e ∧
    e.1.heap.Holds b (stage s)
  length : ∀ s < stages, (stage s).length = W * m * size
  shape : Buffer.sizeOf? t shape = some (Split.fusedLength W stages m size)
  small : Split.fusedLength W stages m size ≤ Word.allocationBound

variable {t : Dtype}

lemma Joinable.of_mem {stage : Nat → Bytes}
    (h : Joinable W stages m size e t inputs shape stage) {b : Buffer}
    (hb : b ∈ inputs) : b.dtype = t ∧ b.device = ownDevice e ∧
      ∃ c, e.1.heap.Holds b c ∧ c.length = W * m * size := by
  obtain ⟨s, hs, rfl⟩ := List.mem_iff_getElem.1 hb
  obtain ⟨b, hb, htype, hdevice, hheld⟩ := h.input s (h.count ▸ hs)
  rw [List.getElem?_eq_getElem hs, Option.some.injEq] at hb
  subst hb
  exact ⟨htype, hdevice, _, hheld, h.length s (h.count ▸ hs)⟩

lemma checkStageBuffers_eq {op : String}
    (h : ∀ b ∈ inputs, ∃ c, e.1.heap.Holds b c ∧ c.length = W * m * size) :
    checkStageBuffers op (.even W stages m size direction) t inputs e = .done (.ok (), e) := by
  refine Act.forEach_done fun b hb => ?_
  obtain ⟨c, hc, hlength⟩ := h b hb
  refine (Act.bind_done (Act.outcome_done hc.byteCount e)).trans ?_
  have hstage : c.length = (Split.even W stages m size direction).stageBytes := hlength
  exact congrFun (if_pos hstage) e

def fusedBuffer (e : HostEngine) (t : Dtype) (shape : List Nat) : Buffer :=
  ⟨t, shape, ownDevice e, e.1.heap.length⟩

/-- The exchange of a gather: all stages, then the slot of the first one. -/
lemma runs_gatherExchange [TensorLibrary] {stream user : Stream}
    (hp : Participant devices g W L r e) (hr : r < W) (hf : Split.Feasible W stages m)
    (hcapacity : stages ≤ e.2.2.slots.capacity) (hinputs : ∀ s < stages, inputs[s]? = some (inp s))
    (hheld : ∀ s < stages, e.1.heap.Holds (inp s) (stage r s))
    (hlength : ∀ p < W, ∀ s < stages, (stage p s).length = W * m * size)
    (hzeros : e.1.heap.Holds output (List.replicate (Split.fusedLength W stages m size) 0))
    (hfresh : ∀ s < stages, (inp s).cell ≠ output.cell) :
    (Act.bind (onPlatform ((Host.platform devices).recordStream output user)) fun _ =>
      Act.bind (Act.forEach (direction.stageOrder stages) (gatherStage (Host.platform devices)
        transport (.even W stages m size direction) inputs output stream)) fun _ =>
      onSlots (Slots.release (Host.platform devices) 0 stream)).Runs g r e
      (((direction.stageOrder stages).map (gatherTable m size stage)).map
        fun out => Round.among W out r)
      fun _ e' => Leaves (· = output.cell) e e' ∧
        e'.1.heap.Holds output (Split.gathered W stages m size stage r) := by
  refine .after (runs_recordStream _ _) ?_
  rintro _ e₁ ⟨h₁, -⟩
  have hp₁ := hp.of_leaves h₁
  have hheld₁ : ∀ s < stages, e₁.1.heap.Holds (inp s) (stage r s) := fun s hs =>
    h₁.heap.holds _ _ id (hheld s hs)
  refine .before (runs_gatherStages hp₁ hr hf (h₁.capacity_eq ▸ hcapacity) hinputs hheld₁ hlength
    (h₁.heap.holds _ _ id hzeros) List.length_replicate hfresh) ?_
  rintro _ e₂ ⟨h₂, hfilled⟩
  have hslots : 0 < e₂.2.2.slots.capacity := by
    rw [h₂.capacity_eq, h₁.capacity_eq]
    exact Nat.lt_of_lt_of_le hf.stages_pos hcapacity
  refine (runs_release (hp₁.of_leaves h₂) hslots stream).mono ?_
  rintro _ e₃ ⟨h₃, hheap⟩
  refine ⟨h₁.leaves.trans (h₂.trans h₃.leaves), ?_⟩
  rw [hheap]
  exact hfilled

theorem runs_gather [TensorLibrary] (direction : Direction) (hp : Participant devices g W L r e)
    (h : Joinable W stages m size e t inputs shape (stage r)) (hr : r < W)
    (hf : Split.Feasible W stages m)
    (hlength : ∀ p < W, ∀ s < stages, (stage p s).length = W * m * size) :
    (gather (Host.platform devices) transport inputs shape stages (W * m) direction).Runs g r e
      (((direction.stageOrder stages).map (gatherTable m size stage)).map
        fun out => Round.among W out r)
      fun out e' => Leaves (e.1.heap.length ≤ ·) e e' ∧ out = fusedBuffer e t shape ∧
        e'.1.heap.Holds out (Split.gathered W stages m size stage r) := by
  obtain ⟨first, rest, rfl⟩ : ∃ first rest, inputs = first :: rest :=
    List.exists_cons_of_length_pos (h.count ▸ hf.stages_pos)
  have htype : first.dtype = t := (h.of_mem List.mem_cons_self).1
  have hfound : ∀ s < stages, (first :: rest)[s]? = some ((first :: rest)[s]?.getD first) := by
    intro s hs
    rw [List.getElem?_eq_getElem (h.count ▸ hs), Option.getD_some]
  have hheld : ∀ s < stages, e.1.heap.Holds ((first :: rest)[s]?.getD first) (stage r s) := by
    intro s hs
    obtain ⟨b, hb, -, -, hheld⟩ := h.input s hs
    rwa [hb, Option.getD_some]
  refine .step (Act.ensure_done h.count _ e) ?_
  refine .step (checkAlike_eq fun b hb => ⟨(h.of_mem hb).1.trans htype.symm, (h.of_mem hb).2.1⟩) ?_
  subst htype
  refine .step (Act.outcome_done (Buffer.sizeOf_eq h.shape) e) ?_
  refine .step (plan_eq hp hf h.capacity) ?_
  refine .step (checkStageBuffers_eq fun b hb => (h.of_mem hb).2.2) ?_
  refine .step (stream_eq hp) (.step (stream_eq hp) ?_)
  refine .after (runs_recordStreams _ _) ?_
  rintro _ e₁ ⟨h₁, hbase⟩
  refine .after (runs_alloc hp.device_lt h.shape h.small) ?_
  rintro out e₂ ⟨h₂, hout, hzeros⟩
  rw [hbase] at hout
  have hp₂ := (hp.of_leaves h₁).of_leaves h₂
  have hcapacity₂ : stages ≤ e₂.2.2.slots.capacity := by
    rw [h₂.capacity_eq, h₁.capacity_eq]
    exact h.capacity
  have hheld₂ : ∀ s < stages, e₂.1.heap.Holds ((first :: rest)[s]?.getD first) (stage r s) :=
    fun s hs => h₂.heap.holds _ _ id (h₁.heap.holds _ _ id (hheld s hs))
  have hfresh : ∀ s < stages, ((first :: rest)[s]?.getD first).cell ≠ out.cell := by
    intro s hs
    have := (hheld s hs).cell_lt
    rw [hout]
    exact Nat.ne_of_lt this
  refine .before (Act.Runs.orElseClean (runs_gatherExchange hp₂ hr hf hcapacity₂ hfound hheld₂
    hlength hzeros hfresh)) ?_
  rintro _ e₃ ⟨h₃, hfilled⟩
  refine .pure ⟨h₁.leaves.trans (h₂.leaves.trans (h₃.mono ?_)), hout, hfilled⟩
  rintro i - rfl
  rw [hout]

variable {fused : Nat → Bytes} {inputBuffers : Nat → Buffer} {shapes : Nat → List Nat}
  {es : Nat → HostEngine} {types : Nat → Dtype} {parts : Nat → List Buffer}

lemma lockstep_gather [TensorLibrary] (direction : Direction)
    (hp : ∀ r < W, Participant devices g W L r (es r)) (hf : Split.Feasible W stages m)
    (h : ∀ r < W, Joinable W stages m size (es r) (types r) (parts r) (shapes r) (stage r)) :
    Lockstep g W (fun r => gather (Host.platform devices) transport (parts r) (shapes r) stages
      (W * m) direction) es fun outs es' => ∀ r < W,
        Leaves ((es r).1.heap.length ≤ ·) (es r) (es' r) ∧
          outs r = fusedBuffer (es r) (types r) (shapes r) ∧
          (es' r).1.heap.Holds (outs r) (Split.gathered W stages m size stage r) := by
  have hruns := fun r hr => runs_gather direction (hp r hr) (h r hr) hr hf fun p hp =>
    (h p hp).length
  exact Lockstep.of_tables hf.world_pos _ hruns

/-- The stage buffers of a scatter can be joined again. -/
lemma joinable_of_scatter {outs : List Buffer} {e' : HostEngine} (hr : r < W)
    (h : Splittable W stages m size e input shape (fused r))
    (hlength : ∀ p < W, (fused p).length = Split.fusedLength W stages m size)
    (hleaves : Leaves (e.1.heap.length ≤ ·) e e')
    (houts : outs = (List.range stages).map (stageBuffer e input shape))
    (hheld : ∀ s < stages, e'.1.heap.Holds (stageBuffer e input shape s)
      (Split.scattered W stages m size fused r s)) :
    Joinable W stages m size e' input.dtype outs input.shape
      (Split.scattered W stages m size fused r) where
  capacity := hleaves.capacity_eq ▸ h.capacity
  count := by rw [houts, List.length_map, List.length_range]
  input s hs := by
    refine ⟨stageBuffer e input shape s, ?_, rfl, hleaves.ownDevice_eq.symm, hheld s hs⟩
    rw [houts, List.getElem?_map, List.getElem?_range hs, Option.map_some]
  length s hs := Split.length_scattered hr hs hlength
  shape := h.length ▸ h.holds.size
  small := h.length ▸ h.holds.small

lemma lockstep_scatter_gather [TensorLibrary] (hp : ∀ r < W, Participant devices g W L r (es r))
    (hf : Split.Feasible W stages m)
    (h : ∀ r < W, Splittable W stages m size (es r) (inputBuffers r) (shapes r)
      (fused r)) (d₁ d₂ : Direction) :
    Lockstep g W (fun r => Act.bind (scatter (Host.platform devices) transport (inputBuffers r)
        (shapes r) stages (W * m) d₁) fun split =>
      gather (Host.platform devices) transport split (inputBuffers r).shape stages (W * m) d₂) es
      fun outs es' => ∀ r < W, (es' r).1.heap.Holds (outs r) (fused r) := by
  have hlength : ∀ p < W, (fused p).length = Split.fusedLength W stages m size := fun p hp =>
    (h p hp).length
  refine (lockstep_scatter d₁ hp hf h).bind fun outs es₁ hscattered => ?_
  have hjoinable : ∀ r < W, Joinable W stages m size (es₁ r) (inputBuffers r).dtype
      (outs r) (inputBuffers r).shape (Split.scattered W stages m size fused r) := by
    intro r hr
    obtain ⟨hleaves, houts, hheld⟩ := hscattered r hr
    exact joinable_of_scatter hr (h r hr) hlength hleaves houts hheld
  have hp₁ : ∀ r < W, Participant devices g W L r (es₁ r) := fun r hr =>
    (hp r hr).of_leaves (hscattered r hr).1
  refine (lockstep_gather d₂ hp₁ hf hjoinable).mono fun _ es₂ hgathered r hr => ?_
  obtain ⟨-, -, hheld⟩ := hgathered r hr
  rwa [Split.gathered_scattered hr hf.stages_pos hlength] at hheld

/-- A scatter followed by a gather, by all ranks, in any two directions. In every interleaving of
the ranks, which need not be in the same call, both calls succeed on every rank, and the gathered
buffer holds what the rank has put in. -/
theorem scatter_gather_settles [TensorLibrary] (hp : ∀ r < W, Participant devices g W L r (es r))
    (hf : Split.Feasible W stages m)
    (h : ∀ r < W, Splittable W stages m size (es r) (inputBuffers r) (shapes r)
      (fused r)) {n : Network} (hn : n.Formed g) (hq : n.Quiet g) (d₁ d₂ : Direction) :
    (Crowd.starting W (fun r => do
      let split ← scatter (Host.platform devices) transport (inputBuffers r) (shapes r) stages
        (W * m) d₁
      gather (Host.platform devices) transport split (inputBuffers r).shape stages (W * m) d₂)
      es n).Settles fun vs n' => n'.Quiet g ∧ ∃ (outs : Nat → Buffer) (es' : Nat → HostEngine),
        vs = (List.range W).map (fun r => (.ok (outs r), es' r)) ∧
          ∀ r < W, (es' r).1.heap.Holds (outs r) (fused r) := by
  obtain ⟨outs, es', hends, hsettles⟩ := (lockstep_scatter_gather hp hf h d₁ d₂).settles hn hq
  refine hsettles.mono ?_
  rintro vs n' ⟨hvs, -, hquiet⟩
  exact ⟨hquiet, outs, es', hvs, hends⟩

open StandIn in
theorem scatter_gather_settles_two_ranks :
    ∃ es : Nat → HostEngine,
      (∀ r < 2, joined 2 .none [] 2 1 r r 0 [⟨.host (fourSlices r), [], 1⟩] = some (es r)) ∧
      (Crowd.starting 2 (fun r => do
        let split ← scatter (Host.platform 2) transport ⟨.u8, [4], r, 0⟩ [2] 2 2 .forward
        gather (Host.platform 2) transport split [4] 2 2 .backward) es
        (.assembled [] 2)).Settles fun vs n' =>
          n'.Quiet [] ∧ ∃ (outs : Nat → Buffer) (es' : Nat → HostEngine),
            vs = (List.range 2).map (fun r => (.ok (outs r), es' r)) ∧
              ∀ r < 2, (es' r).1.heap.Holds (outs r) (fourSlices r) := by
  obtain ⟨es, hes⟩ := exists_splittable
  refine ⟨es, fun r hr => (hes r hr).1, ?_⟩
  exact scatter_gather_settles (fun r hr => (hes r hr).2.1) feasible_two
    (fun r hr => (hes r hr).2.2) (Network.formed_assembled [] 2) (Network.quiet_assembled [] 2)
    .forward .backward

end Scheduler

end ExpertExchange
