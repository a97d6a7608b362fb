import ExpertExchange.Proofs.Device.Elements
import ExpertExchange.Proofs.Operator.Added
import ExpertExchange.Proofs.Operator.Columns
import ExpertExchange.StandIn.Tensors

/-!
# Running locations on the host platform

On a host platform with the kernel of the running locations, its registration succeeds, and so does
every call for a mask of a size that the kernel takes. The result is a fresh buffer, and no other
buffer is changed.
-/

namespace ExpertExchange

namespace Word

lemma ofInt_lt (x : Int) : ofInt x < bound :=
  (Int.toNat_lt (Int.emod_nonneg x (by decide))).2 (Int.emod_lt_of_pos x (by decide))

/-- An integer that is kept in a word is read back wrapped around. -/
lemma toSigned64_ofInt (x : Int) : toSigned64 (ofInt x) = x.bmod bound := by
  have hword : (ofInt x : Int) = x % (bound : Int) :=
    Int.toNat_of_nonneg (Int.emod_nonneg x (by decide))
  rw [toSigned64, hword, Int.emod_bmod]

end Word

namespace Bytes

/-- The numbers of 64 bits that some bytes hold, read as signed words. -/
def signedWords (c : Bytes) : List Int := (decodeWords 8 c).map Word.toSigned64

lemma signedWords_encodeWords (xs : List Int) :
    signedWords (encodeWords 8 (xs.map Word.ofInt)) = xs.map (Int.bmod · Word.bound) := by
  rw [signedWords, decodeWords_encodeWords (by decide), List.map_map, List.map_map]
  refine List.map_congr_left ?_
  intro x _
  have hkept : Word.ofInt x % wordBound 8 = Word.ofInt x := Nat.mod_eq_of_lt (Word.ofInt_lt x)
  rw [Function.comp_apply, Function.comp_apply, hkept, Word.toSigned64_ofInt]

end Bytes

/-- The buffer is a matrix of signed words of 64 bits, with this content. -/
structure Heap.HoldsMatrix (heap : Heap) (b : Buffer) (samples batch : Nat) (c : Bytes) : Prop where
  holds : heap.Holds b c
  dtype : b.dtype = .i64
  shape : b.shape = [samples, batch]

namespace Heap.HoldsMatrix

variable {heap : Heap} {b : Buffer} {samples batch : Nat} {c : Bytes}

lemma prod_shape (h : heap.HoldsMatrix b samples batch c) : b.shape.prod = samples * batch := by
  rw [h.shape, List.prod_cons, List.prod_singleton]

lemma size_dtype (h : heap.HoldsMatrix b samples batch c) : b.dtype.size = 8 := by
  rw [h.dtype]
  rfl

lemma length_eq (h : heap.HoldsMatrix b samples batch c) : c.length = samples * batch * 8 := by
  rw [h.holds.length_eq, h.prod_shape, h.size_dtype]

lemma count_eq {ε : Type} (h : heap.HoldsMatrix b samples batch c) :
    (b.count : Outcome ε Nat) = .ok (samples * batch) := by
  rw [h.holds.count_eq, h.prod_shape]

lemma cells_lt (h : heap.HoldsMatrix b samples batch c) : samples * batch < Word.bound := by
  have hbytes := h.holds.length_lt
  have hlength := h.length_eq
  omega

lemma signed_elements (h : heap.HoldsMatrix b samples batch c) :
    (heap.elements b).map Word.toSigned64 = c.signedWords := by
  rw [Heap.elements, h.holds.content_eq, h.size_dtype, Bytes.signedWords]

lemma length_signedWords (h : heap.HoldsMatrix b samples batch c) :
    c.signedWords.length = samples * batch := by
  rw [Bytes.signedWords, List.length_map, Bytes.length_decodeWords, h.length_eq,
    Nat.mul_div_cancel _ (by decide)]

end Heap.HoldsMatrix

namespace RunningLocation

variable {heap : Heap} {input output : Buffer} {c d : Bytes} {samples batch : Nat}

def written (samples batch : Nat) (c : Bytes) : Bytes :=
  Bytes.encodeWords 8
    ((rowsFrom batch samples (List.replicate batch (-1)) c.signedWords).map Word.ofInt)

lemma length_written (hinput : heap.HoldsMatrix input samples batch c) :
    (written samples batch c).length = samples * batch * 8 := by
  have hentries := Nat.le_of_eq hinput.length_signedWords.symm
  rw [written, Bytes.length_encodeWords, List.length_map,
    length_rowsFrom List.length_replicate hentries]

/-- A column of what is written is made from the same column of the mask. -/
lemma column_written {col : Nat} (hinput : heap.HoldsMatrix input samples batch c)
    (hcol : col < batch) :
    column samples batch col (written samples batch c).signedWords =
      locationsFrom (-1) (column samples batch col c.signedWords) := by
  have hentries := Nat.le_of_eq hinput.length_signedWords.symm
  have hfirst : (List.replicate batch (-1 : Int)).getD col 0 = -1 := List.getD_replicate _ hcol
  rw [written, Bytes.signedWords_encodeWords, column_map (by decide),
    column_rowsFrom hcol List.length_replicate hentries, hfirst, map_bmod_locationsFrom]

/-- Writing the locations into the output. -/
lemma setWords_eq (hinput : heap.HoldsMatrix input samples batch c)
    (houtput : heap.HoldsMatrix output samples batch d) :
    (Heap.setWords output .i64
      ((rowsFrom batch samples (List.replicate batch (-1)) c.signedWords).map Word.ofInt) :
        Act Silence Heap DeviceError Unit) heap =
          .done (.ok (), heap.write output (written samples batch c)) := by
  have hentries := Nat.le_of_eq hinput.length_signedWords.symm
  have hfill : ((rowsFrom batch samples (List.replicate batch (-1)) c.signedWords).map
      Word.ofInt).length * output.dtype.size = d.length := by
    rw [List.length_map, length_rowsFrom List.length_replicate hentries, houtput.size_dtype,
      houtput.length_eq]
  rw [houtput.holds.setWords_eq houtput.dtype.symm hfill, houtput.size_dtype, written]

/-- Launched with a block for each column, the kernel fills the output. -/
lemma hostKernel_eq {geometry : Geometry} (hinput : heap.HoldsMatrix input samples batch c)
    (houtput : heap.HoldsMatrix output samples batch d) (hblocks : geometry.blocks.x = batch) :
    hostKernel geometry (Argument.list [input, output] [.i32 samples]) heap =
      .done (.ok (), heap.write output (written samples batch c)) := by
  have hsamples : Argument.countAt entry [.i32 samples] 0 = .ok samples := by
    simp [Argument.countAt, Scalar.toNat?, Outcome.orError]
  have hcells : (Word.mul samples geometry.blocks.x : Outcome DeviceError Nat) =
      .ok (samples * batch) := by
    rw [hblocks, Word.mul_eq hinput.cells_lt]
  have hcheck : ∀ b ∈ [input, output], (Act.bind (Act.ofOutcome b.count) fun held =>
      Act.bind (Act.ofOutcome (Word.mul samples geometry.blocks.x)) fun cells =>
        Act.ensure (held = cells)
          (.invalidArguments entry (.scanSize held samples geometry.blocks.x)) :
        Act Silence Heap DeviceError Unit) heap = .done (.ok (), heap) := by
    intro b hb
    have hcount : (b.count : Outcome DeviceError Nat) = .ok (samples * batch) := by
      simp only [List.mem_cons, List.not_mem_nil, or_false] at hb
      rcases hb with rfl | rfl
      · exact hinput.count_eq
      · exact houtput.count_eq
    refine (Act.bind_done (Act.outcome_done hcount heap)).trans ?_
    exact (Act.bind_done (Act.outcome_done hcells heap)).trans (Act.ensure_done rfl _ heap)
  have hrun : (run ((heap.elements input).map Word.toSigned64) samples geometry.blocks.x :
      Outcome DeviceError (List Int)) =
        .ok (rowsFrom batch samples (List.replicate batch (-1)) c.signedWords) := by
    have hsmall := hinput.holds.small
    have hlength := hinput.length_eq
    rw [hinput.signed_elements, hblocks]
    exact run_eq hinput.length_signedWords hinput.cells_lt (by omega)
  refine (Act.bind_done rfl).trans ?_
  refine (Act.bind_done (Act.outcome_done hsamples heap)).trans ?_
  refine (Act.bind_done (Act.forEach_done hcheck)).trans ?_
  refine (Act.bind_done (hinput.holds.words_eq hinput.dtype.symm)).trans ?_
  exact (Act.bind_done (Act.outcome_done hrun heap)).trans (setWords_eq hinput houtput)

/-- The locations of a mask: each one is the sum of the entries so far, less one and wrapped around.
A column of them comes from the same column of the mask, and where that has only zeros and ones, its
ones are numbered from zero on. -/
structure Scanned (samples batch : Nat) (mask locations : List Int) : Prop where
  entry : ∀ sample < samples, ∀ col < batch, locations.getD (sample * batch + col) 0 =
    Int.bmod (-1 + ∑ j ∈ Finset.range (sample + 1), mask.getD (j * batch + col) 0) Word.bound
  own : ∀ col < batch, column samples batch col locations =
    locationsFrom (-1) (column samples batch col mask)
  ones : ∀ col < batch, (∀ x ∈ column samples batch col mask, x = 0 ∨ x = 1) →
    selected (column samples batch col mask) (column samples batch col locations) =
      (List.range ((column samples batch col mask).count 1)).map fun slot : Nat => (slot : Int)

/-- Columns that are made from those of the mask are its locations. -/
lemma scanned_of_columns {mask locations : List Int} (hsamples : samples ≤ Word.signedBound)
    (hown : ∀ col < batch, column samples batch col locations =
      locationsFrom (-1) (column samples batch col mask)) :
    Scanned samples batch mask locations where
  entry := by
    intro sample hsample col hcol
    have hlength : sample < (column samples batch col mask).length := by
      rw [length_column]
      exact hsample
    have hlocation := getElem?_column hsample batch col locations
    rw [hown col hcol, getElem?_locationsFrom _ _ hlength, sum_column hsample] at hlocation
    exact (Option.some.inj hlocation).symm
  own := hown
  ones := by
    intro col hcol hbits
    have hfits : 0 + (column samples batch col mask).length ≤ Word.signedBound := by
      rw [length_column]
      omega
    have hselected := selected_locationsFrom 0 hbits hfits
    rw [hown col hcol, List.range_eq_range', ← hselected]
    rfl

end RunningLocation

namespace RunningLocationKernel

variable {devices : Nat} {p : HostKernels} {k : RunningLocationKernel} {input : Buffer}
  {samples batch : Nat} {c : Bytes}

/-- On a host platform with the kernel, its registration succeeds for every device. -/
lemma install_done (hp : Invoker.OnHost devices p)
    (hkernel : p.1.kernel? RunningLocation.entry = some RunningLocation.hostKernel) :
    ∃ k p', install (Host.platform devices) p = .done (.ok k, p') ∧ Invoker.Grown devices p p' ∧
      ∀ device < devices, Invoker.Provides p' k.handle device RunningLocation.entry
        RunningLocation.hostKernel := by
  obtain ⟨parsed, hparse, hentry⟩ := RunningLocation.parse_source
  obtain ⟨handle, p', hdone, hgrown, hprovides⟩ :=
    Invoker.inject_done hp hparse (hentry.symm ▸ hkernel)
  exact ⟨⟨handle⟩, p', Act.bind_done hdone, hgrown, hentry ▸ hprovides⟩

/-- The launch of the kernel fills the output, and changes nothing else in memory. -/
lemma launch_done {output : Buffer} {d : Bytes} {stream : Stream} {handle : KernelHandle}
    (hprovides : Invoker.Provides p handle stream.device RunningLocation.entry
      RunningLocation.hostKernel)
    (hd : stream.device < devices) (hinput : p.1.heap.HoldsMatrix input samples batch c)
    (houtput : p.1.heap.HoldsMatrix output samples batch d)
    (hinputDevice : input.device = stream.device) (houtputDevice : output.device = stream.device) :
    ∃ p', Invoker.invokeOn (Host.platform devices) stream handle [input, output] [.i32 samples]
        (.ofBlocks [batch]) p = .done (.ok (), p') ∧
      p'.1.heap = p.1.heap.write output (RunningLocation.written samples batch c) ∧
      Invoker.StillProvides p p' := by
  have hbuffers : ∀ b ∈ [input, output], b.device = stream.device ∧ p.1.heap.isHost b = true := by
    intro b hb
    simp only [List.mem_cons, List.not_mem_nil, or_false] at hb
    rcases hb with rfl | rfl
    · exact ⟨hinputDevice, hinput.holds.isHost⟩
    · exact ⟨houtputDevice, houtput.holds.isHost⟩
  exact Invoker.invokeOn_resolved_done (o := .ok ()) _ hprovides hd hbuffers fun _ =>
    RunningLocation.hostKernel_eq hinput houtput rfl

/-- The locations of a mask are in a fresh buffer, and no other buffer is changed. -/
lemma run_done (hd : input.device < devices)
    (hprovides : Invoker.Provides p k.handle input.device RunningLocation.entry
      RunningLocation.hostKernel)
    (hinput : p.1.heap.HoldsMatrix input samples batch c) (hsamples : samples ≤ maxSamples)
    (hbatch : batch < Word.bound32) :
    ∃ p', k.run (Host.platform devices) input p =
        .done (.ok ⟨.i64, [samples, batch], input.device, p.1.heap.length⟩, p') ∧
      p'.1.heap.HoldsMatrix ⟨.i64, [samples, batch], input.device, p.1.heap.length⟩ samples batch
        (RunningLocation.written samples batch c) ∧
      Heap.Keeps (fun _ => False) p.1.heap p'.1.heap ∧ Invoker.StillProvides p p' := by
  let stream : Stream := ⟨input.device, .compute, 0⟩
  let out : Buffer := ⟨.i64, [samples, batch], input.device, p.1.heap.length⟩
  let p₁ : HostKernels := ({ p.1 with heap := p.1.heap.allocated c.length stream }, p.2)
  have hsize : Buffer.sizeOf? .i64 [samples, batch] = some c.length :=
    hinput.dtype ▸ hinput.shape ▸ hinput.holds.size
  have hkeeps : Heap.Keeps (fun _ => False) p.1.heap p₁.1.heap := Heap.keeps_append _ _
  have hfresh : p₁.1.heap.HoldsMatrix out samples batch (List.replicate c.length 0) :=
    ⟨Heap.holds_allocated stream rfl hsize hinput.holds.small, rfl, rfl⟩
  have hstream : (Operator.onPlatform ((Host.platform devices).stream input.device .compute) :
      Act Net HostKernels OperatorError Stream) p = .done (.ok stream, p) :=
    Operator.onPlatform_eq (Act.bind_done (Invoker.hostCheckDevice_eq hd))
  have halloc : (Operator.onPlatform ((Host.platform devices).alloc .i64 [samples, batch] stream) :
      Act Net HostKernels OperatorError Buffer) p = .done (.ok out, p₁) :=
    Operator.onPlatform_eq (Scheduler.alloc_eq hd hsize hinput.holds.small)
  have hstill : Invoker.StillProvides p p₁ := fun _ _ _ _ h =>
    ⟨h.compiler, h.device_lt, h.registered, h.slot⟩
  have hrun : k.run (Host.platform devices) input p =
      (if samples = 0 ∨ batch = 0 then pure out
        else Act.bind (((Invoker.invokeOn (Host.platform devices) stream k.handle [input, out]
          [.i32 samples] (.ofBlocks [batch])).mapError .kernel).orElseClean
            (Operator.onPlatform ((Host.platform devices : Platform Net _ _ HostEvent).release out)))
          fun _ => pure out : Act Net HostKernels OperatorError Buffer) p₁ := by
    refine (Act.bind_done (Act.ensure_done hinput.dtype _ p)).trans ?_
    rw [hinput.shape]
    refine (Act.bind_done (Act.ensure_done ⟨hsamples, hbatch⟩ _ p)).trans ?_
    exact (Act.bind_done hstream).trans (Act.bind_done halloc)
  rw [hrun]
  by_cases hzero : samples = 0 ∨ batch = 0
  · rw [if_pos hzero]
    have hempty : samples * batch = 0 := Nat.mul_eq_zero.2 hzero
    have hlength : c.length = 0 := by rw [hinput.length_eq, hempty]
    have hwritten : RunningLocation.written samples batch c = [] :=
      List.eq_nil_of_length_eq_zero (by rw [RunningLocation.length_written hinput, hempty])
    rw [hlength] at hfresh
    exact ⟨p₁, rfl, hwritten ▸ hfresh, hkeeps, hstill⟩
  · rw [if_neg hzero]
    have hinput₁ : p₁.1.heap.HoldsMatrix input samples batch c :=
      ⟨hkeeps.holds _ _ id hinput.holds, hinput.dtype, hinput.shape⟩
    have hprovides₁ : Invoker.Provides p₁ k.handle stream.device RunningLocation.entry
        RunningLocation.hostKernel := hstill _ _ _ _ hprovides
    obtain ⟨p₂, hlaunch, hheap, hstill₂⟩ := launch_done hprovides₁ hd hinput₁ hfresh rfl rfl
    have hserved : (((Invoker.invokeOn (Host.platform devices) stream k.handle [input, out]
        [.i32 samples] (.ofBlocks [batch])).mapError .kernel).orElseClean
          (Operator.onPlatform ((Host.platform devices : Platform Net _ _ HostEvent).release out)) :
            Act Net HostKernels OperatorError Unit) p₁ = .done (.ok (), p₂) :=
      Act.orElseClean_done (Act.mapError_done hlaunch) _
    have hfill : (RunningLocation.written samples batch c).length =
        (List.replicate c.length (0 : UInt8)).length := by
      rw [RunningLocation.length_written hinput, List.length_replicate, hinput.length_eq]
    have hwrite := Heap.keeps_write p₁.1.heap out (RunningLocation.written samples batch c)
    refine ⟨p₂, Act.bind_done hserved, ?_, ?_, hstill.trans hstill₂⟩
    · rw [hheap]
      exact ⟨hfresh.holds.written hfill, rfl, rfl⟩
    · rw [hheap]
      refine ((hkeeps.mono fun _ _ => False.elim).trans hwrite).mono ?_
      exact fun i hi hcell => absurd hcell (Nat.ne_of_lt hi)

/-- On a host platform with the kernel, the registration of the running locations succeeds, and
afterwards every call for a mask of a size that the kernel takes, on any device of the platform,
returns the locations of the mask in a fresh buffer and leaves every other buffer, the mask among
them, as it was. -/
theorem run_scans (hp : Invoker.OnHost devices p)
    (hkernel : p.1.kernel? RunningLocation.entry = some RunningLocation.hostKernel) :
    ∃ k p₁, install (Host.platform devices) p = .done (.ok k, p₁) ∧ Invoker.Grown devices p p₁ ∧
      ∀ p₂, Invoker.StillProvides p₁ p₂ → ∀ input samples batch c,
        p₂.1.heap.HoldsMatrix input samples batch c → samples ≤ maxSamples →
        batch < Word.bound32 → input.device < devices →
        ∃ out p₃ d, k.run (Host.platform devices) input p₂ = .done (.ok out, p₃) ∧
          out = ⟨.i64, [samples, batch], input.device, p₂.1.heap.length⟩ ∧
          p₃.1.heap.HoldsMatrix out samples batch d ∧
          RunningLocation.Scanned samples batch c.signedWords d.signedWords ∧
          p₃.1.heap.Holds input c ∧ Heap.Keeps (fun _ => False) p₂.1.heap p₃.1.heap ∧
          Invoker.StillProvides p₂ p₃ := by
  obtain ⟨k, p₁, hinstall, hgrown, hprovides⟩ := install_done hp hkernel
  refine ⟨k, p₁, hinstall, hgrown, ?_⟩
  intro p₂ hstill input samples batch c hinput hsamples hbatch hd
  obtain ⟨p₃, hrun, hout, hkeeps, hstill₃⟩ :=
    run_done hd (hstill _ _ _ _ (hprovides _ hd)) hinput hsamples hbatch
  have hwords : samples ≤ Word.signedBound := Nat.le_trans hsamples (by decide)
  have hscanned := RunningLocation.scanned_of_columns hwords fun _ hcol =>
    RunningLocation.column_written hinput hcol
  exact ⟨_, p₃, _, hrun, rfl, hout, hscanned, hkeeps.holds _ _ id hinput.holds, hkeeps, hstill₃⟩

open StandIn in
/-- Three samples and two experts, on the second device of a platform: the samples of the first
expert are numbered. -/
theorem run_scans_three_samples :
    ∃ k p₁ p₂ out d,
      install (Host.platform 2) ((⟨[⟨.host (Bytes.encodeWords 8 [1, 0, 0, 1, 1, 0]), [], 1⟩],
        Host.ownKernels, [], []⟩, Invoker.create 2 [.host] .none) : HostKernels) =
          .done (.ok k, p₁) ∧
      k.run (Host.platform 2) ⟨.i64, [3, 2], 1, 0⟩ p₁ = .done (.ok out, p₂) ∧
      p₂.1.heap.HoldsMatrix out 3 2 d ∧
      RunningLocation.selected [1, 0, 1] (RunningLocation.column 3 2 0 d.signedWords) = [0, 1] := by
  have hp : Invoker.OnHost 2 ((⟨[⟨.host (Bytes.encodeWords 8 [1, 0, 0, 1, 1, 0]), [], 1⟩],
      Host.ownKernels, [], []⟩, Invoker.create 2 [.host] .none) : HostKernels) := ⟨rfl, rfl, rfl⟩
  obtain ⟨k, p₁, hinstall, hgrown, hcalls⟩ := run_scans hp rfl
  have hmask : p₁.1.heap.HoldsMatrix ⟨.i64, [3, 2], 1, 0⟩ 3 2
      (Bytes.encodeWords 8 [1, 0, 0, 1, 1, 0]) := by
    rw [hgrown.heap]
    exact ⟨⟨⟨[], 1, rfl⟩, rfl, by decide⟩, rfl, rfl⟩
  obtain ⟨out, p₂, d, hrun, -, hout, hscanned, -⟩ := hcalls p₁ (Invoker.StillProvides.refl p₁) _ 3 2
    _ hmask (by decide) (by decide) (by decide)
  have hcolumn : RunningLocation.column 3 2 0
      (Bytes.encodeWords 8 [1, 0, 0, 1, 1, 0]).signedWords = [1, 0, 1] := by decide +kernel
  have hones := hscanned.ones 0 (by decide)
  rw [hcolumn] at hones
  exact ⟨k, p₁, p₂, out, d, hinstall, hrun, hout, hones (by decide)⟩

end RunningLocationKernel

end ExpertExchange
