import ExpertExchange.Exchange.Regroup
import ExpertExchange.Proofs.Bytes.Chunk
import ExpertExchange.Proofs.Device.Held
import ExpertExchange.Proofs.Kernel.Provided

/-!
# What regrouping does

The regrouping kernel transposes a grid of chunks: chunk `k` of column `j` comes to be chunk `j` of
column `k`. With both kernels provided, launching either of them does so.
-/

namespace ExpertExchange

namespace Regroup

variable {size height width i j k n : Nat} {input out : Bytes}

lemma target_grid (hj : j < height) :
    target height width (height * k + j) = width * j + k := by
  rw [target, Nat.mul_add_mod, Nat.mod_eq_of_lt hj, Nat.mul_add_div (by omega),
    Nat.div_eq_of_lt hj, Nat.add_zero]

lemma grid_lt (hj : j < height) (hk : k < width) : width * j + k < height * width := by
  have := Nat.mul_le_mul_left width hj
  rw [Nat.mul_comm height]
  rw [Nat.mul_succ] at this
  omega

/-- Every index is a place in the grid. -/
lemma exists_grid (hi : i < height * width) :
    ∃ j k, j < height ∧ k < width ∧ i = height * k + j := by
  have hheight : 0 < height := Nat.pos_of_mul_pos_right (Nat.lt_of_le_of_lt (Nat.zero_le i) hi)
  refine ⟨i % height, i / height, Nat.mod_lt i hheight, ?_, ?_⟩
  · exact Nat.div_lt_of_lt_mul hi
  · rw [Nat.div_add_mod]

lemma target_lt (hi : i < height * width) : target height width i < height * width := by
  obtain ⟨j, k, hj, hk, rfl⟩ := exists_grid hi
  rw [target_grid hj]
  exact grid_lt hj hk

lemma target_inj (hi : i < height * width) (hn : n < height * width)
    (h : target height width i = target height width n) : i = n := by
  obtain ⟨j, k, hj, hk, rfl⟩ := exists_grid hi
  obtain ⟨j', k', hj', hk', rfl⟩ := exists_grid hn
  rw [target_grid hj, target_grid hj'] at h
  have hkk : k = k' := by
    have := congrArg (· % width) h
    simpa [Nat.mul_add_mod, Nat.mod_eq_of_lt hk, Nat.mod_eq_of_lt hk'] using this
  have hjj : j = j' := by
    have := congrArg (· / width) h
    simpa [Nat.mul_add_div (Nat.lt_of_le_of_lt (Nat.zero_le k) hk), Nat.div_eq_of_lt hk,
      Nat.div_eq_of_lt hk'] using this
  rw [hkk, hjj]

/-- The output after regrouping the chunks of the input into it. -/
def regrouped (size height width : Nat) (input out : Bytes) : Bytes :=
  Bytes.withBlocks size (height * width) (target height width) (input.chunk size) out

lemma chunk_end_le {b : Bytes} (hb : height * width * size ≤ b.length) (hi : i < height * width) :
    (i + 1) * size ≤ b.length :=
  Nat.le_trans (Nat.mul_le_mul_right size hi) hb

lemma blocks_target (hin : height * width * size ≤ input.length)
    (hout : height * width * size ≤ out.length) :
    Bytes.Blocks size 1 (height * width) (target height width) (input.chunk size) out where
  length j hj := by rw [Bytes.length_chunk (chunk_end_le hin hj), Nat.one_mul]
  fits j hj := chunk_end_le hout (target_lt hj)
  apart j hj j' hj' hne := by
    have : target height width j ≠ target height width j' := fun h => hne (target_inj hj hj' h)
    omega

lemma moveChunk?_eq (hbytes : height * width * size < Word.bound)
    (hin : height * width * size ≤ input.length) (hout : height * width * size ≤ out.length)
    (hcount : height * width < Word.bound) (hi : i < height * width) :
    moveChunk? input size height width i out =
      some (out.overwrite (target height width i * size) (input.chunk size i)) := by
  have htarget := target_lt hi
  have hsrc := block_end_le size hi
  have hdst := block_end_le size htarget
  have hposition : target height width i = width * (i % height) + i / height := rfl
  have hrow : width * (i % height) ≤ target height width i := Nat.le_add_right _ _
  simp only [moveChunk?, Word.mul?_eq (show i * size < Word.bound by omega),
    Word.mul?_eq (show width * (i % height) < Word.bound by omega), Option.bind_eq_bind,
    Option.bind_some]
  rw [Word.add?_eq (hposition ▸ by omega), Option.bind_some, ← hposition,
    Word.mul?_eq (by omega), Option.bind_some, Word.add?_eq (by omega), Option.bind_some,
    Word.add?_eq (by omega), Option.bind_some,
    if_pos ⟨Nat.le_trans hdst hout, Nat.le_trans hsrc hin⟩]
  rfl

/-- From chunk `i` on, the chunks are moved one after the other. -/
lemma moveFrom_eq {ε : Type} (hbytes : height * width * size < Word.bound)
    (hin : height * width * size ≤ input.length) (hout : height * width * size ≤ out.length)
    (hcount : height * width < Word.bound) (hn : i + n ≤ height * width) :
    (moveFrom input size height width n i out : Outcome ε Unit × Bytes) =
      (.ok (), out.overwriteAll ((List.range' i n).map fun i =>
        (target height width i * size, input.chunk size i))) := by
  induction n generalizing i out with
  | zero => rfl
  | succ n ih =>
    have hi : i < height * width := by omega
    have hlength : (out.overwrite (target height width i * size) (input.chunk size i)).length =
        out.length := by
      have hdst := chunk_end_le hout (target_lt hi)
      rw [Nat.succ_mul] at hdst
      exact Bytes.length_overwrite (by rwa [Bytes.length_chunk (chunk_end_le hin hi)])
    rw [moveFrom, moveChunk?_eq hbytes hin hout hcount hi]
    simp only
    rw [ih (hlength ▸ hout) (by omega), List.range'_succ, List.map_cons, Bytes.overwriteAll_cons]

lemma run_eq {ε : Type} (hbytes : height * width * size < Word.bound)
    (hin : height * width * size ≤ input.length) (hout : height * width * size ≤ out.length)
    (hcount : height * width < Word.bound) :
    (run out input size height width : Outcome ε Unit × Bytes) =
      (.ok (), regrouped size height width input out) := by
  rw [run, Word.mul?_eq hcount]
  simp only
  rw [moveFrom_eq hbytes hin hout hcount (Nat.le_of_eq (Nat.zero_add _)), regrouped,
    Bytes.withBlocks, List.range_eq_range']

lemma length_regrouped (hin : height * width * size ≤ input.length)
    (hout : height * width * size ≤ out.length) :
    (regrouped size height width input out).length = out.length :=
  (blocks_target hin hout).length_withBlocks

/-- Chunk `k` of column `j` comes to be chunk `j` of column `k`. -/
lemma chunk_regrouped (hin : height * width * size ≤ input.length)
    (hout : height * width * size ≤ out.length) (hj : j < height) (hk : k < width) :
    (regrouped size height width input out).chunk size (width * j + k) =
      input.chunk size (height * k + j) := by
  have hi : height * k + j < height * width := by
    have := Nat.mul_le_mul_left height hk
    rw [Nat.mul_succ] at this
    omega
  have := (blocks_target hin hout).chunk_inside hi Nat.zero_lt_one
  rw [target_grid hj, Nat.add_zero] at this
  rw [regrouped, this]
  exact Bytes.chunk_zero_of_length (Bytes.length_chunk (chunk_end_le hin hi))

variable {heap : Heap} {unit : RegroupUnit} {a b : Buffer} {x y : Scalar}

lemma countAt_eq {scalars : List Scalar} {index : Nat} {entry : String}
    (h : scalars[index]? = some x) (hx : x.toNat? = some n) :
    Argument.countAt entry scalars index = .ok n := by
  simp [Argument.countAt, h, hx, Outcome.orError]

/-- The kernel regroups what one buffer holds into another. -/
lemma hostKernel_eq (ha : heap.Holds a out) (hb : heap.Holds b input)
    (hin : height * width * (n * unit.bytes) ≤ input.length)
    (hout : height * width * (n * unit.bytes) ≤ out.length)
    (hcount : height * width < Word.bound) (hchunk : n * unit.bytes < Word.bound)
    (hcolumn : n * unit.bytes * height < Word.bound) (hx : x.toNat? = some height)
    (hy : y.toNat? = some width) (geometry : Geometry) :
    hostKernel unit geometry (Argument.list [a, b] [.u64 n, x, y]) heap =
      .done (.ok (), heap.write a (regrouped (n * unit.bytes) height width input out)) := by
  have hneeded : n * unit.bytes * height * width = height * width * (n * unit.bytes) := by
    rw [Nat.mul_assoc, Nat.mul_comm]
  have hlt := Nat.lt_of_le_of_lt hin hb.length_lt
  refine (Act.bind_done rfl).trans ?_
  refine (Act.bind_done rfl).trans ?_
  refine (Act.bind_done (Act.outcome_done (countAt_eq rfl hx) heap)).trans ?_
  refine (Act.bind_done (Act.outcome_done (countAt_eq rfl hy) heap)).trans ?_
  refine (Act.bind_done (Act.outcome_done (Word.mul_eq hchunk) heap)).trans ?_
  refine (Act.bind_done (Act.outcome_done (Word.mul_eq hcolumn) heap)).trans ?_
  refine (Act.bind_done (Act.outcome_done (Word.mul_eq (by omega)) heap)).trans ?_
  have hcheck {x : Buffer} {c : Bytes} (hx : heap.Holds x c)
      (hle : height * width * (n * unit.bytes) ≤ c.length) :
      (Act.bind (Act.ofOutcome x.byteCount) fun held =>
        Act.ensure (n * unit.bytes * height * width ≤ held) (.invalidArguments unit.entry
          (.tooFewBytes (n * unit.bytes * height * width))) : Act Silence Heap DeviceError Unit)
        heap = .done (.ok (), heap) := by
    refine (Act.bind_done (Act.outcome_done hx.byteCount heap)).trans ?_
    exact Act.ensure_done (hneeded ▸ hle) _ heap
  refine (Act.bind_done (Act.forEach_done fun x hx => ?_)).trans ?_
  · simp only [List.mem_cons, List.not_mem_nil, or_false] at hx
    obtain rfl | rfl := hx
    · exact hcheck ha hout
    · exact hcheck hb hin
  refine (Act.bind_done hb.bytes).trans ?_
  refine (Act.bind_done ha.bytes).trans ?_
  rw [run_eq hlt hin hout hcount]
  exact (Act.bind_done (ha.setBytes (length_regrouped hin hout))).trans rfl

end Regroup

lemma RegroupUnit.div_mul_bytes (size : Nat) :
    size / (RegroupUnit.forChunk size).bytes * (RegroupUnit.forChunk size).bytes = size := by
  unfold RegroupUnit.forChunk
  split
  case isTrue h => exact Nat.div_mul_cancel (Nat.dvd_of_mod_eq_zero h.2)
  case isFalse h => simp [RegroupUnit.bytes]

lemma Word.toSigned32_eq {n : Nat} (h : n < 0x80000000) : Word.toSigned32 n = (n : Int) := by
  rw [Word.toSigned32, Word.bound32]
  exact Int.bmod_eq_of_le_mul_two (by omega) (by omega)

namespace RegroupKernels

def handle (k : RegroupKernels) : RegroupUnit → KernelHandle
  | .byte => k.byte
  | .vector => k.vector

/-- Both kernels are provided on the device. -/
def Provided (k : RegroupKernels) (device : Nat) (p : HostKernels) : Prop :=
  ∀ unit : RegroupUnit,
    Invoker.Provides p (k.handle unit) device unit.entry (Regroup.hostKernel unit)

variable {k : RegroupKernels} {p : HostKernels} {devices size height width r : Nat} {g : Bytes}
  {stream : Stream} {a b : Buffer} {input out : Bytes}

lemma handleFor_eq (k : RegroupKernels) (size : Nat) :
    k.handleFor size = k.handle (RegroupUnit.forChunk size) := by
  unfold handleFor
  cases RegroupUnit.forChunk size <;> rfl

/-- A launch does what the kernel for the size of the chunks does. -/
lemma launch_done {heap : Heap} {o : Outcome DeviceError Unit} (hk : k.Provided stream.device p)
    (hd : stream.device < devices) (ha : p.1.heap.Holds a out) (hb : p.1.heap.Holds b input)
    (hda : a.device = stream.device) (hdb : b.device = stream.device)
    (hkernel : ∀ geometry, Regroup.hostKernel (.forChunk size) geometry
      (Argument.list [a, b] [.u64 (size / (RegroupUnit.forChunk size).bytes),
        .i32 (Word.toSigned32 height), .i32 (Word.toSigned32 width)]) p.1.heap =
      .done (o, heap)) :
    ∃ p', k.launch (Host.platform devices) stream a b size height width p =
        .done (o.mapError .device, p') ∧
      p'.1.heap = heap ∧ Invoker.StillProvides p p' := by
  have hbuffers : ∀ x ∈ [a, b], x.device = stream.device ∧ p.1.heap.isHost x = true := by
    intro x hx
    simp only [List.mem_cons, List.not_mem_nil, or_false] at hx
    obtain rfl | rfl := hx
    · exact ⟨hda, ha.isHost⟩
    · exact ⟨hdb, hb.isHost⟩
  rw [launch, handleFor_eq]
  exact Invoker.invokeOn_done _ (hk _) hd hbuffers hkernel

lemma runs_launch (hk : k.Provided stream.device p) (hd : stream.device < devices)
    (ha : p.1.heap.Holds a out) (hb : p.1.heap.Holds b input) (hda : a.device = stream.device)
    (hdb : b.device = stream.device) (hin : height * width * size ≤ input.length)
    (hout : height * width * size ≤ out.length) (hheight : height < 0x80000000)
    (hwidth : width < 0x80000000) (hpos : 0 < height * width) :
    (k.launch (Host.platform devices) stream a b size height width).Runs g r p [] fun _ p' =>
      p'.1.heap = p.1.heap.write a (Regroup.regrouped size height width input out) ∧
        Invoker.StillProvides p p' := by
  have hcount : height * width < Word.bound := by
    have := Nat.mul_lt_mul'' hheight hwidth
    simp only [Word.bound]
    omega
  have hunit := RegroupUnit.div_mul_bytes size
  have hlt := Nat.lt_of_le_of_lt hin hb.length_lt
  have hchunk : size < Word.bound := Nat.lt_of_le_of_lt (Nat.le_mul_of_pos_left _ hpos) hlt
  have hcolumn : size * height < Word.bound := by
    refine Nat.lt_of_le_of_lt ?_ hlt
    rw [Nat.mul_comm size, Nat.mul_right_comm]
    exact Nat.le_mul_of_pos_right _ (Nat.pos_of_mul_pos_left hpos)
  have hread {m : Nat} (hm : m < 0x80000000) :
      (Scalar.i32 (Word.toSigned32 m)).toNat? = some m := by
    simp [Word.toSigned32_eq hm, Scalar.toNat?]
  obtain ⟨p', hdone, hp'⟩ := launch_done hk hd ha hb hda hdb
    (Regroup.hostKernel_eq ha hb (hunit.symm ▸ hin) (hunit.symm ▸ hout) hcount
      (hunit.symm ▸ hchunk) (hunit.symm ▸ hcolumn) (hread hheight) (hread hwidth))
  rw [hunit] at hp'
  exact .of_done hdone hp'

end RegroupKernels

end ExpertExchange
