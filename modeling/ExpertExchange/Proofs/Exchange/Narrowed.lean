import ExpertExchange.Proofs.Exchange.Joined
import ExpertExchange.Proofs.Exchange.Transposed
import ExpertExchange.StandIn.Tensors

/-!
# Launching a regrouping

The regrouping kernels are told the sides of the grid as signed numbers of 32 bits. Where 32 bits
are enough for both sides, a launch that succeeds regroups the chunks. Of larger sides the kernels
see the low bits only: they refuse those that look negative, and take others for a smaller grid.
-/

namespace ExpertExchange

/-- The low 32 bits, if as a signed number they are not negative. -/
def Word.low32? (n : Nat) : Option Nat :=
  if n % bound32 < 0x80000000 then some (n % bound32) else none

/-- What a kernel reads of a number that is passed as a signed number of 32 bits. -/
lemma Scalar.toNat?_toSigned32 (n : Nat) :
    (Scalar.i32 (Word.toSigned32 n)).toNat? = Word.low32? n := by
  have hmod : Word.toSigned32 n =
      if n % Word.bound32 < 0x80000000 then ((n % Word.bound32 : Nat) : Int)
      else ((n % Word.bound32 : Nat) : Int) - Word.bound32 := by
    simp only [Word.toSigned32, Int.bmod_def, Word.bound32]
    omega
  have hlt : n % Word.bound32 < Word.bound32 := Nat.mod_lt n (by decide)
  rw [hmod, Word.low32?]
  by_cases h : n % Word.bound32 < 0x80000000
  · simp only [if_pos h, Scalar.toNat?, Int.natCast_nonneg, Int.toNat_natCast]
    rfl
  · simp only [if_neg h, Scalar.toNat?]
    rw [if_neg (by omega)]

namespace Act

variable {S : Service} {σ ε α β : Type} {o : Outcome ε α} {f : α → Act S σ ε β} {s : σ}

lemma bind_refused {e : ε} (h : o = .error e) :
    ((Act.ofOutcome o).bind f) s = .done (.error e, s) := by
  rw [h]
  rfl

lemma bind_broken {w : Option String} (h : o = .fault w) :
    ((Act.ofOutcome o).bind f) s = .done (.fault w, s) := by
  rw [h]
  rfl

end Act

namespace Regroup

variable {size height width n stop : Nat} {input out : Bytes} {heap heap' : Heap}
  {unit : RegroupUnit} {a b : Buffer} {x y : Scalar}

lemma countAt_none {scalars : List Scalar} {index : Nat} {entry : String}
    (h : scalars[index]? = some x) (hx : x.toNat? = none) :
    Argument.countAt entry scalars index = .error (.invalidArguments entry (.notACount index)) := by
  simp [Argument.countAt, h, hx, Outcome.orError]

/-- A side that is no count is refused. -/
lemma hostKernel_refuses (h : x.toNat? = none ∨ y.toNat? = none) :
    ∃ e, ∀ geometry, hostKernel unit geometry (Argument.list [a, b] [.u64 n, x, y]) heap =
      .done (.error e, heap) := by
  cases hx : x.toNat? with
  | none =>
    refine ⟨.invalidArguments unit.entry (.notACount 1), ?_⟩
    intro geometry
    refine (Act.bind_done rfl).trans ((Act.bind_done rfl).trans ?_)
    exact Act.bind_refused (countAt_none rfl hx)
  | some height =>
    have hy : y.toNat? = none := by simpa [hx] using h
    refine ⟨.invalidArguments unit.entry (.notACount 2), ?_⟩
    intro geometry
    refine (Act.bind_done rfl).trans ((Act.bind_done rfl).trans ?_)
    refine (Act.bind_done (Act.outcome_done (countAt_eq rfl hx) heap)).trans ?_
    exact Act.bind_refused (countAt_none rfl hy)

/-- A column with more bytes than a word can count is a fault. -/
lemma hostKernel_faults (hx : x.toNat? = some height) (hy : y.toNat? = some width)
    (hchunk : n * unit.bytes < Word.bound) (hcolumn : Word.bound ≤ n * unit.bytes * height)
    (geometry : Geometry) :
    hostKernel unit geometry (Argument.list [a, b] [.u64 n, x, y]) heap =
      .done (.fault none, heap) := by
  refine (Act.bind_done rfl).trans ((Act.bind_done rfl).trans ?_)
  refine (Act.bind_done (Act.outcome_done (countAt_eq rfl hx) heap)).trans ?_
  refine (Act.bind_done (Act.outcome_done (countAt_eq rfl hy) heap)).trans ?_
  refine (Act.bind_done (Act.outcome_done (Word.mul_eq hchunk) heap)).trans ?_
  exact Act.bind_broken (Word.mul_fault hcolumn)

/-- The chunks are regrouped into the buffer, directly from what the input held before, and nothing
is written from byte `stop` on. -/
def Written (size height width stop : Nat) (out input : Bytes) (a : Buffer) (heap heap' : Heap) :
    Prop :=
  ∃ after, (run out input size height width : Outcome DeviceError Unit × Bytes) = (.ok (), after) ∧
    heap' = heap.write a after ∧ after.drop stop = out.drop stop

/-- A smaller grid than the one that the buffers have room for. -/
lemma written_regrouped (hin : height * width * size ≤ input.length)
    (hout : height * width * size ≤ out.length) (hlt : input.length < Word.bound)
    (hcount : height * width < Word.bound) (hstop : height * width * size ≤ stop) :
    Written size height width stop out input a heap
      (heap.write a (regrouped size height width input out)) := by
  refine ⟨_, run_eq (Nat.lt_of_le_of_lt hin hlt) hin hout hcount, rfl, ?_⟩
  have hrest := congrArg (List.drop (stop - height * width * size)) (drop_regrouped hin hout)
  simpa only [List.drop_drop, Nat.add_sub_cancel' hstop] using hrest

end Regroup

namespace RegroupKernels

open Regroup

variable {k : RegroupKernels} {p : HostKernels} {devices size height width : Nat} {stream : Stream}
  {a b : Buffer} {input out : Bytes}

/-- How a launch ends, and what it has done to the heap. -/
structure Settled (size height width : Nat) (out input : Bytes) (a : Buffer) (heap heap' : Heap)
    (o : Outcome KernelError Unit) : Prop where
  /-- If 32 bits are enough for the sides, success is the success of regrouping directly. -/
  agrees : height < Word.bound32 → width < Word.bound32 → o = .ok () →
    Written size height width (height * width * size) out input a heap heap'
  /-- Any success is the one for the low bits of the sides. -/
  moved : o = .ok () →
    Written size (height % Word.bound32) (width % Word.bound32) (height * width * size) out input a
      heap heap'
  /-- The kernel has to take both sides for counts, and the bytes of a column have to be a word. -/
  succeeds : o = .ok () ↔ ∃ h w, Word.low32? height = some h ∧ Word.low32? width = some w ∧
    size * h < Word.bound
  untouched : o ≠ .ok () → heap' = heap

/-- A launch that has not succeeded. -/
lemma Settled.of_failed {heap : Heap} {o : Outcome KernelError Unit} (ho : o ≠ .ok ())
    (hunfit : ¬ ∃ h w, Word.low32? height = some h ∧ Word.low32? width = some w ∧
      size * h < Word.bound) : Settled size height width out input a heap heap o := by
  constructor
  · intro _ _ hok
    exact absurd hok ho
  · intro hok
    exact absurd hok ho
  · exact iff_of_false ho hunfit
  · intro _
    rfl

lemma Settled.of_moved {h w : Nat} {heap heap' : Heap} (hh : Word.low32? height = some h)
    (hw : Word.low32? width = some w) (hcolumn : size * h < Word.bound)
    (hmoved : Written size (height % Word.bound32) (width % Word.bound32) (height * width * size)
      out input a heap heap') :
    Settled size height width out input a heap heap' (.ok ()) := by
  constructor
  · intro hheight hwidth _
    rwa [Nat.mod_eq_of_lt hheight, Nat.mod_eq_of_lt hwidth] at hmoved
  · intro _
    exact hmoved
  · exact iff_of_true rfl ⟨h, w, hh, hw, hcolumn⟩
  · intro hne
    exact absurd rfl hne

lemma low32?_eq_some {n m : Nat} (h : Word.low32? n = some m) :
    m = n % Word.bound32 ∧ m < 0x80000000 := by
  unfold Word.low32? at h
  by_cases hn : n % Word.bound32 < 0x80000000
  · rw [if_pos hn] at h
    cases h
    exact ⟨rfl, hn⟩
  · rw [if_neg hn] at h
    cases h

lemma low32?_mul_lt {h w : Nat} (hh : Word.low32? height = some h)
    (hw : Word.low32? width = some w) : h * w < Word.bound := by
  have := Nat.mul_lt_mul'' (low32?_eq_some hh).2 (low32?_eq_some hw).2
  simp only [Word.bound]
  omega

/-- A launch whose kernel takes the sides for the counts `h` and `w`. -/
lemma launch_eq {h w : Nat} (hk : k.Provided stream.device p) (hd : stream.device < devices)
    (ha : p.1.heap.Holds a out) (hb : p.1.heap.Holds b input) (hda : a.device = stream.device)
    (hdb : b.device = stream.device) (hsize : size < Word.bound)
    (hin : h * w * size ≤ input.length) (hout : h * w * size ≤ out.length)
    (hh : Word.low32? height = some h) (hw : Word.low32? width = some w)
    (hcolumn : size * h < Word.bound) :
    ∃ p', k.launch (Host.platform devices) stream a b size height width p = .done (.ok (), p') ∧
      p'.1.heap = p.1.heap.write a (regrouped size h w input out) := by
  have hunit := RegroupUnit.div_mul_bytes size
  have hx := (Scalar.toNat?_toSigned32 height).trans hh
  have hy := (Scalar.toNat?_toSigned32 width).trans hw
  obtain ⟨p', hdone, hheap, -⟩ := launch_done hk hd ha hb hda hdb
    (hostKernel_eq ha hb (hunit.symm ▸ hin) (hunit.symm ▸ hout) (low32?_mul_lt hh hw)
      (hunit.symm ▸ hsize) (hunit.symm ▸ hcolumn) hx hy)
  rw [hunit] at hheap
  exact ⟨p', hdone, hheap⟩

/-- Launching a regrouping of chunks of any size in a grid with any sides, where both buffers have
room for it; they may be the same buffer. -/
theorem launch_settles (hk : k.Provided stream.device p) (hd : stream.device < devices)
    (ha : p.1.heap.Holds a out) (hb : p.1.heap.Holds b input) (hda : a.device = stream.device)
    (hdb : b.device = stream.device) (hsize : size < Word.bound)
    (hin : height * width * size ≤ input.length) (hout : height * width * size ≤ out.length) :
    ∃ o p', k.launch (Host.platform devices) stream a b size height width p = .done (o, p') ∧
      Settled size height width out input a p.1.heap p'.1.heap o := by
  by_cases hnone : Word.low32? height = none ∨ Word.low32? width = none
  · have hread := hnone
    rw [← Scalar.toNat?_toSigned32, ← Scalar.toNat?_toSigned32] at hread
    obtain ⟨e, hkernel⟩ := hostKernel_refuses hread
    obtain ⟨p', hdone, hheap, -⟩ := launch_done hk hd ha hb hda hdb hkernel
    refine ⟨_, p', hdone, hheap ▸ .of_failed nofun ?_⟩
    rintro ⟨h, w, hh, hw, -⟩
    simp [hh, hw] at hnone
  · simp only [not_or, ← ne_eq, Option.ne_none_iff_exists'] at hnone
    obtain ⟨⟨h, hh⟩, w, hw⟩ := hnone
    by_cases hcolumn : size * h < Word.bound
    · obtain ⟨hheight, -⟩ := low32?_eq_some hh
      obtain ⟨hwidth, -⟩ := low32?_eq_some hw
      have hle : h * w * size ≤ height * width * size := by
        subst hheight hwidth
        exact Nat.mul_le_mul_right size (Nat.mul_le_mul (Nat.mod_le _ _) (Nat.mod_le _ _))
      have hin' := Nat.le_trans hle hin
      have hout' := Nat.le_trans hle hout
      obtain ⟨p', hdone, hheap⟩ :=
        launch_eq hk hd ha hb hda hdb hsize hin' hout' hh hw hcolumn
      have hmoved : Written size (height % Word.bound32) (width % Word.bound32)
          (height * width * size) out input a p.1.heap p'.1.heap := by
        rw [hheap, ← hheight, ← hwidth]
        exact written_regrouped hin' hout' hb.length_lt (low32?_mul_lt hh hw) hle
      exact ⟨_, p', hdone, .of_moved hh hw hcolumn hmoved⟩
    · have hunit := RegroupUnit.div_mul_bytes size
      have hx := (Scalar.toNat?_toSigned32 height).trans hh
      have hy := (Scalar.toNat?_toSigned32 width).trans hw
      obtain ⟨p', hdone, hheap, -⟩ := launch_done hk hd ha hb hda hdb
        (hostKernel_faults hx hy (hunit.symm ▸ hsize) (hunit.symm ▸ Nat.not_lt.1 hcolumn))
      refine ⟨_, p', hdone, hheap ▸ .of_failed nofun ?_⟩
      rintro ⟨h', w', hh', hw', hcolumn'⟩
      cases hh.symm.trans hh'
      exact hcolumn hcolumn'

def twoCells (out input : Bytes) : Heap := [⟨.host out, [], 1⟩, ⟨.host input, [], 1⟩]

def buffer (n cell : Nat) : Buffer := ⟨.u8, [n], 0, cell⟩

lemma holds_twoCells {n : Nat} (out input : Bytes) (hn : n ≤ Word.allocationBound)
    (hout : out.length = n) (hin : input.length = n) :
    (twoCells out input).Holds (buffer n 0) out ∧ (twoCells out input).Holds (buffer n 1) input := by
  have hlt : n < Word.bound := Nat.lt_of_le_of_lt hn (by decide)
  have hsize : Buffer.sizeOf? .u8 [n] = some n := by
    simp [Buffer.sizeOf?, Word.product?, Word.mul?, Dtype.size, hlt]
  constructor
  · exact ⟨⟨_, _, rfl⟩, hout ▸ hsize, hout ▸ hn⟩
  · exact ⟨⟨_, _, rfl⟩, hin ▸ hsize, hin ▸ hn⟩

/-- On a platform with any heap, the kernels can be installed. -/
lemma exists_provided [TensorLibrary] (heap : Heap) :
    ∃ k p, RegroupKernels.Provided k 0 p ∧ p.1.heap = heap := by
  let start : HostKernels := (⟨heap, Host.ownKernels, [], []⟩, .create 1 [.host] .none)
  have hown : OnPlatform start := fun unit => unit.kernel?_own heap [] []
  have hinstall := runs_install (g := []) (r := 0) (p := start) ⟨rfl, rfl, rfl⟩ Nat.zero_lt_one hown
  obtain ⟨k, p, -, hheap, hk⟩ := Act.runs_nil_iff.1 hinstall
  exact ⟨k, p, hk, hheap⟩

open StandIn in
/-- Two rows of three bytes, and one byte that stays. -/
theorem launch_settles_two_by_three :
    ∃ k p p', RegroupKernels.Provided k 0 p ∧
      p.1.heap = twoCells [0, 0, 0, 0, 0, 0, 9] [1, 2, 3, 4, 5, 6, 7] ∧
      k.launch (Host.platform 1) ⟨0, .comm, 0⟩ (buffer 7 0) (buffer 7 1) 1 2 3 p =
        .done (.ok (), p') ∧
      p'.1.heap = twoCells [1, 3, 5, 2, 4, 6, 9] [1, 2, 3, 4, 5, 6, 7] := by
  obtain ⟨k, p, hk, hheap⟩ := exists_provided (twoCells [0, 0, 0, 0, 0, 0, 9] [1, 2, 3, 4, 5, 6, 7])
  obtain ⟨ha, hb⟩ := holds_twoCells (n := 7) [0, 0, 0, 0, 0, 0, 9] [1, 2, 3, 4, 5, 6, 7]
    (by decide) rfl rfl
  rw [← hheap] at ha hb
  have hlaunch : ∃ o p', k.launch (Host.platform 1) ⟨0, .comm, 0⟩ (buffer 7 0) (buffer 7 1) 1 2 3 p =
      .done (o, p') ∧ Settled 1 2 3 [0, 0, 0, 0, 0, 0, 9] [1, 2, 3, 4, 5, 6, 7] (buffer 7 0)
        p.1.heap p'.1.heap o :=
    launch_settles hk Nat.zero_lt_one ha hb rfl rfl (by decide) (by decide) (by decide)
  obtain ⟨o, p', hdone, hsettled⟩ := hlaunch
  have hok : o = .ok () := hsettled.succeeds.2 ⟨2, 3, rfl, rfl, by decide⟩
  obtain ⟨after, hrun, hheap', -⟩ := hsettled.agrees (by decide) (by decide) hok
  have hafter : (run [0, 0, 0, 0, 0, 0, 9] [1, 2, 3, 4, 5, 6, 7] 1 2 3 :
      Outcome DeviceError Unit × Bytes) = (.ok (), [1, 3, 5, 2, 4, 6, 9]) := by decide
  rw [hafter] at hrun
  cases hrun
  refine ⟨k, p, p', hk, hheap, hok ▸ hdone, ?_⟩
  rw [hheap', hheap]
  rfl

/-- The first byte of a grid with one column of single bytes stays in its place. -/
lemma first_regrouped {n : Nat} (hn : 0 < n) (hin : n * 1 * 1 ≤ input.length)
    (hout : n * 1 * 1 ≤ out.length) : (regrouped 1 n 1 input out)[0]? = input[0]? := by
  have hchunk := congrArg (fun d : Bytes => d[0]?) (chunk_regrouped hin hout hn Nat.zero_lt_one)
  simpa [Bytes.getElem?_chunk] using hchunk

/-- A grid of which the kernels see no byte. -/
lemma exists_launch_idle [TensorLibrary] {n h w : Nat} (hn : n ≤ Word.allocationBound)
    (hout : out.length = n) (hin : input.length = n) (hsize : size < Word.bound)
    (hh : Word.low32? height = some h) (hw : Word.low32? width = some w) (hnone : h * w * size = 0)
    (hcolumn : size * h < Word.bound) :
    ∃ k p p', RegroupKernels.Provided k 0 p ∧ p.1.heap = twoCells out input ∧
      k.launch (Host.platform 1) ⟨0, .comm, 0⟩ (buffer n 0) (buffer n 1) size height width p =
        .done (.ok (), p') ∧
      p'.1.heap = twoCells out input := by
  obtain ⟨k, p, hk, hheap⟩ := exists_provided (twoCells out input)
  obtain ⟨ha, hb⟩ := holds_twoCells out input hn hout hin
  rw [← hheap] at ha hb
  have hin' : h * w * size ≤ input.length := by omega
  have hout' : h * w * size ≤ out.length := by omega
  have hsame : regrouped size h w input out = out := by
    simpa [hnone] using drop_regrouped hin' hout'
  have hstream : k.Provided (Stream.mk 0 .comm 0).device p := hk
  obtain ⟨p', hdone, hheap'⟩ := launch_eq hstream Nat.zero_lt_one ha hb rfl rfl hsize hin' hout' hh
    hw hcolumn
  rw [hsame, ha.write_self, hheap] at hheap'
  exact ⟨k, p, p', hk, hheap, hdone, hheap'⟩

open StandIn in
/-- Side 4294967296 is taken for 0: a launch with four gibibytes succeeds and moves none of them.
Side 4294967297 is taken for 1: a launch without bytes succeeds where the places of the grid are
too many for a word, and regrouping directly is a fault. -/
theorem launch_drops_high_bits :
    (∃ k p p', RegroupKernels.Provided k 0 p ∧
      p.1.heap = twoCells (List.replicate 0x100000000 0) (List.replicate 0x100000000 1) ∧
      k.launch (Host.platform 1) ⟨0, .comm, 0⟩ (buffer 0x100000000 0) (buffer 0x100000000 1) 1
        0x100000000 1 p = .done (.ok (), p') ∧
      p'.1.heap = twoCells (List.replicate 0x100000000 0) (List.replicate 0x100000000 1)) ∧
    (∃ after, (run (List.replicate 0x100000000 0) (List.replicate 0x100000000 1) 1 0x100000000 1 :
      Outcome DeviceError Unit × Bytes) = (.ok (), after) ∧ after ≠ List.replicate 0x100000000 0) ∧
    (∃ k p p', RegroupKernels.Provided k 0 p ∧ p.1.heap = twoCells [0, 0, 0, 0] [1, 1, 1, 1] ∧
      k.launch (Host.platform 1) ⟨0, .comm, 0⟩ (buffer 4 0) (buffer 4 1) 0 0x100000001 0x100000001
        p = .done (.ok (), p') ∧
      p'.1.heap = twoCells [0, 0, 0, 0] [1, 1, 1, 1]) ∧
    (run [0, 0, 0, 0] [1, 1, 1, 1] 0 0x100000001 0x100000001 :
      Outcome DeviceError Unit × Bytes) = (.fault none, [0, 0, 0, 0]) := by
  have hzeros : (List.replicate 0x100000000 0 : Bytes).length = 0x100000000 := List.length_replicate
  have hones : (List.replicate 0x100000000 1 : Bytes).length = 0x100000000 := List.length_replicate
  constructor
  · exact exists_launch_idle (by decide) hzeros hones (by decide) rfl rfl rfl (by decide)
  constructor
  · have hin : 0x100000000 * 1 * 1 ≤ (List.replicate 0x100000000 1 : Bytes).length := by rw [hones]
    have hout : 0x100000000 * 1 * 1 ≤ (List.replicate 0x100000000 0 : Bytes).length := by
      rw [hzeros]
    refine ⟨_, run_eq (by decide) hin hout (by decide), ?_⟩
    intro heq
    -- The lists are too long to be computed, so their first bytes have to do.
    have hfirst := first_regrouped (by decide) hin hout
    rw [heq, List.getElem?_replicate, List.getElem?_replicate, if_pos (by decide),
      if_pos (by decide)] at hfirst
    exact absurd hfirst (by decide)
  constructor
  · exact exists_launch_idle (by decide) rfl rfl (by decide) rfl rfl rfl (by decide)
  · rfl

end RegroupKernels

end ExpertExchange
