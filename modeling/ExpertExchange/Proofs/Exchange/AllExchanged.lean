import ExpertExchange.Proofs.Exchange.Dealt
import ExpertExchange.Proofs.Exchange.Joined
import ExpertExchange.Proofs.Exchange.Levels
import ExpertExchange.StandIn.Tensors
import Mathlib.Tactic.IntervalCases

/-!
# What an exchange of all chunks does

With several nodes of several devices the chunks take two rounds, in place; else they take one
round into a fresh buffer. Either way rank `r` gets chunk `r` of every rank, in rank order.
-/

namespace ExpertExchange

namespace Scheduler

open SimulatedLink

variable {devices N L W r size height width : Nat} {g : Bytes} {e : HostEngine}
  {input output : Buffer} {c d : Bytes} {data : Nat → Bytes}

lemma runs_regroupChunks (hp : Participant devices g W L r e) (hd : e.1.heap.Holds output d)
    (hc : e.1.heap.Holds input c) (houtput : output.device = ownDevice e)
    (hinput : input.device = ownDevice e) (hin : height * width * size ≤ c.length)
    (hout : height * width * size ≤ d.length) (hheight : height < 0x80000000)
    (hwidth : width < 0x80000000) (hpos : 0 < height * width) :
    (regroupChunks (Host.platform devices) (ownStream e .comm) output input size height
      width).Runs g r e [] fun _ e' => Leaves (· = output.cell) e e' ∧
        e'.1.heap.Holds output (Regroup.regrouped size height width c d) := by
  have hlaunch : (e.2.2.regroup.launch (Host.platform devices) (ownStream e .comm) output input size
      height width).Runs g r (e.1, e.2.1) [] _ :=
    RegroupKernels.runs_launch hp.regroup hp.device_lt hd hc houtput hinput hin hout hheight hwidth
      hpos
  refine .step rfl (.within (.mapError (hlaunch.mono ?_)))
  rintro _ p ⟨hheap, hprovides⟩
  constructor
  · refine ⟨rfl, rfl, rfl, rfl, hprovides, ?_⟩
    rw [show (invokerPart.put e p).1.heap = p.1.heap from rfl, hheap]
    exact Heap.keeps_write _ _ _
  · rw [show (invokerPart.put e p).1.heap = p.1.heap from rfl, hheap]
    exact hd.written (Regroup.length_regrouped hin hout)

lemma queues_exchangeBlock [TensorLibrary] {stream : Stream} {range : ByteRange} {peer n : Nat}
    {payload : Bytes} {o : Outcome ExchangeError Nat} {q : Outcome ExchangeError ByteRange}
    (ho : o = .ok peer) (hq : q = .ok range) (hpeer : peer < W) (hrange : range.Within n)
    (hinput : Buffer.sizeOf? input.dtype input.shape = some n)
    (houtput : Buffer.sizeOf? output.dtype output.shape = some n) :
    Queues W stream.kind (exchangeBlock transport input output stream o q)
      [.sending input (peer, range), .receiving output ⟨peer, range, payload⟩] := by
  refine .after ho (.after hq ?_)
  refine (queues_send ⟨hpeer, n, hinput, hrange⟩).bind ?_
  exact queues_recv (p := ⟨peer, range, payload⟩) ⟨hpeer, n, houtput, hrange⟩

/-- A round in which block `j` is exchanged with the peer of number `j`. -/
lemma runs_blocks [TensorLibrary] {k count : Nat} {peer : Nat → Nat} {new : Nat → Bytes}
    {stream : Stream} {o : Nat → Outcome ExchangeError Nat}
    {q : Nat → Outcome ExchangeError ByteRange} (hp : Participant devices g W L r e)
    (hc : e.1.heap.Holds input c) (hd : e.1.heap.Holds output d)
    (hclength : c.length = k * count * size) (hdlength : d.length = k * count * size)
    (ho : ∀ j < k, o j = .ok (peer j)) (hpeer : ∀ j < k, peer j < W)
    (hq : ∀ j < k, q j = .ok ⟨j * count * size, j * count * size + count * size⟩)
    (hnew : ∀ j < k, (new j).length = count * size) :
    (onLink (Communicator.inRound transport (Act.forEach (List.range k) fun j =>
      exchangeBlock transport input output stream (o j) (q j)))).Runs g r e
      [⟨(List.range k).map fun j => (peer j, c.chunk (count * size) j),
        (List.range k).map fun j => (peer j, new j)⟩]
      fun _ e' => Leaves (· = output.cell) e e' ∧
        e'.1.heap.Holds output (Bytes.withBlocks size k (fun j => j * count) new d) := by
  have hend : ∀ j < k, j * count * size + count * size ≤ k * count * size := by
    intro j hj
    have := Nat.mul_le_mul_right size (Nat.mul_le_mul_right count (Nat.succ_le_of_lt hj))
    rwa [Nat.succ_mul, Nat.add_mul] at this
  have hblocks : ∀ j < k, Queues W stream.kind (exchangeBlock transport input output stream (o j)
      (q j)) [.sending input (peer j, ⟨j * count * size, j * count * size + count * size⟩),
        .receiving output
          ⟨peer j, ⟨j * count * size, j * count * size + count * size⟩, new j⟩] := by
    intro j hj
    refine queues_exchangeBlock (ho j hj) (hq j hj) (hpeer j hj) ?_ (hclength ▸ hc.size)
      (hdlength ▸ hd.size)
    exact ⟨Nat.le_add_right _ _, hend j hj⟩
  have hsent : ∀ j < k, c.slice ⟨j * count * size, j * count * size + count * size⟩ =
      c.chunk (count * size) j := by
    intro j _
    rw [Bytes.chunk, Nat.mul_assoc]
  have hround := runs_parts (fun j => j * count) (fun j => j * count) hp hc hd hblocks hsent hnew
    (fun j hj => hclength ▸ hend j hj) fun j hj => hdlength ▸ hend j hj
  refine hround.mono ?_
  rintro _ e' ⟨h, -, hheld⟩
  exact ⟨h, hheld⟩

lemma runs_noteFlat (h : Hierarchy) :
    (noteFlat (Host.platform devices) h).Runs g r e [] fun _ e' =>
      Undisturbed e e' ∧ e'.1.heap = e.1.heap := by
  refine .step rfl (.step rfl ?_)
  have hkept (s : HostState) (n : Notice) (hheap : s.heap = e.1.heap)
      (hkernels : s.kernels = e.1.kernels) :
      Undisturbed e (s, (e.2.1, { e.2.2 with notice := n })) :=
    { leaves_platform hkernels (hheap ▸ Heap.Keeps.refl _) with }
  split
  · exact .of_done rfl ⟨hkept _ _ rfl rfl, rfl⟩
  · exact .pure ⟨hkept _ _ rfl rfl, rfl⟩

/-- What goes from rank `p` to rank `q` in one round among all ranks. -/
def directTable (size : Nat) (data : Nat → Bytes) (p q : Nat) : List Bytes :=
  [(data p).chunk size q]

lemma among_directTable :
    Round.among W (directTable size data) r =
      ⟨(List.range W).map fun q => (q, (data r).chunk (1 * size) q),
        (List.range W).map fun p => (p, (data p).chunk size r)⟩ := by
  rw [Nat.one_mul, List.map_eq_flatMap, List.map_eq_flatMap]
  rfl

lemma runs_exchangeFlat [TensorLibrary] {comm compute : Stream}
    (hp : Participant devices g (N * L) L r e) (hr : r < N * L)
    (hinput : e.1.heap.Holds input (data r))
    (houtput : e.1.heap.Holds output (List.replicate (N * L * size) 0))
    (hlength : ∀ p < N * L, (data p).length = N * L * size) :
    (exchangeFlat (Host.platform devices) transport (.grid N L size r) input output comm
      compute).Runs g r e [Round.among (N * L) (directTable size data) r] fun _ e' =>
        Leaves (· = output.cell) e e' ∧
          e'.1.heap.Holds output (Hierarchy.direct (N * L) size data r) := by
  refine .after (runs_noteFlat _) ?_
  rintro _ e₁ ⟨h₁, hheap⟩
  have hinputLength : (data r).length = N * L * 1 * size := by rw [Nat.mul_one, hlength r hr]
  have houtputLength : (List.replicate (N * L * size) (0 : UInt8)).length = N * L * 1 * size := by
    rw [List.length_replicate, Nat.mul_one]
  have hblock : ∀ q < N * L, ((Hierarchy.grid N L size r).block 1 q :
      Outcome ExchangeError ByteRange) = .ok ⟨q * 1 * size, q * 1 * size + 1 * size⟩ := fun q hq =>
    Hierarchy.block_eq hq (hinputLength ▸ hinput.length_lt)
  have hround : (onLink (Communicator.inRound transport (Act.forEach (List.range (N * L)) fun q =>
      exchangeBlock transport input output comm (.ok q)
        ((Hierarchy.grid N L size r).block 1 q)))).Runs g r e₁ _ _ :=
    runs_blocks (hp.of_leaves h₁) (hheap ▸ hinput) (hheap ▸ houtput) hinputLength houtputLength
      (fun _ _ => rfl) (fun _ hq => hq) hblock (Hierarchy.blocks_direct hlength hr).length
  rw [among_directTable]
  refine .before hround ?_
  rintro _ e₂ ⟨h₂, hheld⟩
  refine (runs_recordStream _ _).mono ?_
  rintro _ e₃ ⟨h₃, -⟩
  refine ⟨h₁.leaves.trans (h₂.trans h₃.leaves), ?_⟩
  have hdirect := h₃.heap.holds _ _ id hheld
  simp only [Nat.mul_one] at hdirect
  exact hdirect

variable {between : Buffer} {contents : Nat → Bytes} {stream : Stream}

/-- The round within the nodes. -/
lemma runs_intraRound [TensorLibrary] (hp : Participant devices g (N * L) L r e) (hr : r < N * L)
    (hranks : N * L < Word.bound) (hbetween : e.1.heap.Holds between (contents r))
    (hinput : e.1.heap.Holds input d)
    (hcontents : ∀ p < N * L, (contents p).length = N * L * size)
    (hd : d.length = N * L * size) :
    (onLink (Communicator.inRound transport (Act.forEach (List.range L) fun l =>
      exchangeBlock transport between input stream ((Hierarchy.grid N L size r).intraPeer l)
        ((Hierarchy.grid N L size r).intraBlock l)))).Runs g r e
      [Round.among (N * L) (Hierarchy.nodeTable N L size contents) r] fun _ e' =>
        Leaves (· = input.cell) e e' ∧ e'.1.heap.Holds input (Bytes.withBlocks size L
          (fun l => l * N) (fun l => (contents (r / L * L + l)).chunk (N * size) (r % L)) d) := by
  have hL : 0 < L := Nat.pos_of_mul_pos_left (Nat.lt_of_le_of_lt (Nat.zero_le r) hr)
  have hsent : (contents r).length = L * N * size := by rw [hcontents r hr, Nat.mul_comm L]
  have hreceived : d.length = L * N * size := by rw [hd, Nat.mul_comm L]
  have hpeer : ∀ l < L, r / L * L + l < N * L := fun l hl => block_lt (div_lt_of_block hr) hl
  have hblock : ∀ l < L, ((Hierarchy.grid N L size r).intraBlock l :
      Outcome ExchangeError ByteRange) = .ok ⟨l * N * size, l * N * size + N * size⟩ := fun l hl =>
    Hierarchy.block_eq hl (hsent ▸ hbetween.length_lt)
  have hnew : ∀ l < L, ((contents (r / L * L + l)).chunk (N * size) (r % L)).length = N * size := by
    intro l hl
    refine Bytes.length_chunk ?_
    rw [hcontents _ (hpeer l hl), ← Nat.mul_assoc, Nat.mul_comm N L]
    exact Nat.mul_le_mul_right size (Nat.mul_le_mul_right N (Nat.mod_lt r hL))
  rw [Hierarchy.among_nodeTable hr]
  exact runs_blocks hp hbetween hinput hsent hreceived
    (fun l hl => Hierarchy.intraPeer_eq hr hl hranks) hpeer hblock hnew

/-- The round among the devices of one number. -/
lemma runs_interRound [TensorLibrary] (hp : Participant devices g (N * L) L r e) (hr : r < N * L)
    (hranks : N * L < Word.bound) (hbetween : e.1.heap.Holds between (contents r))
    (hinput : e.1.heap.Holds input d)
    (hcontents : ∀ p < N * L, (contents p).length = N * L * size)
    (hd : d.length = N * L * size) :
    (onLink (Communicator.inRound transport (Act.forEach (List.range N) fun n =>
      exchangeBlock transport between input stream ((Hierarchy.grid N L size r).interPeer n)
        ((Hierarchy.grid N L size r).interBlock n)))).Runs g r e
      [Round.among (N * L) (Hierarchy.railTable L size contents) r] fun _ e' =>
        Leaves (· = input.cell) e e' ∧ e'.1.heap.Holds input (Bytes.withBlocks size N
          (fun n => n * L) (fun n => (contents (n * L + r % L)).chunk (L * size) (r / L)) d) := by
  have hL : 0 < L := Nat.pos_of_mul_pos_left (Nat.lt_of_le_of_lt (Nat.zero_le r) hr)
  have hmod : r % L < L := Nat.mod_lt r hL
  have hpeer : ∀ n < N, n * L + r % L < N * L := fun n hn => block_lt hn hmod
  have hblock : ∀ n < N, ((Hierarchy.grid N L size r).interBlock n :
      Outcome ExchangeError ByteRange) = .ok ⟨n * L * size, n * L * size + L * size⟩ := fun n hn =>
    Hierarchy.block_eq hn (hcontents r hr ▸ hbetween.length_lt)
  have hnew : ∀ n < N, ((contents (n * L + r % L)).chunk (L * size) (r / L)).length = L * size := by
    intro n hn
    refine Bytes.length_chunk ?_
    rw [hcontents _ (hpeer n hn), ← Nat.mul_assoc]
    exact Nat.mul_le_mul_right size (Nat.mul_le_mul_right L (div_lt_of_block hr))
  rw [Hierarchy.among_railTable hmod]
  exact runs_blocks hp hbetween hinput (hcontents r hr) hd
    (fun n hn => Hierarchy.interPeer_eq hr hn hranks) hpeer hblock hnew

lemma runs_exchangeNested [TensorLibrary] {compute : Stream}
    (hp : Participant devices g (N * L) L r e) (hr : r < N * L) (hW : N * L < 0x80000000)
    (hinput : e.1.heap.Holds input (data r))
    (hbetween : e.1.heap.Holds between (List.replicate (N * L * size) 0))
    (hcell : input.cell ≠ between.cell) (hinputDevice : input.device = ownDevice e)
    (hbetweenDevice : between.device = ownDevice e)
    (hlength : ∀ p < N * L, (data p).length = N * L * size) :
    (exchangeNested (Host.platform devices) transport (.grid N L size r) input between
      (ownStream e .comm) compute).Runs g r e
      [Round.among (N * L) (Hierarchy.nodeTable N L size (Hierarchy.byDevice N L size data)) r,
        Round.among (N * L) (Hierarchy.railTable L size (Hierarchy.byNode N L size data)) r]
      fun _ e' => Leaves (fun i => i = input.cell ∨ i = between.cell) e e' ∧
        e'.1.heap.Holds input (Hierarchy.atNode N L size data r) := by
  have hpos : 0 < N * L := Nat.lt_of_le_of_lt (Nat.zero_le r) hr
  have hNlt : N < 0x80000000 :=
    Nat.lt_of_le_of_lt (Nat.le_mul_of_pos_right N (Nat.pos_of_mul_pos_left hpos)) hW
  have hLlt : L < 0x80000000 :=
    Nat.lt_of_le_of_lt (Nat.le_mul_of_pos_left L (Nat.pos_of_mul_pos_right hpos)) hW
  have hranks : N * L < Word.bound := Nat.lt_trans hW (by decide)
  have hbyDevice : ∀ p < N * L, (Hierarchy.byDevice N L size data p).length = N * L * size :=
    fun p hp => Hierarchy.length_byDevice hlength hp
  have hbyNode : ∀ p < N * L, (Hierarchy.byNode N L size data p).length = N * L * size :=
    fun p hp => Hierarchy.length_byNode hlength hp
  have hatDevice : (Hierarchy.atDevice N L size data r).length = N * L * size :=
    Hierarchy.length_atDevice hlength hr
  have hdata : L * N * size ≤ (data r).length := by rw [hlength r hr, Nat.mul_comm L]
  have hzeros : L * N * size ≤ (List.replicate (N * L * size) (0 : UInt8)).length := by
    rw [List.length_replicate, Nat.mul_comm L]
  refine .after (runs_regroupChunks hp hbetween hinput hbetweenDevice hinputDevice hdata hzeros hLlt
    hNlt (Nat.mul_comm N L ▸ hpos)) ?_
  rintro _ e₁ ⟨h₁, hbetween₁⟩
  have hbetween₁ : e₁.1.heap.Holds between (Hierarchy.byDevice N L size data r) := hbetween₁
  have hinput₁ := h₁.heap.holds _ _ hcell hinput
  refine .bind (runs_intraRound (hp.of_leaves h₁) hr hranks hbetween₁ hinput₁ hbyDevice
    (hlength r hr)) ?_
  rintro _ e₂ ⟨h₂, hinput₂⟩
  have hinput₂ : e₂.1.heap.Holds input (Hierarchy.atDevice N L size data r) := hinput₂
  have hbetween₂ := h₂.heap.holds _ _ (Ne.symm hcell) hbetween₁
  have hp₂ := (hp.of_leaves h₁).of_leaves h₂
  have hdevice : ownDevice e = ownDevice e₂ := by rw [h₂.ownDevice_eq, h₁.ownDevice_eq]
  rw [hdevice] at hinputDevice hbetweenDevice
  rw [show ownStream e .comm = ownStream e₂ .comm by rw [h₂.ownStream_eq, h₁.ownStream_eq]]
  refine .after (runs_regroupChunks hp₂ hbetween₂ hinput₂ hbetweenDevice hinputDevice hatDevice.ge
    (hbyDevice r hr).ge hNlt hLlt hpos) ?_
  rintro _ e₃ ⟨h₃, hbetween₃⟩
  have hbetween₃ : e₃.1.heap.Holds between (Hierarchy.byNode N L size data r) := hbetween₃
  have hinput₃ := h₃.heap.holds _ _ hcell hinput₂
  refine .before (runs_interRound (hp₂.of_leaves h₃) hr hranks hbetween₃ hinput₃ hbyNode
    hatDevice) ?_
  rintro _ e₄ ⟨h₄, hinput₄⟩
  refine (runs_recordStream _ _).mono ?_
  rintro _ e₅ ⟨h₅, -⟩
  constructor
  · have hfirst {e e' : HostEngine} (h : Leaves (· = input.cell) e e') :
        Leaves (fun i => i = input.cell ∨ i = between.cell) e e' := h.mono fun _ _ => Or.inl
    have hsecond {e e' : HostEngine} (h : Leaves (· = between.cell) e e') :
        Leaves (fun i => i = input.cell ∨ i = between.cell) e e' := h.mono fun _ _ => Or.inr
    exact (hsecond h₁).trans ((hfirst h₂).trans ((hsecond h₃).trans ((hfirst h₄).trans h₅.leaves)))
  · exact h₅.heap.holds _ _ id hinput₄

/-- The exchange in two rounds, after which the buffer on the way is let go of. -/
lemma runs_exchangeInPlace [TensorLibrary] {compute : Stream}
    (hp : Participant devices g (N * L) L r e) (hr : r < N * L) (hW : N * L < 0x80000000)
    (hinput : e.1.heap.Holds input (data r))
    (hbetween : e.1.heap.Holds between (List.replicate (N * L * size) 0))
    (hcell : input.cell ≠ between.cell) (hinputDevice : input.device = ownDevice e)
    (hbetweenDevice : between.device = ownDevice e)
    (hlength : ∀ p < N * L, (data p).length = N * L * size) :
    (Act.andFinally (Act.bind (exchangeNested (Host.platform devices) transport
        (.grid N L size r) input between (ownStream e .comm) compute) fun _ =>
          onPlatform ((Host.platform devices).retain input))
        (onPlatform ((Host.platform devices).release between))).Runs g r e
      [Round.among (N * L) (Hierarchy.nodeTable N L size (Hierarchy.byDevice N L size data)) r,
        Round.among (N * L) (Hierarchy.railTable L size (Hierarchy.byNode N L size data)) r]
      fun _ e' => Leaves (fun i => i = input.cell ∨ i = between.cell) e e' ∧
        e'.1.heap.Holds input (Hierarchy.direct (N * L) size data r) := by
  let Done (e' : HostEngine) : Prop :=
    Leaves (fun i => i = input.cell ∨ i = between.cell) e e' ∧
      e'.1.heap.Holds input (Hierarchy.direct (N * L) size data r)
  refine .andFinally (Q := fun _ e' => Done e') ?_ ?_
  · refine .before (runs_exchangeNested hp hr hW hinput hbetween hcell hinputDevice hbetweenDevice
      hlength) ?_
    rintro _ e₁ ⟨h₁, hheld⟩
    rw [Hierarchy.atNode_eq_direct hlength hr] at hheld
    exact .of_done (onPlatform_eq rfl) ⟨h₁, hheld⟩
  · intro _ e₁ hdone
    exact .of_done (onPlatform_eq rfl) hdone

/-- The participant can exchange its buffer, which holds these bytes, one chunk for each rank. -/
structure Exchangeable (W size : Nat) (e : HostEngine) (input : Buffer) (data : Bytes) :
    Prop where
  device : input.device = ownDevice e
  holds : e.1.heap.Holds input data
  length : data.length = W * size

def exchangeTables (N L size : Nat) (data : Nat → Bytes) : List (Nat → Nat → List Bytes) :=
  if 1 < N ∧ 1 < L then
    [Hierarchy.nodeTable N L size (Hierarchy.byDevice N L size data),
      Hierarchy.railTable L size (Hierarchy.byNode N L size data)]
  else [directTable size data]

lemma isFlat_grid (hN : 0 < N) (hL : 0 < L) :
    (Hierarchy.grid N L size r).isFlat = !decide (1 < N ∧ 1 < L) := by
  rw [Bool.eq_iff_iff]
  simp only [Hierarchy.isFlat, Hierarchy.grid, Bool.or_eq_true, beq_iff_eq, Bool.not_eq_true',
    decide_eq_false_iff_not]
  omega

lemma runs_exchangeAll [TensorLibrary] (hr : r < N * L) (hW : N * L < 0x80000000)
    (hp : Participant devices g (N * L) L r e) (h : Exchangeable (N * L) size e input (data r))
    (hlength : ∀ p < N * L, (data p).length = N * L * size) :
    (exchangeAll (Host.platform devices) transport input).Runs g r e
      ((exchangeTables N L size data).map fun table => Round.among (N * L) table r) fun out e' =>
        e'.1.heap.Holds out (Hierarchy.direct (N * L) size data r) ∧
          if 1 < N ∧ 1 < L then Leaves (fun i => i = input.cell ∨ e.1.heap.length ≤ i) e e' ∧
            out = input
          else Leaves (e.1.heap.length ≤ ·) e e' ∧ e.1.heap.length ≤ out.cell := by
  have hpos : 0 < N * L := Nat.lt_of_le_of_lt (Nat.zero_le r) hr
  have hL : 0 < L := Nat.pos_of_mul_pos_left hpos
  have hN : 0 < N := Nat.pos_of_mul_pos_right hpos
  have hcreate : Hierarchy.create (data r).length e.2.2.comm.topology =
      .ok (.grid N L size r) := by
    rw [hp.topology, hlength r hr]
    exact Hierarchy.create_eq hr
  have hsize : Buffer.sizeOf? input.dtype input.shape = some (N * L * size) :=
    hlength r hr ▸ h.holds.size
  refine .step (checkDevice_eq h.device) ?_
  refine .step (Act.outcome_done h.holds.byteCount e) ?_
  refine .step rfl ?_
  refine .step (Act.outcome_done hcreate e) ?_
  refine .step (stream_eq hp) (.step (stream_eq hp) ?_)
  refine .after (runs_recordStream _ _) ?_
  rintro _ e₁ ⟨h₁, hbase⟩
  refine .after (runs_alloc hp.device_lt hsize (hlength r hr ▸ h.holds.small)) ?_
  rintro between e₂ ⟨h₂, hbetween, hzeros⟩
  have hp₂ := (hp.of_leaves h₁).of_leaves h₂
  have hinput₂ := h₂.heap.holds _ _ id (h₁.heap.holds _ _ id h.holds)
  have hcell : between.cell = e.1.heap.length := by rw [hbetween, ← hbase]
  have hfresh : input.cell ≠ between.cell := by
    have := h.holds.cell_lt
    omega
  rw [isFlat_grid hN hL, exchangeTables]
  by_cases hboth : 1 < N ∧ 1 < L
  · simp only [hboth, and_self, decide_true, Bool.not_true, if_true]
    have hdevice : ownDevice e = ownDevice e₂ := by rw [h₂.ownDevice_eq, h₁.ownDevice_eq]
    have hstream : ownStream e .comm = ownStream e₂ .comm := by
      rw [h₂.ownStream_eq, h₁.ownStream_eq]
    have hbetweenDevice : between.device = ownDevice e₂ := by
      rw [hbetween]
      exact hdevice
    rw [hstream]
    refine .before (runs_exchangeInPlace hp₂ hr hW hinput₂ hzeros hfresh (h.device.trans hdevice)
      hbetweenDevice hlength) ?_
    rintro _ e₃ ⟨h₃, hheld⟩
    refine .pure ⟨hheld, h₁.leaves.trans (h₂.leaves.trans (h₃.mono ?_)), rfl⟩
    rintro i - (hi | hi)
    · exact .inl hi
    · exact .inr (hi ▸ Nat.le_of_eq hcell.symm)
  · simp only [hboth, decide_false, Bool.not_false, if_true, if_false]
    refine .before (Act.Runs.orElseClean (runs_exchangeFlat hp₂ hr hinput₂ hzeros hlength)) ?_
    rintro _ e₃ ⟨h₃, hheld⟩
    refine .pure ⟨hheld, h₁.leaves.trans (h₂.leaves.trans (h₃.mono ?_)), Nat.le_of_eq hcell.symm⟩
    rintro i - rfl
    exact Nat.le_of_eq hcell.symm

variable {inputs : Nat → Buffer} {es : Nat → HostEngine}

lemma lockstep_exchangeAll [TensorLibrary] (hW : N * L < 0x80000000) (hpos : 0 < N * L)
    (hp : ∀ r < N * L, Participant devices g (N * L) L r (es r))
    (h : ∀ r < N * L, Exchangeable (N * L) size (es r) (inputs r) (data r)) :
    Lockstep g (N * L) (fun r => exchangeAll (Host.platform devices) transport (inputs r)) es
      fun outs es' => ∀ r < N * L,
        (es' r).1.heap.Holds (outs r) (Hierarchy.direct (N * L) size data r) ∧
          if 1 < N ∧ 1 < L then
            Leaves (fun i => i = (inputs r).cell ∨ (es r).1.heap.length ≤ i) (es r) (es' r) ∧
              outs r = inputs r
          else Leaves ((es r).1.heap.length ≤ ·) (es r) (es' r) ∧
            (es r).1.heap.length ≤ (outs r).cell := by
  have hruns := fun r hr => runs_exchangeAll hr hW (hp r hr) (h r hr) fun p hp => (h p hp).length
  exact Lockstep.of_tables hpos _ hruns

/-- An exchange of all chunks by all ranks of `N` nodes of `L` devices. In every interleaving every
rank succeeds, and chunk `s` of what it gets is its chunk of what rank `s` has put in. With several
nodes of several devices that is in the very buffer that it has put in; else it is in a fresh one,
and the inputs stay as they are. -/
theorem exchangeAll_settles [TensorLibrary] (hN : 0 < N) (hL : 0 < L) (hW : N * L < 0x80000000)
    (hp : ∀ r < N * L, Participant devices g (N * L) L r (es r))
    (h : ∀ r < N * L, Exchangeable (N * L) size (es r) (inputs r) (data r))
    {n : Network} (hn : n.Formed g) (hq : n.Quiet g) :
    (Crowd.starting (N * L) (fun r => exchangeAll (Host.platform devices) transport (inputs r)) es
      n).Settles fun vs n' => n'.Quiet g ∧ ∃ (outs : Nat → Buffer) (es' : Nat → HostEngine),
        vs = (List.range (N * L)).map (fun r => (.ok (outs r), es' r)) ∧ ∀ r < N * L,
          (∃ c, (es' r).1.heap.Holds (outs r) c ∧ c.length = N * L * size ∧
            ∀ s < N * L, c.chunk size s = (data s).chunk size r) ∧
          if 1 < N ∧ 1 < L then outs r = inputs r
          else (es r).1.heap.length ≤ (outs r).cell ∧
            (es' r).1.heap.Holds (inputs r) (data r) := by
  have hpos : 0 < N * L := Nat.mul_pos hN hL
  have hlength : ∀ p < N * L, (data p).length = N * L * size := fun p hp => (h p hp).length
  obtain ⟨outs, es', hends, hsettles⟩ := (lockstep_exchangeAll hW hpos hp h).settles hn hq
  refine hsettles.mono ?_
  rintro vs n' ⟨hvs, -, hquiet⟩
  refine ⟨hquiet, outs, es', hvs, fun r hr => ?_⟩
  obtain ⟨hheld, hwhere⟩ := hends r hr
  constructor
  · exact ⟨_, hheld, Hierarchy.length_direct hlength hr, fun s hs =>
      Hierarchy.chunk_direct hlength hr hs⟩
  · by_cases hboth : 1 < N ∧ 1 < L
    · rw [if_pos hboth] at hwhere ⊢
      exact hwhere.2
    · rw [if_neg hboth] at hwhere ⊢
      have hcell := (h r hr).holds.cell_lt
      exact ⟨hwhere.2, hwhere.1.heap.holds _ _ (by omega) (h r hr).holds⟩

def fourChunks (r : Nat) : Bytes := (List.range 4).map fun s => .ofNat (4 * r + s + 1)

open StandIn in
theorem exchangeAll_settles_two_by_two :
    ∃ es : Nat → HostEngine,
      (∀ r < 4, joined 4 .none [] 4 2 r r 0 [⟨.host (fourChunks r), [], 1⟩] = some (es r)) ∧
      (Crowd.starting 4 (fun r => exchangeAll (Host.platform 4) transport ⟨.u8, [4], r, 0⟩) es
        (.assembled [] 4)).Settles fun vs n' => n'.Quiet [] ∧ ∃ es' : Nat → HostEngine,
          vs = (List.range 4).map (fun r => (.ok ⟨.u8, [4], r, 0⟩, es' r)) ∧ ∀ r < 4,
            (es' r).1.heap.Holds ⟨.u8, [4], r, 0⟩
              ((List.range 4).map fun s => .ofNat (4 * s + r + 1)) := by
  obtain ⟨es, hes⟩ := exists_group (g := []) (W := 4) (L := 2) .none 0
    (fun r => [⟨.host (fourChunks r), [], 1⟩]) (Nat.le_refl 4)
  refine ⟨es, fun r hr => (hes r hr).1, ?_⟩
  have h : ∀ r < 2 * 2, Exchangeable (2 * 2) 1 (es r) ⟨.u8, [4], r, 0⟩ (fourChunks r) := by
    intro r hr
    obtain ⟨-, hheap, -, hdevice, -⟩ := hes r hr
    refine ⟨hdevice.symm, ?_, rfl⟩
    rw [hheap]
    exact ⟨⟨[], 1, rfl⟩, rfl, show 4 ≤ Word.allocationBound by decide⟩
  have hp : ∀ r < 2 * 2, Participant 4 [] (2 * 2) 2 r (es r) := fun r hr => (hes r hr).2.2.2.2
  refine (exchangeAll_settles (by decide) (by decide) (by decide) hp h
    (Network.formed_assembled [] 4) (Network.quiet_assembled [] 4)).mono ?_
  rintro vs n' ⟨hquiet, outs, es', hvs, hends⟩
  have houts : ∀ r < 4, outs r = ⟨.u8, [4], r, 0⟩ := fun r hr => (hends r hr).2
  refine ⟨hquiet, es', ?_, fun r hr => ?_⟩
  · rw [hvs]
    refine List.map_congr_left fun r hr => ?_
    rw [houts r (List.mem_range.1 hr)]
  · obtain ⟨⟨c, hheld, hlength, hchunks⟩, -⟩ := hends r hr
    have hbytes : c = (List.range 4).map fun s => .ofNat (4 * s + r + 1) := by
      refine Bytes.ext_chunk (show _ = 4 * 1 from hlength) rfl fun s hs => ?_
      rw [hchunks s hs]
      interval_cases r <;> interval_cases s <;> rfl
    rw [houts r hr, hbytes] at hheld
    exact hheld

end Scheduler

end ExpertExchange
