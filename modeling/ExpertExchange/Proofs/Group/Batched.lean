import ExpertExchange.Proofs.Group.Member
import Mathlib.Algebra.BigOperators.Group.List.Basic
import Mathlib.Algebra.GroupWithZero.Nat

/-!
# What batched exchanges do

A batch is a list of pairs of an input and an output, and takes one round for each pair. The parts
of a buffer lie one after the other, in rank order.
-/

namespace ExpertExchange

namespace Word

variable {a n : Nat}

lemma foldlM_add? {ns : List Nat} (h : a + ns.sum < bound) :
    ns.foldlM add? a = some (a + ns.sum) := by
  induction ns generalizing a with
  | nil => rfl
  | cons k ns ih =>
    rw [List.sum_cons, ← Nat.add_assoc] at h
    rw [List.foldlM_cons, add?_eq (by omega), List.sum_cons, ← Nat.add_assoc]
    exact ih h

end Word

namespace Communicator

open SimulatedLink

variable {devices W r i k n size : Nat} {g : Bytes} {t : Dtype} {op : String}
  {q q' : HostState × Communicator SimulatedLink} {a b : Buffer} {c d : Bytes}
  {ins outs sizes : List Nat} {inputs outputs : List Buffer} {stream : Stream}

def partRange (size : Nat) (sizes : List Nat) (i : Nat) : ByteRange :=
  ⟨(sizes.take i).sum * size, (sizes.take (i + 1)).sum * size⟩

lemma sum_take_le (sizes : List Nat) (i : Nat) : (sizes.take i).sum ≤ sizes.sum := by
  rw [← List.sum_take_add_sum_drop sizes i]
  exact Nat.le_add_right _ _

lemma sum_take_succ (h : sizes[i]? = some n) :
    (sizes.take (i + 1)).sum = (sizes.take i).sum + n := by
  obtain ⟨hi, rfl⟩ := List.getElem?_eq_some_iff.1 h
  exact List.sum_take_succ sizes i hi

lemma length_partRange (h : sizes[i]? = some n) : (partRange size sizes i).length = n * size := by
  rw [ByteRange.length, partRange, sum_take_succ h, Nat.add_mul, Nat.add_sub_cancel_left]

lemma partRange_within (hn : sizes.sum * size ≤ n) : (partRange size sizes i).Within n := by
  constructor
  · refine Nat.mul_le_mul_right size ?_
    rw [List.take_add_one, List.sum_append]
    exact Nat.le_add_right _ _
  · exact Nat.le_trans (Nat.mul_le_mul_right size (sum_take_le sizes (i + 1))) hn

/-- The transfers of a pair, by index. -/
lemma exchangeParts_eq [TensorLibrary] {peer sent received : Nat} (pairs : List (Nat × Nat)) :
    exchangeParts transport stream size a b peer sent received pairs =
      Act.forEach (List.range pairs.length) fun i =>
        Act.bind (send a ⟨sent + ((pairs.take i).map (·.1)).sum * size,
          sent + ((pairs.take (i + 1)).map (·.1)).sum * size⟩ (peer + i) stream) fun _ =>
        recv b ⟨received + ((pairs.take i).map (·.2)).sum * size,
          received + ((pairs.take (i + 1)).map (·.2)).sum * size⟩ (peer + i) stream := by
  induction pairs generalizing peer sent received with
  | nil => rfl
  | cons pair rest ih =>
    obtain ⟨out, back⟩ := pair
    rw [List.length_cons, Act.forEach_range_succ, exchangeParts, ih, Act.bind_assoc]
    simp only [List.take_succ_cons, List.map_cons, List.sum_cons, List.take_zero, List.map_nil,
      List.sum_nil, Nat.zero_mul, Nat.add_zero, Nat.add_mul, ← Nat.add_assoc,
      Nat.add_right_comm peer]
    rfl

lemma queues_exchangeParts [TensorLibrary] {n' : Nat} {payload : Nat → Bytes}
    (hins : ins.length = W) (houts : outs.length = W) (ha : Buffer.sizeOf? a.dtype a.shape = some n)
    (hn : ins.sum * size ≤ n) (hb : Buffer.sizeOf? b.dtype b.shape = some n')
    (hn' : outs.sum * size ≤ n') :
    Queues W stream.kind (exchangeParts transport stream size a b 0 0 0 (ins.zip outs))
      ((List.range W).flatMap fun p => [(p, partRange size ins p)].map (.sending a) ++
        [⟨p, partRange size outs p, payload p⟩].map (.receiving b)) := by
  have hlength : (ins.zip outs).length = W := by rw [List.length_zip, hins, houts, Nat.min_self]
  rw [exchangeParts_eq, hlength]
  refine .forEach fun p hp => ?_
  have hp := List.mem_range.1 hp
  simp only [List.map_take, List.map_fst_zip (Nat.le_of_eq (hins.trans houts.symm)),
    List.map_snd_zip (Nat.le_of_eq (houts.trans hins.symm)), Nat.zero_add]
  refine (queues_send ⟨hp, n, ha, partRange_within hn⟩).bind ?_
  exact queues_recv (p := ⟨p, partRange size outs p, payload p⟩) ⟨hp, n', hb, partRange_within hn'⟩

def exchangeEvents (kind : StreamKind) (size : Nat) (ins outs : List Nat) : List TraceEvent :=
  .groupStart :: (List.range ins.length).flatMap (fun p =>
    [.send p (partRange size ins p) kind, .recv p (partRange size outs p) kind]) ++ [.groupEnd]

/-- What goes from whom to whom in one round of a batched all-to-all. -/
def partTable (size : Nat) (ins : Nat → List Nat) (c : Nat → Bytes) (p q : Nat) : List Bytes :=
  [(c p).slice (partRange size (ins p) q)]

/-- The round of one pair of an input and an output. -/
lemma runs_exchangeParts [TensorLibrary] (stream : Stream) {allIns : Nat → List Nat}
    {contents : Nat → Bytes} {outs : List Nat} (hm : Member devices g W r q) (hr : r < W)
    (ha : q.1.heap.Holds a (contents r)) (hb : q.1.heap.Holds b d)
    (hins : ∀ p < W, (allIns p).length = W) (houts : outs.length = W)
    (hmatch : ∀ p < W, (allIns p)[r]? = outs[p]?)
    (hsent : ∀ p < W, (allIns p).sum * size ≤ (contents p).length)
    (hreceived : outs.sum * size ≤ d.length) :
    (onLink (inRound transport (exchangeParts transport stream size a b 0 0 0
      ((allIns r).zip outs)))).Runs g r q [Round.among W (partTable size allIns contents) r]
      fun _ q' => Kept (· = b.cell) q q' ∧ q'.1.heap.Holds b (d.overwriteAll
        (placed ((List.range W).flatMap fun p => [⟨p, partRange size outs p,
          (contents p).slice (partRange size (allIns p) r)⟩]))) ∧
        q'.1.trace = q.1.trace ++ exchangeEvents stream.kind size (allIns r) outs := by
  have hevents : exchangeEvents stream.kind size (allIns r) outs =
      .groupStart :: roundEvents stream.kind (fun p => [(p, partRange size (allIns r) p)])
      (fun p => [⟨p, partRange size outs p, (contents p).slice (partRange size (allIns p) r)⟩])
      (List.range W) ++ [.groupEnd] := by
    rw [exchangeEvents, hins r hr]
    rfl
  rw [hevents]
  refine runs_among hm ha hb (queues_exchangeParts (hins r hr) houts ha.size (hsent r hr) hb.size
    hreceived) (fun _ _ => rfl) (fun _ _ => rfl) (fun p hp x hx => ?_) fun p hp x hx => ?_
  · obtain rfl := List.mem_singleton.1 hx
    exact partRange_within (hsent r hr)
  obtain rfl := List.mem_singleton.1 hx
  have hpart : outs[p]? = some outs[p] := List.getElem?_eq_getElem (houts ▸ hp)
  have hwithin : (partRange size outs p).Within d.length := partRange_within hreceived
  have hlength : ((contents p).slice (partRange size (allIns p) r)).length =
      (partRange size outs p).length := by
    rw [Bytes.length_slice (partRange_within (hsent p hp)), length_partRange hpart,
      length_partRange ((hmatch p hp).trans hpart)]
  exact ⟨hlength, hwithin⟩

/-- What is sent of a part that may be empty. -/
def optional {α : Type} (count : Nat) (x : α) : List α := if 0 < count then [x] else []

lemma mem_optional {α : Type} {count : Nat} {x y : α} :
    y ∈ optional count x ↔ 0 < count ∧ y = x := by
  unfold optional
  split <;> simp [*]

/-- The transfers of a pair, by index. -/
lemma gatherParts_eq [TensorLibrary] {own peer received : Nat} (sizes : List Nat) :
    gatherParts transport stream size own a b peer received sizes =
      Act.forEach (List.range sizes.length) fun i =>
        Act.bind (if 0 < own then send a ⟨0, own * size⟩ (peer + i) stream else pure ()) fun _ =>
        if 0 < sizes.getD i 0 then
          recv b ⟨received + (sizes.take i).sum * size,
            received + (sizes.take (i + 1)).sum * size⟩ (peer + i) stream
        else pure () := by
  induction sizes generalizing peer received with
  | nil => rfl
  | cons count rest ih =>
    rw [List.length_cons, Act.forEach_range_succ, gatherParts, ih, Act.bind_assoc]
    simp only [List.take_succ_cons, List.sum_cons, List.take_zero, List.sum_nil, Nat.zero_mul,
      Nat.add_zero, Nat.add_mul, ← Nat.add_assoc, Nat.add_right_comm peer, List.getD_cons_zero,
      List.getD_cons_succ]
    rfl

lemma queues_optional {m : LinkAct Unit} {x : Transfer} {kind : StreamKind} {count : Nat}
    (h : Queues W kind m [x]) :
    Queues W kind (if 0 < count then m else pure ()) (optional count x) := by
  unfold optional
  split
  · exact h
  · exact .nil

lemma map_optional {α β : Type} (f : α → β) (count : Nat) (x : α) :
    (optional count x).map f = optional count (f x) := by
  unfold optional
  split <;> rfl

lemma queues_gatherParts [TensorLibrary] {own n' : Nat} {payload : Nat → Bytes}
    (hsizes : sizes.length = W) (ha : Buffer.sizeOf? a.dtype a.shape = some n) (hn : own * size ≤ n)
    (hb : Buffer.sizeOf? b.dtype b.shape = some n') (hn' : sizes.sum * size ≤ n') :
    Queues W stream.kind (gatherParts transport stream size own a b 0 0 sizes)
      ((List.range W).flatMap fun p =>
        (optional own (p, ⟨0, own * size⟩)).map (.sending a) ++
        (optional (sizes.getD p 0) ⟨p, partRange size sizes p, payload p⟩).map
          (.receiving b)) := by
  rw [gatherParts_eq, hsizes]
  refine .forEach fun p hp => ?_
  have hp := List.mem_range.1 hp
  simp only [Nat.zero_add, map_optional]
  have hrange : (ByteRange.mk 0 (own * size)).Within n := ⟨Nat.zero_le _, hn⟩
  refine (queues_optional (queues_send ⟨hp, n, ha, hrange⟩)).bind ?_
  exact queues_optional (queues_recv (p := ⟨p, partRange size sizes p, payload p⟩)
    ⟨hp, n', hb, partRange_within hn'⟩)

/-- What the trace says of one round of a batched all-gather, on a rank that contributes `own`
elements. -/
def gatherEvents (kind : StreamKind) (size own : Nat) (sizes : List Nat) : List TraceEvent :=
  .groupStart :: (List.range sizes.length).flatMap (fun p =>
    optional own (.send p ⟨0, own * size⟩ kind) ++
      optional (sizes.getD p 0) (.recv p (partRange size sizes p) kind)) ++ [.groupEnd]

/-- What goes from whom to whom in one round of a batched all-gather. -/
def contributionTable (size : Nat) (sizes : List Nat) (c : Nat → Bytes) (p _ : Nat) : List Bytes :=
  optional (sizes.getD p 0) ((c p).slice ⟨0, sizes.getD p 0 * size⟩)

/-- The round of one pair of an input and an output. -/
lemma runs_gatherParts [TensorLibrary] (stream : Stream) {contents : Nat → Bytes}
    (hm : Member devices g W r q) (hr : r < W) (ha : q.1.heap.Holds a (contents r))
    (hb : q.1.heap.Holds b d) (hsizes : sizes.length = W)
    (hsent : ∀ p < W, sizes.getD p 0 * size ≤ (contents p).length)
    (hreceived : sizes.sum * size ≤ d.length) :
    (onLink (inRound transport (gatherParts transport stream size (sizes.getD r 0) a b 0 0
      sizes))).Runs g r q [Round.among W (contributionTable size sizes contents) r]
      fun _ q' => Kept (· = b.cell) q q' ∧ q'.1.heap.Holds b (d.overwriteAll
        (placed ((List.range W).flatMap fun p => optional (sizes.getD p 0) ⟨p,
          partRange size sizes p, (contents p).slice ⟨0, sizes.getD p 0 * size⟩⟩))) ∧
        q'.1.trace = q.1.trace ++ gatherEvents stream.kind size (sizes.getD r 0) sizes := by
  have hevents : gatherEvents stream.kind size (sizes.getD r 0) sizes =
      .groupStart :: roundEvents stream.kind
      (fun p => optional (sizes.getD r 0) (p, ⟨0, sizes.getD r 0 * size⟩))
      (fun p => optional (sizes.getD p 0) ⟨p, partRange size sizes p,
        (contents p).slice ⟨0, sizes.getD p 0 * size⟩⟩)
      (List.range W) ++ [.groupEnd] := by
    simp only [gatherEvents, roundEvents, hsizes, map_optional]
  rw [hevents]
  refine runs_among hm ha hb (queues_gatherParts hsizes ha.size (hsent r hr) hb.size hreceived)
    (fun _ _ => ?_) (fun _ _ => ?_) (fun p hp x hx => ?_) fun p hp x hx => ?_
  · rw [map_optional, contributionTable, map_optional]
  · rw [map_optional, contributionTable, map_optional]
  · rw [(mem_optional.1 hx).2]
    exact ⟨Nat.zero_le _, hsent r hr⟩
  · obtain ⟨-, rfl⟩ := mem_optional.1 hx
    have hpart : sizes[p]? = some (sizes.getD p 0) := by
      rw [List.getD_eq_getElem?_getD, List.getElem?_eq_getElem (hsizes ▸ hp), Option.getD_some]
    have hwithin : (partRange size sizes p).Within d.length := partRange_within hreceived
    have hlength : ((contents p).slice ⟨0, sizes.getD p 0 * size⟩).length =
        (partRange size sizes p).length := by
      rw [Bytes.length_slice ⟨Nat.zero_le _, hsent p hp⟩, length_partRange hpart]
      rfl
    exact ⟨hlength, hwithin⟩

/-- `k` pairs of buffers of type `t`, whose inputs have `sent` elements at least, all the same
number, and whose outputs have `received` elements at least. -/
structure Batch (t : Dtype) (k sent received : Nat)
    (q : HostState × Communicator SimulatedLink) (inputs outputs : List Buffer) : Prop where
  inputs_length : inputs.length = k
  outputs_length : outputs.length = k
  input : ∀ b ∈ inputs, b.dtype = t ∧ b.device = q.2.link.device ∧ q.1.heap.Live b
  output : ∀ b ∈ outputs, b.dtype = t ∧ b.device = q.2.link.device ∧ q.1.heap.Live b
  count : ∃ n, sent ≤ n ∧ ∀ b ∈ inputs, Word.product? b.shape = some n
  capacity : ∀ b ∈ outputs, ∃ n, received ≤ n ∧ Word.product? b.shape = some n

variable {sent received : Nat}

lemma Batch.of_live (hb : Batch t k sent received q inputs outputs) (hcomm : q'.2 = q.2)
    (hlive : ∀ b, q.1.heap.Live b → q'.1.heap.Live b) :
    Batch t k sent received q' inputs outputs where
  inputs_length := hb.inputs_length
  outputs_length := hb.outputs_length
  input b hmem := by
    obtain ⟨htype, hdevice, hb⟩ := hb.input b hmem
    exact ⟨htype, hcomm ▸ hdevice, hlive b hb⟩
  output b hmem := by
    obtain ⟨htype, hdevice, hb⟩ := hb.output b hmem
    exact ⟨htype, hcomm ▸ hdevice, hlive b hb⟩
  count := hb.count
  capacity := hb.capacity

/-- The bytes of a buffer whose elements are counted. -/
lemma count_mul_size (hn : Word.product? b.shape = some n) (hc : q.1.heap.Holds b c) :
    n * b.dtype.size = c.length ∧ n < Word.bound :=
  ⟨(Buffer.sizeOf?_eq_count_mul hc.size hn).symm, Word.product?_lt hn⟩

lemma Batch.sent_le (hb : Batch t k sent received q inputs outputs) (hmem : b ∈ inputs)
    (hc : q.1.heap.Holds b c) : sent * t.size ≤ c.length := by
  obtain ⟨n, hn, hcount⟩ := hb.count
  rw [← (count_mul_size (hcount b hmem) hc).1, (hb.input b hmem).1]
  exact Nat.mul_le_mul_right _ hn

lemma Batch.received_le (hb : Batch t k sent received q inputs outputs) (hmem : b ∈ outputs)
    (hc : q.1.heap.Holds b c) : received * t.size ≤ c.length := by
  obtain ⟨n, hn, hcount⟩ := hb.capacity b hmem
  rw [← (count_mul_size hcount hc).1, (hb.output b hmem).1]
  exact Nat.mul_le_mul_right _ hn

lemma total_eq (h : sizes.sum < Word.bound) (hbytes : sizes.sum * size < Word.bound) :
    total op sizes size = .ok sizes.sum := by
  have hsum : sizes.foldlM Word.add? 0 = some (0 + sizes.sum) := Word.foldlM_add? (by omega)
  simp only [total, total?, hsum, Nat.zero_add, Option.bind_eq_bind, Option.bind_some,
    Word.mul?_eq hbytes, Outcome.orError]
  rfl

lemma checkCapacity_eq {needed : Nat} {bs : List Buffer}
    (h : ∀ b ∈ bs, ∃ n, needed ≤ n ∧ Word.product? b.shape = some n) :
    checkCapacity (S := Net) op needed bs q = .done (.ok (), q) := by
  refine Act.forEach_done fun b hb => ?_
  obtain ⟨n, hle, hn⟩ := h b hb
  have hcount : b.count = (.ok n : Outcome ExchangeError Nat) := by
    rw [Buffer.count, Word.product, hn, Outcome.orFault]
  exact (Act.bind_done (Act.outcome_done hcount q)).trans (Act.ensure_done hle _ q)

lemma checkCounts_eq {first : Buffer} {bs : List Buffer}
    (hfirst : Word.product? first.shape = some n) (h : ∀ b ∈ bs, Word.product? b.shape = some n) :
    checkCounts (S := Net) op first bs q = .done (.ok (), q) := by
  have hcount {b : Buffer} (hb : Word.product? b.shape = some n) :
      b.count = (.ok n : Outcome ExchangeError Nat) := by
    rw [Buffer.count, Word.product, hb, Outcome.orFault]
  refine Act.forEach_done fun b hb => ?_
  refine (Act.bind_done (Act.outcome_done (hcount (h b hb)) q)).trans ?_
  refine (Act.bind_done (Act.outcome_done (hcount hfirst) q)).trans ?_
  exact Act.ensure_done rfl _ q

lemma checkBatch_eq [TensorLibrary] {first : Buffer} {rest : List Buffer}
    (hb : Batch t k sent received q (first :: rest) outputs) :
    checkBatch transport op (first :: rest) outputs q = .done (.ok (some t), q) := by
  have hfirst : first.dtype = t := (hb.input first List.mem_cons_self).1
  obtain ⟨n, -, hcount⟩ := hb.count
  have halike : ∀ b ∈ first :: rest ++ outputs, b.dtype = first.dtype ∧
      b.device = q.2.link.device := by
    intro b hmem
    rw [hfirst]
    rcases List.mem_append.1 hmem with hmem | hmem
    · exact ⟨(hb.input b hmem).1, (hb.input b hmem).2.1⟩
    · exact ⟨(hb.output b hmem).1, (hb.output b hmem).2.1⟩
  have hpairs : (first :: rest).length = outputs.length :=
    hb.inputs_length.trans hb.outputs_length.symm
  refine (Act.bind_done (Act.ensure_done hpairs _ q)).trans ?_
  refine (Act.bind_done (checkAlike_eq halike)).trans ?_
  refine (Act.bind_done (checkCounts_eq (hcount first List.mem_cons_self) hcount)).trans ?_
  rw [hfirst]
  rfl

lemma checkBatch_nil [TensorLibrary] (h : outputs.length = 0) :
    checkBatch transport op [] outputs q = .done (.ok none, q) :=
  Act.bind_done (Act.ensure_done h.symm _ q)

/-- The totals of a batch that is not empty are words. -/
lemma Batch.words {first : Buffer} {rest : List Buffer}
    (hb : Batch t k sent received q (first :: rest) outputs) :
    (sent < Word.bound ∧ sent * t.size < Word.bound) ∧
      received < Word.bound ∧ received * t.size < Word.bound := by
  have houtputs : 0 < outputs.length := by
    rw [hb.outputs_length, ← hb.inputs_length]
    exact Nat.succ_pos _
  obtain ⟨out, more, rfl⟩ := List.exists_cons_of_length_pos houtputs
  constructor
  · obtain ⟨c, hc⟩ := (hb.input first List.mem_cons_self).2.2
    obtain ⟨n, hn, hcount⟩ := hb.count
    have hle := hb.sent_le List.mem_cons_self hc
    have := (count_mul_size (hcount first List.mem_cons_self) hc).2
    exact ⟨by omega, Nat.lt_of_le_of_lt hle hc.length_lt⟩
  · obtain ⟨c, hc⟩ := (hb.output out List.mem_cons_self).2.2
    obtain ⟨n, hn, hcount⟩ := hb.capacity out List.mem_cons_self
    have hle := hb.received_le List.mem_cons_self hc
    have := (count_mul_size hcount hc).2
    exact ⟨by omega, Nat.lt_of_le_of_lt hle hc.length_lt⟩

/-- With all checks passed a batched all-to-all is one round after the other. -/
lemma allToAll_eq [TensorLibrary] (hm : Member devices g W r q)
    (hb : Batch t k ins.sum outs.sum q inputs outputs) (hins : ins.length = W)
    (houts : outs.length = W) :
    allToAll (Host.platform devices) transport inputs outputs ins outs q =
      Act.forEach (inputs.zip outputs) (fun pair => onLink (inRound transport
        (exchangeParts transport (ownStream q .compute) t.size pair.1 pair.2 0 0 0
          (ins.zip outs)))) q := by
  have hentries {list : String} {sizes : List Nat} (h : sizes.length = W) :
      checkEntries "batch_all_to_all_variable" list q.2.topology.worldSize sizes = .ok () :=
    if_pos (h.trans hm.worldSize.symm)
  refine (Act.bind_done rfl).trans ?_
  refine (Act.bind_done (Act.outcome_done (hentries hins) q)).trans ?_
  refine (Act.bind_done (Act.outcome_done (hentries houts) q)).trans ?_
  cases inputs with
  | nil => exact Act.bind_done (checkBatch_nil (hb.outputs_length.trans hb.inputs_length.symm))
  | cons first rest =>
    have hwords := hb.words
    refine (Act.bind_done (checkBatch_eq hb)).trans ?_
    refine (Act.bind_done (Act.outcome_done (total_eq hwords.1.1 hwords.1.2) q)).trans ?_
    refine (Act.bind_done (checkCapacity_eq fun b hmem => ?_)).trans ?_
    · obtain ⟨n, hn, hcount⟩ := hb.count
      exact ⟨n, hn, hcount b hmem⟩
    refine (Act.bind_done (Act.outcome_done (total_eq hwords.2.1 hwords.2.2) q)).trans ?_
    refine (Act.bind_done (checkCapacity_eq hb.capacity)).trans ?_
    exact Act.bind_done (stream_eq hm)

/-- With all checks passed a batched all-gather is one round after the other. -/
lemma allGather_eq [TensorLibrary] (hm : Member devices g W r q) (hr : r < W)
    (hb : Batch t k (sizes.getD r 0) sizes.sum q inputs outputs) (hsizes : sizes.length = W) :
    allGather (Host.platform devices) transport inputs outputs sizes q =
      Act.forEach (inputs.zip outputs) (fun pair => onLink (inRound transport
        (gatherParts transport (ownStream q .compute) t.size (sizes.getD r 0) pair.1 pair.2 0 0
          sizes))) q := by
  have hentries : checkEntries "batch_all_gather_variable" "out_sizes" q.2.topology.worldSize
      sizes = .ok () := if_pos (hsizes.trans hm.worldSize.symm)
  have hown : (Outcome.orFault sizes[q.2.topology.rank]? : Outcome ExchangeError Nat) =
      .ok (sizes.getD r 0) := by
    rw [hm.rank, List.getD_eq_getElem?_getD, List.getElem?_eq_getElem (hsizes ▸ hr)]
    rfl
  refine (Act.bind_done rfl).trans ?_
  refine (Act.bind_done (Act.outcome_done hentries q)).trans ?_
  cases inputs with
  | nil => exact Act.bind_done (checkBatch_nil (hb.outputs_length.trans hb.inputs_length.symm))
  | cons first rest =>
    have hwords := hb.words
    refine (Act.bind_done (checkBatch_eq hb)).trans ?_
    refine (Act.bind_done (Act.outcome_done hown q)).trans ?_
    refine (Act.bind_done (Act.outcome_done (total_eq hwords.2.1 hwords.2.2) q)).trans ?_
    refine (Act.bind_done (checkCapacity_eq hb.capacity)).trans ?_
    refine (Act.bind_done (checkCapacity_eq fun b hmem => ?_)).trans ?_
    · obtain ⟨n, hn, hcount⟩ := hb.count
      exact ⟨n, hn, hcount b hmem⟩
    exact Act.bind_done (stream_eq hm)

variable {qs : Nat → HostState × Communicator SimulatedLink} {sents receiveds : Nat → Nat}
  {inputs outputs : Nat → List Buffer} {allIns allOuts : Nat → List Nat}

/-- One round for each pair, on all ranks. -/
lemma lockstep_pairs {f : Nat → Buffer × Buffer →
      Act Net (HostState × Communicator SimulatedLink) ExchangeError Unit} (hW : 0 < W)
    (hm : ∀ r < W, Member devices g W r (qs r))
    (hb : ∀ r < W, Batch t k (sents r) (receiveds r) (qs r) (inputs r) (outputs r))
    (hround : ∀ (qs' : Nat → HostState × Communicator SimulatedLink) (a b : Nat → Buffer)
      (c d : Nat → Bytes), (∀ r < W, Member devices g W r (qs' r)) →
      (∀ r < W, Batch t k (sents r) (receiveds r) (qs' r) (inputs r) (outputs r)) →
      (∀ r < W, a r ∈ inputs r ∧ (qs' r).1.heap.Holds (a r) (c r)) →
      (∀ r < W, b r ∈ outputs r ∧ (qs' r).1.heap.Holds (b r) (d r)) →
      ∃ table, ∀ r < W, (f r (a r, b r)).Runs g r (qs' r) [Round.among W table r] fun _ q' =>
        Kept (· = (b r).cell) (qs' r) q' ∧ q'.1.heap.Live (b r)) :
    Lockstep g W (fun r => Act.forEach ((inputs r).zip (outputs r)) (f r)) qs fun _ qs' =>
      ∀ r < W, Kept (fun _ => True) (qs r) (qs' r) := by
  let I (_ : Nat) (qs' : Nat → HostState × Communicator SimulatedLink) : Prop :=
    ∀ r < W, Kept (fun _ => True) (qs r) (qs' r) ∧
      Batch t k (sents r) (receiveds r) (qs' r) (inputs r) (outputs r)
  have hstart : I 0 qs := fun r hr => ⟨.refl _, hb r hr⟩
  refine (Lockstep.forEach (k := k) (I := I) hW (fun r hr => ?_) hstart ?_).mono ?_
  · rw [List.length_zip, (hb r hr).inputs_length, (hb r hr).outputs_length, Nat.min_self]
  · intro i _ x hx qs' hI
    have hmem : ∀ r < W, (x r).1 ∈ inputs r ∧ (x r).2 ∈ outputs r := fun r hr =>
      List.of_mem_zip (List.mem_of_getElem? (hx r hr))
    have hinput : ∀ r < W, ∃ c, (qs' r).1.heap.Holds (x r).1 c := fun r hr =>
      ((hI r hr).2.input _ (hmem r hr).1).2.2
    have houtput : ∀ r < W, ∃ d, (qs' r).1.heap.Holds (x r).2 d := fun r hr =>
      ((hI r hr).2.output _ (hmem r hr).2).2.2
    choose! c hc using hinput
    choose! d hd using houtput
    obtain ⟨table, hruns⟩ := hround qs' (fun r => (x r).1) (fun r => (x r).2) c d
      (fun r hr => (hm r hr).of_kept (hI r hr).1) (fun r hr => (hI r hr).2)
      (fun r hr => ⟨(hmem r hr).1, hc r hr⟩) (fun r hr => ⟨(hmem r hr).2, hd r hr⟩)
    refine (Lockstep.of_tables hW [table] hruns).mono fun _ qs'' hends r hr => ?_
    obtain ⟨hkept, d', hd'⟩ := hends r hr
    have hlive : ∀ b, (qs' r).1.heap.Live b → (qs'' r).1.heap.Live b := fun _ =>
      hkept.heap.live (hd r hr) hd'
    constructor
    · exact (hI r hr).1.trans (hkept.mono fun _ _ _ => trivial)
    · exact (hI r hr).2.of_live hkept.comm hlive
  · exact fun _ qs' hI r hr => (hI r hr).1

/-- A batched all-to-all with sizes that agree. -/
lemma lockstep_allToAll [TensorLibrary] (hW : 0 < W) (hm : ∀ r < W, Member devices g W r (qs r))
    (hb : ∀ r < W, Batch t k (allIns r).sum (allOuts r).sum (qs r) (inputs r) (outputs r))
    (hins : ∀ r < W, (allIns r).length = W) (houts : ∀ r < W, (allOuts r).length = W)
    (hmatch : ∀ p < W, ∀ r < W, (allIns p)[r]? = (allOuts r)[p]?) :
    Lockstep g W (fun r => allToAll (Host.platform devices) transport (inputs r) (outputs r)
      (allIns r) (allOuts r)) qs fun _ qs' => ∀ r < W, Kept (fun _ => True) (qs r) (qs' r) := by
  refine Lockstep.congr (lockstep_pairs hW hm hb ?_) fun r hr =>
    allToAll_eq (hm r hr) (hb r hr) (hins r hr) (houts r hr)
  intro qs' a b c d hm' hb' ha hb''
  refine ⟨partTable t.size allIns c, fun r hr => ?_⟩
  refine (runs_exchangeParts _ (hm' r hr) hr (ha r hr).2 (hb'' r hr).2 hins (houts r hr)
    (fun p hp => hmatch p hp r hr) (fun p hp => (hb' p hp).sent_le (ha p hp).1 (ha p hp).2)
    ((hb' r hr).received_le (hb'' r hr).1 (hb'' r hr).2)).mono ?_
  rintro _ q' ⟨hkept, hheld, -⟩
  exact ⟨hkept, _, hheld⟩

/-- A batched all-gather with the same sizes on all ranks. -/
lemma lockstep_allGather [TensorLibrary] (hW : 0 < W) (hm : ∀ r < W, Member devices g W r (qs r))
    (hb : ∀ r < W, Batch t k (sizes.getD r 0) sizes.sum (qs r) (inputs r) (outputs r))
    (hsizes : sizes.length = W) :
    Lockstep g W (fun r => allGather (Host.platform devices) transport (inputs r) (outputs r)
      sizes) qs fun _ qs' => ∀ r < W, Kept (fun _ => True) (qs r) (qs' r) := by
  refine Lockstep.congr (lockstep_pairs hW hm hb ?_) fun r hr =>
    allGather_eq (hm r hr) hr (hb r hr) hsizes
  intro qs' a b c d hm' hb' ha hb''
  refine ⟨contributionTable t.size sizes c, fun r hr => ?_⟩
  refine (runs_gatherParts _ (hm' r hr) hr (ha r hr).2 (hb'' r hr).2 hsizes
    (fun p hp => (hb' p hp).sent_le (ha p hp).1 (ha p hp).2)
    ((hb' r hr).received_le (hb'' r hr).1 (hb'' r hr).2)).mono ?_
  rintro _ q' ⟨hkept, hheld, -⟩
  exact ⟨hkept, _, hheld⟩

end Communicator

end ExpertExchange
