import ExpertExchange.Proofs.Group.Batched
import ExpertExchange.StandIn.Tensors
import Mathlib.Tactic.IntervalCases

/-!
# What batched exchanges deliver

After a batched exchange every output starts with what the ranks have sent for it, packed in rank
order, and ends with the bytes it had there before. Nothing else changes on any rank. The offsets
are running sums of the sizes on the sending and on the receiving side, so that what one rank cuts
out of its input is as long as the gap that the other rank has left for it.
-/

namespace ExpertExchange

/-- The `count` elements of `size` bytes each from element `start` on. -/
def Bytes.elements (size start count : Nat) (b : Bytes) : Bytes :=
  b.slice ⟨start * size, (start + count) * size⟩

/-- A transfer from an input or into an output touches only bytes that the buffer has. -/
def TraceEvent.Inside (input output : Nat) : TraceEvent → Prop
  | .send _ range _ => range.Within input
  | .recv _ range _ => range.Within output
  | _ => True

def Trace.sendCount (t : Trace) : Nat :=
  t.countP fun
    | .send _ _ _ => true
    | _ => false

namespace Communicator

open SimulatedLink

variable {devices W r k p : Nat} {g : Bytes} {t : Dtype}
  {q q' : HostState × Communicator SimulatedLink} {events : List TraceEvent}

/-- The sizes of all ranks, in rank order. -/
def sizeList (W : Nat) (n : Nat → Nat) : List Nat := (List.range W).map n

/-- How many elements the ranks before rank `p` have. -/
def before (n : Nat → Nat) (p : Nat) : Nat := (sizeList p n).sum

variable {n : Nat → Nat}

@[simp] lemma length_sizeList (W : Nat) (n : Nat → Nat) : (sizeList W n).length = W := by
  rw [sizeList, List.length_map, List.length_range]

lemma getElem?_sizeList (hp : p < W) : (sizeList W n)[p]? = some (n p) := by
  rw [sizeList, List.getElem?_map, List.getElem?_range hp, Option.map_some]

lemma getD_sizeList (hp : p < W) : (sizeList W n).getD p 0 = n p := by
  rw [List.getD_eq_getElem?_getD, getElem?_sizeList hp, Option.getD_some]

lemma before_succ (n : Nat → Nat) (p : Nat) : before n (p + 1) = before n p + n p := by
  rw [before, before, sizeList, sizeList, List.range_succ, List.map_append, List.sum_append,
    List.map_singleton, List.sum_singleton]

lemma sum_take_sizeList (hp : p ≤ W) : ((sizeList W n).take p).sum = before n p := by
  rw [before, sizeList, sizeList, ← List.map_take, List.take_range, Nat.min_eq_left hp]

lemma partRange_sizeList (size : Nat) (hp : p < W) :
    partRange size (sizeList W n) p = ⟨before n p * size, (before n p + n p) * size⟩ := by
  rw [partRange, sum_take_sizeList (Nat.le_of_lt hp), sum_take_sizeList hp, before_succ]

/-- Parts of these sizes, one after the other in rank order, fill the bytes up to the total. -/
lemma overwriteAll_parts {size : Nat} {part : Nat → Bytes} {d : Bytes}
    (hpart : ∀ p < W, (part p).length = n p * size) (hfit : before n W * size ≤ d.length) :
    d.overwriteAll ((List.range W).map fun p => (before n p * size, part p)) =
      (List.range W).flatMap part ++ d.drop (before n W * size) := by
  refine Bytes.overwriteAll_in_a_row ?_ ?_ hfit
  · exact Nat.zero_mul size
  · intro p hp
    rw [before_succ, Nat.add_mul, hpart p hp]

/-- Every output is a buffer of its own, which is neither another output nor an input. -/
structure Apart (k : Nat) (ins outs : Nat → Buffer) : Prop where
  outputs : ∀ i < k, ∀ j < k, (outs i).cell = (outs j).cell → i = j
  inputs : ∀ i < k, ∀ j < k, (ins i).cell ≠ (outs j).cell

/-- What an exchange of `k` pairs does to one rank: the outputs hold the new bytes, the inputs hold
what they held, the events of a pair are in the trace once for each pair, and nothing else is
changed. -/
structure Filled (k : Nat) (ins outs : Nat → Buffer) (c new : Nat → Bytes)
    (events : List TraceEvent) (q q' : HostState × Communicator SimulatedLink) : Prop where
  kept : Kept (fun cell => ∃ i < k, cell = (outs i).cell) q q'
  input : ∀ i < k, q'.1.heap.Holds (ins i) (c i)
  output : ∀ i < k, q'.1.heap.Holds (outs i) (new i)
  trace : q'.1.trace = q.1.trace ++ (List.range k).flatMap fun _ => events

variable {ins outs : Nat → Buffer} {c d new : Nat → Bytes}

/-- The rounds of all pairs. Since the outputs are apart, each round finds its buffers as they were
before the exchange. -/
lemma runs_pairs {f : Nat → Act Net (HostState × Communicator SimulatedLink) ExchangeError Unit}
    {table : Nat → Nat → Nat → List Bytes} (hapart : Apart k ins outs)
    (hin : ∀ i < k, q.1.heap.Holds (ins i) (c i)) (hout : ∀ i < k, q.1.heap.Holds (outs i) (d i))
    (hround : ∀ i < k, ∀ q', q'.2 = q.2 → q'.1.heap.Holds (ins i) (c i) →
      q'.1.heap.Holds (outs i) (d i) →
      (f i).Runs g r q' [Round.among W (table i) r] fun _ q'' =>
        Kept (· = (outs i).cell) q' q'' ∧ q''.1.heap.Holds (outs i) (new i) ∧
          q''.1.trace = q'.1.trace ++ events) :
    (Act.forEach (List.range k) f).Runs g r q
      (((List.range k).map table).map fun out => Round.among W out r)
      fun _ q' => Filled k ins outs c new events q q' := by
  let I (j : Nat) (q' : HostState × Communicator SimulatedLink) : Prop :=
    Kept (fun cell => ∃ i < j, cell = (outs i).cell) q q' ∧
      (∀ i < j, q'.1.heap.Holds (outs i) (new i)) ∧
      q'.1.trace = q.1.trace ++ (List.range j).flatMap fun _ => events
  have hinput : ∀ j ≤ k, ∀ q', I j q' → ∀ i < k, q'.1.heap.Holds (ins i) (c i) := by
    intro j hj q' hI i hi
    refine hI.1.heap.holds _ _ ?_ (hin i hi)
    rintro ⟨i', hi', hcell⟩
    exact hapart.inputs i hi i' (by omega) hcell
  have hstart : I 0 q := ⟨.refl q, nofun, (List.append_nil _).symm⟩
  rw [List.map_map]
  refine (Act.Runs.forEachIndex (I := I) hstart ?_).mono ?_
  · intro j hj q' hI
    obtain ⟨hkept, hfilled, htrace⟩ := hI
    have hsource := hinput j (Nat.le_of_lt hj) q' ⟨hkept, hfilled, htrace⟩ j hj
    have htarget : q'.1.heap.Holds (outs j) (d j) := by
      refine hkept.heap.holds _ _ ?_ (hout j hj)
      rintro ⟨i, hi, hcell⟩
      have := hapart.outputs j hj i (by omega) hcell
      omega
    refine (hround j hj q' hkept.comm hsource htarget).mono ?_
    rintro _ q'' ⟨hkept', hnew, htrace'⟩
    refine ⟨?_, ?_, ?_⟩
    · refine (hkept.mono ?_).trans (hkept'.mono ?_)
      · rintro _ _ ⟨i, hi, hcell⟩
        exact ⟨i, by omega, hcell⟩
      · rintro _ _ hcell
        exact ⟨j, Nat.lt_succ_self j, hcell⟩
    · intro i hi
      by_cases hij : i = j
      · exact hij ▸ hnew
      · refine hkept'.heap.holds _ _ ?_ (hfilled i (by omega))
        exact fun hcell => hij (hapart.outputs i (by omega) j hj hcell)
    · rw [htrace', htrace, List.range_succ, List.flatMap_append, List.flatMap_singleton,
        List.append_assoc]
  · intro _ q' hI
    exact ⟨hI.1, hinput k (Nat.le_refl k) q' hI, hI.2.1, hI.2.2⟩

lemma zip_map_range (k : Nat) (ins outs : Nat → Buffer) :
    ((List.range k).map ins).zip ((List.range k).map outs) =
      (List.range k).map fun i => (ins i, outs i) := List.zip_map'

/-- The members of a group before an exchange of `k` pairs of buffers of type `t`. Input `i` of rank
`r` holds `c r i` and its output holds `d r i`; the calls pass the checks when each input has
`sent r` elements and each output has room for `received r`. -/
structure Prepared (devices : Nat) (g : Bytes) (W : Nat) (t : Dtype) (k : Nat)
    (sent received : Nat → Nat) (qs : Nat → HostState × Communicator SimulatedLink)
    (ins outs : Nat → Nat → Buffer) (c d : Nat → Nat → Bytes) : Prop where
  member : ∀ r < W, Member devices g W r (qs r)
  batch : ∀ r < W, Batch t k (sent r) (received r) (qs r) ((List.range k).map (ins r))
    ((List.range k).map (outs r))
  apart : ∀ r < W, Apart k (ins r) (outs r)
  input : ∀ r < W, ∀ i < k, (qs r).1.heap.Holds (ins r i) (c r i)
  output : ∀ r < W, ∀ i < k, (qs r).1.heap.Holds (outs r i) (d r i)

section Groups

variable {sent received : Nat → Nat} {qs : Nat → HostState × Communicator SimulatedLink}
  {ins outs : Nat → Nat → Buffer} {c d : Nat → Nat → Bytes} {i : Nat}

lemma Prepared.sent_le (h : Prepared devices g W t k sent received qs ins outs c d) (hr : r < W)
    (hi : i < k) : sent r * t.size ≤ (c r i).length :=
  (h.batch r hr).sent_le (List.mem_map_of_mem (List.mem_range.2 hi)) (h.input r hr i hi)

lemma Prepared.received_le (h : Prepared devices g W t k sent received qs ins outs c d) (hr : r < W)
    (hi : i < k) : received r * t.size ≤ (d r i).length :=
  (h.batch r hr).received_le (List.mem_map_of_mem (List.mem_range.2 hi)) (h.output r hr i hi)

variable {n : Nat → Nat → Nat}

/-- What an output of rank `r` holds after a batched all-to-all: the part that each rank has for
rank `r`, in rank order, and the bytes that were there after the last of them. -/
def exchanged (W : Nat) (size : Nat) (n : Nat → Nat → Nat) (r : Nat) (c : Nat → Bytes)
    (d : Bytes) : Bytes :=
  ((List.range W).flatMap fun p => (c p).elements size (before (n p) r) (n p r)) ++
    d.drop (before (n · r) W * size)

lemma slice_partRange {size : Nat} {b : Bytes} {n : Nat → Nat} (hr : r < W) :
    b.slice (partRange size (sizeList W n) r) = b.elements size (before n r) (n r) := by
  rw [partRange_sizeList size hr, Bytes.elements]

/-- The parts that a round of a batched all-to-all puts in place. -/
lemma overwriteAll_exchanged {size : Nat} {c : Nat → Bytes} {d : Bytes} (hr : r < W)
    (hsent : ∀ p < W, before (n p) W * size ≤ (c p).length)
    (hreceived : before (n · r) W * size ≤ d.length) :
    d.overwriteAll (placed ((List.range W).flatMap fun p =>
      [⟨p, partRange size (sizeList W (n · r)) p,
        (c p).slice (partRange size (sizeList W (n p)) r)⟩])) = exchanged W size n r c d := by
  have hplaced : placed ((List.range W).flatMap fun p =>
      [⟨p, partRange size (sizeList W (n · r)) p,
        (c p).slice (partRange size (sizeList W (n p)) r)⟩]) =
      (List.range W).map fun p => (before (n · r) p * size,
        (c p).elements size (before (n p) r) (n p r)) := by
    rw [placed, ← List.map_eq_flatMap, List.map_map]
    refine List.map_congr_left fun p hp => ?_
    simp only [Function.comp_apply, slice_partRange hr,
      partRange_sizeList size (List.mem_range.1 hp)]
  rw [hplaced]
  refine overwriteAll_parts (fun p hp => ?_) hreceived
  rw [← slice_partRange hr, Bytes.length_slice (partRange_within (hsent p hp)),
    length_partRange (getElem?_sizeList hr)]

lemma runs_allToAll [TensorLibrary] (h : Prepared devices g W t k (fun r => before (n r) W)
      (fun r => before (n · r) W) qs ins outs c d) (hr : r < W) :
    (allToAll (Host.platform devices) transport ((List.range k).map (ins r))
      ((List.range k).map (outs r)) (sizeList W (n r)) (sizeList W (n · r))).Runs g r (qs r)
      (((List.range k).map fun i =>
        partTable t.size (fun p => sizeList W (n p)) (c · i)).map fun out => Round.among W out r)
      fun _ q' => Filled k (ins r) (outs r) (c r)
        (fun i => exchanged W t.size n r (c · i) (d r i))
        (exchangeEvents .compute t.size (sizeList W (n r)) (sizeList W (n · r))) (qs r) q' := by
  have hm := h.member r hr
  have heq := allToAll_eq hm (h.batch r hr) (length_sizeList W (n r)) (length_sizeList W (n · r))
  rw [zip_map_range, Act.forEach_map] at heq
  unfold Act.Runs
  rw [heq]
  refine runs_pairs (h.apart r hr) (h.input r hr) (h.output r hr) ?_
  intro i hi q' hcomm hin hout
  have hm' : Member devices g W r q' := ⟨hcomm ▸ hm.link, hcomm ▸ hm.device_lt,
    hcomm ▸ hm.worldSize, hcomm ▸ hm.rank⟩
  have hsent : ∀ p < W, before (n p) W * t.size ≤ (c p i).length := fun p hp => h.sent_le hp hi
  have hreceived : before (n · r) W * t.size ≤ (d r i).length := h.received_le hr hi
  have hmatch : ∀ p < W, (sizeList W (n p))[r]? = (sizeList W (n · r))[p]? := fun p hp =>
    (getElem?_sizeList hr).trans (getElem?_sizeList (n := (n · r)) hp).symm
  have hround := runs_exchangeParts (ownStream (qs r) .compute) hm' hr hin hout
    (fun p _ => length_sizeList W (n p)) (length_sizeList W (n · r)) hmatch hsent hreceived
  rw [overwriteAll_exchanged hr hsent hreceived] at hround
  exact hround

lemma exchangeEvents_inside (h : Prepared devices g W t k (fun r => before (n r) W)
      (fun r => before (n · r) W) qs ins outs c d) (hr : r < W) (hi : i < k) :
    ∀ e ∈ exchangeEvents .compute t.size (sizeList W (n r)) (sizeList W (n · r)),
      e.Inside (c r i).length (d r i).length := by
  have hsent : before (n r) W * t.size ≤ (c r i).length := h.sent_le hr hi
  have hreceived : before (n · r) W * t.size ≤ (d r i).length := h.received_le hr hi
  intro e he
  simp only [exchangeEvents, List.mem_append, List.mem_cons, List.mem_flatMap] at he
  rcases he with (rfl | ⟨p, -, rfl | rfl | hnone⟩) | rfl | hnone
  · trivial
  · exact partRange_within hsent
  · exact partRange_within hreceived
  · cases hnone
  · trivial
  · cases hnone

/-- A batched all-to-all by all ranks, in which rank `r` has `n r p` elements for rank `p`. In every
interleaving every call succeeds and no message is left over; every output gets the elements that
the ranks have for its rank, packed in rank order, and keeps its bytes after them; the inputs stay
as they are; and every transfer stays inside its buffer. -/
theorem allToAll_settles [TensorLibrary] (hW : 0 < W)
    (h : Prepared devices g W t k (fun r => before (n r) W) (fun r => before (n · r) W) qs ins outs
      c d) {N : Network} (hn : N.Formed g) (hq : N.Quiet g) :
    (Crowd.starting W (fun r => allToAll (Host.platform devices) transport
      ((List.range k).map (ins r)) ((List.range k).map (outs r)) (sizeList W (n r))
      (sizeList W (n · r))) qs N).Settles fun vs N' =>
        N'.Quiet g ∧ ∃ qs' : Nat → HostState × Communicator SimulatedLink,
          vs = (List.range W).map (fun r => (.ok (), qs' r)) ∧ ∀ r < W,
            Filled k (ins r) (outs r) (c r) (fun i => exchanged W t.size n r (c · i) (d r i))
              (exchangeEvents .compute t.size (sizeList W (n r)) (sizeList W (n · r)))
              (qs r) (qs' r) ∧
            ∀ i < k, ∀ e ∈ exchangeEvents .compute t.size (sizeList W (n r)) (sizeList W (n · r)),
              e.Inside (c r i).length (d r i).length := by
  have hruns := fun r hr => runs_allToAll h (r := r) hr
  obtain ⟨a, qs', hends, hsettles⟩ := (Lockstep.of_tables hW _ hruns).settles hn hq
  refine hsettles.mono ?_
  rintro vs N' ⟨hvs, -, hquiet⟩
  refine ⟨hquiet, qs', hvs, ?_⟩
  intro r hr
  exact ⟨hends r hr, fun i hi => exchangeEvents_inside h hr hi⟩

/-- Rank `r` of two, with two inputs of three bytes and two outputs of four. -/
def twoPairs (r : Nat) : HostState × Communicator SimulatedLink :=
  let input (i : Nat) : Bytes := (List.range 3).map fun j => .ofNat (8 * r + 4 * i + j)
  let output : Bytes := List.replicate 4 99
  (⟨[⟨.host (input 0), [], 1⟩, ⟨.host (input 1), [], 1⟩, ⟨.host output, [], 1⟩,
    ⟨.host output, [], 1⟩], [], [], []⟩, ⟨⟨[], 2, r, 0, 0, 0, []⟩, ⟨2, r, 1, 0⟩⟩)

lemma prepared_twoPairs (sent received : Nat → Nat) (hsent : ∀ r < 2, sent r ≤ 3)
    (hreceived : ∀ r < 2, received r ≤ 4) :
    Prepared 1 [] 2 .u8 2 sent received twoPairs (fun _ i => ⟨.u8, [3], 0, i⟩)
      (fun _ i => ⟨.u8, [4], 0, 2 + i⟩)
      (fun r i => (List.range 3).map fun j => .ofNat (8 * r + 4 * i + j))
      (fun _ _ => List.replicate 4 99) := by
  have hin : ∀ r < 2, ∀ i < 2, (twoPairs r).1.heap.Holds ⟨.u8, [3], 0, i⟩
      ((List.range 3).map fun j => .ofNat (8 * r + 4 * i + j)) := by
    intro r _ i hi
    refine ⟨?_, rfl, by simp [Word.allocationBound]⟩
    interval_cases i
    · exact ⟨[], 1, rfl⟩
    · exact ⟨[], 1, rfl⟩
  have hout : ∀ r < 2, ∀ i < 2, (twoPairs r).1.heap.Holds ⟨.u8, [4], 0, 2 + i⟩
      (List.replicate 4 99) := by
    intro r _ i hi
    refine ⟨?_, rfl, by simp [Word.allocationBound]⟩
    interval_cases i
    · exact ⟨[], 1, rfl⟩
    · exact ⟨[], 1, rfl⟩
  constructor
  · exact fun r _ => ⟨⟨rfl, rfl, rfl, rfl, rfl⟩, Nat.zero_lt_one, rfl, rfl⟩
  · intro r hr
    refine ⟨rfl, rfl, List.forall_mem_map.2 fun i hi => ?_, List.forall_mem_map.2 fun i hi => ?_,
      ⟨3, hsent r hr, List.forall_mem_map.2 fun _ _ => rfl⟩,
      List.forall_mem_map.2 fun _ _ => ⟨4, hreceived r hr, rfl⟩⟩
    · exact ⟨rfl, rfl, _, hin r hr i (List.mem_range.1 hi)⟩
    · exact ⟨rfl, rfl, _, hout r hr i (List.mem_range.1 hi)⟩
  · intro r _
    constructor
    · intro i _ j _ hcell
      exact Nat.add_left_cancel hcell
    · intro i hi j _ hcell
      have : i = 2 + j := hcell
      omega
  · exact hin
  · exact hout

open StandIn in
/-- Rank 0 has one element for itself and none for rank 1, which has two for rank 0 and one for
itself. -/
theorem allToAll_settles_two_pairs :
    let n (r p : Nat) : Nat := if r = 0 then 1 - p else 2 - p
    (Crowd.starting 2 (fun r => allToAll (Host.platform 1) transport
      [⟨.u8, [3], 0, 0⟩, ⟨.u8, [3], 0, 1⟩] [⟨.u8, [4], 0, 2⟩, ⟨.u8, [4], 0, 3⟩] (sizeList 2 (n r))
      (sizeList 2 (n · r))) twoPairs (.assembled [] 2)).Settles fun vs N' =>
        N'.Quiet [] ∧ ∃ qs' : Nat → HostState × Communicator SimulatedLink,
          vs = (List.range 2).map (fun r => (.ok (), qs' r)) ∧
            (qs' 0).1.heap.Holds ⟨.u8, [4], 0, 2⟩ [0, 8, 9, 99] ∧
            (qs' 0).1.heap.Holds ⟨.u8, [4], 0, 3⟩ [4, 12, 13, 99] ∧
            (qs' 1).1.heap.Holds ⟨.u8, [4], 0, 2⟩ [10, 99, 99, 99] ∧
            (qs' 1).1.heap.Holds ⟨.u8, [4], 0, 3⟩ [14, 99, 99, 99] := by
  intro n
  have hprepared := prepared_twoPairs (fun r => before (n r) 2) (fun r => before (n · r) 2)
    (by decide) (by decide)
  refine (allToAll_settles (by decide) hprepared (Network.formed_assembled [] 2)
    (Network.quiet_assembled [] 2)).mono ?_
  rintro vs N' ⟨hquiet, qs', hvs, hends⟩
  have h0 := (hends 0 (by decide)).1.output
  have h1 := (hends 1 (by decide)).1.output
  exact ⟨hquiet, qs', hvs, h0 0 (by decide), h0 1 (by decide), h1 0 (by decide), h1 1 (by decide)⟩

section Gather

variable {n : Nat → Nat}

/-- What an output holds after a batched all-gather: the first elements of the input of each rank,
in rank order, and the bytes that were there after the last of them. -/
def gathered (W size : Nat) (n : Nat → Nat) (c : Nat → Bytes) (d : Bytes) : Bytes :=
  ((List.range W).flatMap fun p => (c p).elements size 0 (n p)) ++ d.drop (before n W * size)

lemma slice_first {size count : Nat} (b : Bytes) :
    b.slice ⟨0, count * size⟩ = b.elements size 0 count := by
  rw [Bytes.elements, Nat.zero_mul, Nat.zero_add]

/-- Parts that are left out because they are empty would change nothing. -/
lemma overwriteAll_optional {x : Nat → Nat × Bytes} (ps : List Nat) (b : Bytes)
    (hempty : ∀ p ∈ ps, n p = 0 → (x p).2 = []) :
    b.overwriteAll (ps.flatMap fun p => optional (n p) (x p)) = b.overwriteAll (ps.map x) := by
  induction ps generalizing b with
  | nil => rfl
  | cons p ps ih =>
    have hrest := fun b => ih b fun p' hp' => hempty p' (List.mem_cons_of_mem p hp')
    rw [List.flatMap_cons, Bytes.overwriteAll_append, List.map_cons, Bytes.overwriteAll_cons, hrest]
    by_cases hp : 0 < n p
    · rw [optional, if_pos hp, Bytes.overwriteAll_cons, Bytes.overwriteAll_nil]
    · have hskipped := hempty p List.mem_cons_self (by omega)
      rw [optional, if_neg hp, Bytes.overwriteAll_nil, hskipped, Bytes.overwrite_nil]

/-- The parts that a round of a batched all-gather puts in place. -/
lemma overwriteAll_gathered {size : Nat} {c : Nat → Bytes} {d : Bytes}
    (hsent : ∀ p < W, n p * size ≤ (c p).length) (hreceived : before n W * size ≤ d.length) :
    d.overwriteAll (placed ((List.range W).flatMap fun p => optional ((sizeList W n).getD p 0)
      ⟨p, partRange size (sizeList W n) p, (c p).slice ⟨0, (sizeList W n).getD p 0 * size⟩⟩)) =
      gathered W size n c d := by
  have hplaced : placed ((List.range W).flatMap fun p => optional ((sizeList W n).getD p 0)
      ⟨p, partRange size (sizeList W n) p, (c p).slice ⟨0, (sizeList W n).getD p 0 * size⟩⟩) =
      (List.range W).flatMap fun p =>
        optional (n p) (before n p * size, (c p).elements size 0 (n p)) := by
    rw [placed, List.map_flatMap]
    refine List.flatMap_congr fun p hp => ?_
    have hp := List.mem_range.1 hp
    rw [map_optional, getD_sizeList hp, slice_first, partRange_sizeList size hp]
  have hlength : ∀ p < W, ((c p).elements size 0 (n p)).length = n p * size := by
    intro p hp
    rw [← slice_first, Bytes.length_slice ⟨Nat.zero_le _, hsent p hp⟩]
    rfl
  rw [hplaced, overwriteAll_optional, overwriteAll_parts hlength hreceived, gathered]
  intro p hp hzero
  have hempty := hlength p (List.mem_range.1 hp)
  rw [hzero, Nat.zero_mul] at hempty
  rw [hzero]
  exact List.eq_nil_of_length_eq_zero hempty

lemma runs_allGather [TensorLibrary]
    (h : Prepared devices g W t k n (fun _ => before n W) qs ins outs c d) (hr : r < W) :
    (allGather (Host.platform devices) transport ((List.range k).map (ins r))
      ((List.range k).map (outs r)) (sizeList W n)).Runs g r (qs r)
      (((List.range k).map fun i =>
        contributionTable t.size (sizeList W n) (c · i)).map fun out => Round.among W out r)
      fun _ q' => Filled k (ins r) (outs r) (c r)
        (fun i => gathered W t.size n (c · i) (d r i))
        (gatherEvents .compute t.size (n r) (sizeList W n)) (qs r) q' := by
  have hm := h.member r hr
  have hbatch : Batch t k ((sizeList W n).getD r 0) (sizeList W n).sum (qs r)
      ((List.range k).map (ins r)) ((List.range k).map (outs r)) := by
    rw [getD_sizeList hr]
    exact h.batch r hr
  have heq := allGather_eq hm hr hbatch (length_sizeList W n)
  rw [zip_map_range, Act.forEach_map] at heq
  unfold Act.Runs
  rw [heq]
  refine runs_pairs (h.apart r hr) (h.input r hr) (h.output r hr) ?_
  intro i hi q' hcomm hin hout
  have hm' : Member devices g W r q' := ⟨hcomm ▸ hm.link, hcomm ▸ hm.device_lt,
    hcomm ▸ hm.worldSize, hcomm ▸ hm.rank⟩
  have hsent : ∀ p < W, n p * t.size ≤ (c p i).length := fun p hp => h.sent_le hp hi
  have hsent' : ∀ p < W, (sizeList W n).getD p 0 * t.size ≤ (c p i).length := by
    intro p hp
    rw [getD_sizeList hp]
    exact hsent p hp
  have hreceived : before n W * t.size ≤ (d r i).length := h.received_le hr hi
  have hround := runs_gatherParts (ownStream (qs r) .compute) hm' hr hin hout
    (length_sizeList W n) hsent' hreceived
  rw [overwriteAll_gathered hsent hreceived, getD_sizeList hr] at hround
  rw [getD_sizeList hr]
  exact hround

/-- Whatever a round of a batched all-gather sends has bytes. -/
lemma ne_nil_of_mem_contributionTable {b : Bytes} {p p' : Nat} (hsize : 0 < t.size)
    (h : Prepared devices g W t k n (fun _ => before n W) qs ins outs c d) (hi : i < k)
    (hb : b ∈ contributionTable t.size (sizeList W n) (c · i) p p') : b ≠ [] := by
  obtain ⟨hcount, rfl⟩ := mem_optional.1 hb
  have hp : p < W := by
    by_contra hp
    have hnone : (sizeList W n)[p]? = none := List.getElem?_eq_none (by rw [length_sizeList]; omega)
    rw [List.getD_eq_getElem?_getD, hnone] at hcount
    exact Nat.lt_irrefl 0 hcount
  rw [getD_sizeList hp] at hcount ⊢
  have hsent : n p * t.size ≤ (c p i).length := h.sent_le hp hi
  have hlength : ((c p i).slice ⟨0, n p * t.size⟩).length = n p * t.size :=
    Bytes.length_slice ⟨Nat.zero_le _, hsent⟩
  have hpos := Nat.mul_pos hcount hsize
  rw [← hlength] at hpos
  exact List.ne_nil_of_length_pos hpos

lemma sendCount_gatherEvents (kind : StreamKind) (size own : Nat) (sizes : List Nat) :
    Trace.sendCount (gatherEvents kind size own sizes) = if 0 < own then sizes.length else 0 := by
  have hpart : ∀ p, Trace.sendCount (optional own (.send p ⟨0, own * size⟩ kind) ++
      optional (sizes.getD p 0) (.recv p (partRange size sizes p) kind)) =
      if 0 < own then 1 else 0 := by
    intro p
    unfold optional Trace.sendCount
    split <;> split <;> simp
  unfold Trace.sendCount at hpart ⊢
  simp only [gatherEvents, List.cons_append, List.countP_cons, List.countP_append,
    List.countP_flatMap, Function.comp_def, hpart]
  split <;> simp

/-- A batched all-gather by all ranks, to which rank `r` contributes `n r` elements of each input.
In every interleaving every call succeeds, no message is left over, and no message on the way is
empty. Every output gets the contributions packed in rank order and keeps its bytes after them, the
inputs stay as they are, and for each pair a rank sends its contribution to every rank, or nothing
to any of them if it has none. -/
theorem allGather_settles [TensorLibrary] (hW : 0 < W) (hsize : 0 < t.size)
    (h : Prepared devices g W t k n (fun _ => before n W) qs ins outs c d) {N : Network}
    (hn : N.Formed g) (hq : N.Quiet g) :
    let start := Crowd.starting W (fun r => allGather (Host.platform devices) transport
      ((List.range k).map (ins r)) ((List.range k).map (outs r)) (sizeList W n)) qs N
    (start.Settles fun vs N' =>
        N'.Quiet g ∧ ∃ qs' : Nat → HostState × Communicator SimulatedLink,
          vs = (List.range W).map (fun r => (.ok (), qs' r)) ∧ ∀ r < W,
            Filled k (ins r) (outs r) (c r) (fun i => gathered W t.size n (c · i) (d r i))
              (gatherEvents .compute t.size (n r) (sizeList W n)) (qs r) (qs' r) ∧
            Trace.sendCount (gatherEvents .compute t.size (n r) (sizeList W n)) =
              if 0 < n r then W else 0) ∧
      ∀ e, start.Reaches e → ∀ p p', ∀ b ∈ e.network.mailbox g p p', b ≠ [] := by
  have hruns := fun r hr => runs_allGather h (r := r) hr
  constructor
  · obtain ⟨a, qs', hends, hsettles⟩ := (Lockstep.of_tables hW _ hruns).settles hn hq
    refine hsettles.mono ?_
    rintro vs N' ⟨hvs, -, hquiet⟩
    refine ⟨hquiet, qs', hvs, ?_⟩
    intro r hr
    refine ⟨hends r hr, ?_⟩
    rw [sendCount_gatherEvents, length_sizeList]
  · intro e he p p' b hb
    obtain ⟨table, htable, hmem⟩ := Crowd.mem_table_of_mailbox hW _ hruns hn hq he hb
    obtain ⟨i, hi, rfl⟩ := List.mem_map.1 htable
    exact ne_nil_of_mem_contributionTable hsize h (List.mem_range.1 hi) hmem

open StandIn in
/-- Rank 0 contributes nothing, and rank 1 two elements. -/
theorem allGather_settles_two_pairs :
    let start := Crowd.starting 2 (fun _ => allGather (Host.platform 1) transport
      [⟨.u8, [3], 0, 0⟩, ⟨.u8, [3], 0, 1⟩] [⟨.u8, [4], 0, 2⟩, ⟨.u8, [4], 0, 3⟩] [0, 2]) twoPairs
      (.assembled [] 2)
    (start.Settles fun vs N' =>
        N'.Quiet [] ∧ ∃ qs' : Nat → HostState × Communicator SimulatedLink,
          vs = (List.range 2).map (fun r => (.ok (), qs' r)) ∧ ∀ r < 2,
            (qs' r).1.heap.Holds ⟨.u8, [4], 0, 2⟩ [8, 9, 99, 99] ∧
            (qs' r).1.heap.Holds ⟨.u8, [4], 0, 3⟩ [12, 13, 99, 99]) ∧
      ∀ e, start.Reaches e → ∀ p p', ∀ b ∈ e.network.mailbox [] p p', b ≠ [] := by
  have hprepared := prepared_twoPairs (2 * ·) (fun _ => before (2 * ·) 2) (by decide) (by decide)
  obtain ⟨hsettles, hmessages⟩ := allGather_settles (by decide) (by decide) hprepared
    (Network.formed_assembled [] 2) (Network.quiet_assembled [] 2)
  refine ⟨hsettles.mono ?_, hmessages⟩
  rintro vs N' ⟨hquiet, qs', hvs, hends⟩
  refine ⟨hquiet, qs', hvs, ?_⟩
  intro r hr
  have houtput := (hends r hr).1.output
  exact ⟨houtput 0 (by decide), houtput 1 (by decide)⟩

end Gather

end Groups

end Communicator

end ExpertExchange
