import ExpertExchange.Proofs.Device.Lawful
import ExpertExchange.Proofs.Group.Member

/-!
# Sums of a group

The sum of a group starts with the contribution of rank 0 and adds the others to it from the left,
on every rank in the same order. The tensors that are added are those of any library that keeps the
laws, with any addition of elements.
-/

namespace ExpertExchange

namespace SimulatedLink

variable {g : Bytes} {W r : Nat} {s : HostState × SimulatedLink} {b : Buffer}

lemma roundMoves (R : Round) : [R].flatMap Round.moves = R.moves := List.flatMap_singleton _ _

def noted (s : HostState × SimulatedLink) (e : TraceEvent) : HostState × SimulatedLink :=
  (s.1.note e, s.2)

lemma note_eq (e : TraceEvent) : note e s = .done (.ok (), noted s e) := rfl

lemma link_eq : link s = .done (.ok s.2, s) := rfl

variable {plus : Addition} {contents : Nat → Bytes} {xs zs : List Nat}

/-- What goes from whom to whom in a sum. -/
def sumTable (contents : Nat → Bytes) (p q : Nat) : List Bytes :=
  if q ≠ p then [contents p] else []

def sumMoves (r : Nat) (contents : Nat → Bytes) (p : Nat) : List Move :=
  if p ≠ r then [.take p (contents p)] else []

lemma moves_sumTable :
    (Round.among W (sumTable contents) r).moves =
      (others W r).map (fun p => .post p (contents r)) ++
        (List.range W).flatMap (sumMoves r contents) := by
  have hposts := map_filter_eq_flatMap (List.range W) (· ≠ r) fun p => Move.post p (contents r)
  have htakes : ∀ p, ((sumTable contents p r).map (p, ·)).map (fun m => Move.take m.1 m.2) =
      sumMoves r contents p := by
    intro p
    unfold sumTable sumMoves
    by_cases hp : p = r
    · rw [if_neg (not_not.2 hp.symm), if_neg (not_not.2 hp)]
      rfl
    · rw [if_pos (Ne.symm hp), if_pos hp]
      rfl
  rw [others, hposts, Round.moves, Round.among, List.map_flatMap, List.map_flatMap]
  simp only [htakes]
  simp only [sumTable, map_ite_singleton]

lemma lt_of_mem_others {p : Nat} (hW : 0 < W) (hp : p ∈ List.range' 1 (W - 1)) : p < W := by
  have := (List.mem_range'_1.1 hp).2
  omega

/-- The sum has as many bytes as each contribution. -/
lemma length_sum (hr : r < W) (hb : s.1.heap.Holds b (contents r))
    (hsize : ∀ p < W, Buffer.sizeOf? b.dtype b.shape = some (contents p).length)
    (hsum : Number.sumAll? plus b.dtype (fun p => Bytes.decodeWords b.dtype.size (contents p))
      (List.range' 1 (W - 1)) (Bytes.decodeWords b.dtype.size (contents 0)) = some zs) :
    (Bytes.encodeWords b.dtype.size zs).length = (contents r).length := by
  have hW : 0 < W := Nat.lt_of_le_of_lt (Nat.zero_le r) hr
  have hwords : ∀ p < W, (Bytes.decodeWords b.dtype.size (contents p)).length =
      (contents r).length / b.dtype.size := by
    intro p hp
    rw [Bytes.length_decodeWords, Option.some.inj ((hsize p hp).symm.trans hb.size)]
  have hcount : zs.length = (contents r).length / b.dtype.size := by
    rw [Number.length_sumAll? hsum fun p hp => ?_, hwords 0 hW]
    rw [hwords p (lt_of_mem_others hW hp), hwords 0 hW]
  rw [Bytes.length_encodeWords, hcount, Nat.div_mul_cancel (Buffer.size_dvd hb.size)]

variable [TensorLibrary]

lemma follows_contribution (laws : TensorLaws plus) (hl : s.2.Idle g W r) (p : Nat)
    (ht : b.dtype.hasTensor = true) (hstrided : Strided b.shape)
    (hsize : Buffer.sizeOf? b.dtype b.shape = some (contents p).length) :
    ∃ part : Tensor, part.Reads b.dtype b.shape (Bytes.decodeWords b.dtype.size (contents p)) ∧
      Program.Follows g r (contribution b (contents r) p s) (sumMoves r contents p)
        (.ok part, s) := by
  obtain ⟨part, htensor, hpart⟩ := laws.ofBytes_eq ht hsize hstrided
  refine ⟨part, hpart, ?_⟩
  let read (payload : Bytes) : LinkAct Tensor :=
    Act.ofOutcome ((Tensor.ofBytes b.dtype b.shape payload).mapError ExchangeError.device)
  have hread : Program.Follows g r (read (contents p) s) [] (.ok part, s) := by
    refine Program.follows_nil_iff.2 (Act.outcome_done ?_ s)
    rw [htensor, Outcome.mapError]
  change Program.Follows g r ((if p = s.2.rank then (pure (contents r) : LinkAct Bytes).bind read
    else (take p).bind read) s) _ _
  rw [hl.rank, sumMoves]
  by_cases hp : p = r
  · rw [if_pos hp, if_neg (not_not.2 hp)]
    rw [hp] at hread
    exact hread
  · rw [if_neg hp, if_pos hp]
    exact Act.follows_bind (follows_take hl p (contents p)) hread

lemma follows_addContributions (laws : TensorLaws plus) (hl : s.2.Idle g W r)
    (ht : b.dtype.hasTensor = true) (hstrided : Strided b.shape) {ranks : List Nat} {sum : Tensor}
    (hsize : ∀ p ∈ ranks, Buffer.sizeOf? b.dtype b.shape = some (contents p).length)
    (hsum : sum.Reads b.dtype b.shape xs) (hlength : Word.product? b.shape = some xs.length)
    (hsums : Number.sumAll? plus b.dtype (fun p => Bytes.decodeWords b.dtype.size (contents p))
      ranks xs = some zs) :
    ∃ total : Tensor, total.Reads b.dtype b.shape zs ∧
      Program.Follows g r (addContributions b (contents r) ranks sum s)
        (ranks.flatMap (sumMoves r contents)) (.ok total, s) := by
  induction ranks generalizing xs sum with
  | nil =>
    obtain rfl : xs = zs := by simpa [Number.sumAll?] using hsums
    exact ⟨sum, hsum, .done _⟩
  | cons p ranks ih =>
    have hp := hsize p List.mem_cons_self
    obtain ⟨ys, hys, hrest⟩ := Option.bind_eq_some_iff.1 hsums
    obtain ⟨part, hpart, hfollows⟩ := follows_contribution laws hl p ht hstrided hp
    have hsame : (Bytes.decodeWords b.dtype.size (contents p)).length = xs.length :=
      Option.some.inj ((Buffer.product?_eq_length_decodeWords ht hp).symm.trans hlength)
    obtain ⟨sum', hadd, hsum'⟩ := laws.add_some _ _ _ _ _ _ _ hsum hpart hsame hys
    obtain ⟨total, htotal, hothers⟩ := ih (fun q hq => hsize q (List.mem_cons_of_mem p hq)) hsum'
      (hlength.trans (congrArg some (Number.length_addAll? hys hsame).symm)) hrest
    refine ⟨total, htotal, Act.follows_bind hfollows ?_⟩
    have hadded : ((TensorLibrary.add sum part).mapError ExchangeError.tensor) = .ok sum' := by
      rw [hadd, Outcome.mapError]
    rw [Act.bind_done (Act.outcome_done hadded s)]
    exact hothers

lemma runs_allReduce (laws : TensorLaws plus) (hl : s.2.Idle g W r) (hr : r < W)
    (ht : b.dtype.hasTensor = true) (hstrided : Strided b.shape)
    (hb : s.1.heap.Holds b (contents r))
    (hsize : ∀ p < W, Buffer.sizeOf? b.dtype b.shape = some (contents p).length)
    (hsum : Number.sumAll? plus b.dtype (fun p => Bytes.decodeWords b.dtype.size (contents p))
      (List.range' 1 (W - 1)) (Bytes.decodeWords b.dtype.size (contents 0)) = some zs) :
    (allReduce b).Runs g r s [Round.among W (sumTable contents) r] fun _ s' =>
      s' = written (noted s .allReduce) b (Bytes.encodeWords b.dtype.size zs) := by
  have hW : 0 < W := Nat.lt_of_le_of_lt (Nat.zero_le r) hr
  have hranks := Number.range_eq_cons hW
  have hlink : (noted s .allReduce).2.Idle g W r := hl
  have hheld : (noted s .allReduce).1.heap.Holds b (contents r) := hb
  have hposts : Program.Follows g r (Act.forEach (others W r) (postBytes (contents r))
      (noted s .allReduce)) _ _ :=
    Act.follows_forEach fun p _ => follows_postBytes hlink (contents r) p
  rw [← List.map_eq_flatMap] at hposts
  have hlength := length_sum hr hb hsize hsum
  have hbytes : onHeap (Heap.bytes b) (noted s .allReduce) =
      .done (.ok (contents r), noted s .allReduce) := onHeap_eq hheld.bytes
  obtain ⟨first, hfirst, hown⟩ := follows_contribution laws hlink 0 ht hstrided (hsize 0 hW)
  obtain ⟨total, htotal, hadded⟩ := follows_addContributions laws hlink ht hstrided
    (fun p hp => hsize p (lt_of_mem_others hW hp)) hfirst
    (Buffer.product?_eq_length_decodeWords ht (hsize 0 hW)) hsum
  have hcontent : (total.bytes.mapError ExchangeError.device) =
      .ok (Bytes.encodeWords b.dtype.size zs) := by
    rw [htotal.bytes_eq ht, Outcome.mapError]
    rw [hb.size, ← hlength, Bytes.length_encodeWords]
  have hset : onHeap (Heap.setBytes b (Bytes.encodeWords b.dtype.size zs)) (noted s .allReduce) =
      .done (.ok (), written (noted s .allReduce) b (Bytes.encodeWords b.dtype.size zs)) :=
    onHeap_eq (hheld.setBytes hlength)
  let store (sum : Tensor) : LinkAct Unit :=
    Act.bind (Act.ofOutcome (sum.bytes.mapError ExchangeError.device)) fun content =>
      onHeap (Heap.setBytes b content)
  have hstore : store total (noted s .allReduce) = _ :=
    (Act.bind_done (Act.outcome_done hcontent (noted s .allReduce))).trans hset
  refine .step (note_eq .allReduce) (.step hbytes (.step link_eq ?_))
  rw [hlink.worldSize, hlink.rank, hranks]
  refine ⟨(), _, ?_, rfl⟩
  rw [roundMoves, moves_sumTable, hranks, List.flatMap_cons]
  refine Act.follows_bind hposts ?_
  refine Act.follows_bind hown ?_
  have hrest := Act.follows_bind (f := store) hadded (Program.follows_nil_iff.2 hstore)
  rw [List.append_nil] at hrest
  exact hrest

end SimulatedLink

namespace Communicator

open SimulatedLink

variable {devices W r : Nat} {g : Bytes} {plus : Addition} {zs : List Nat} {contents : Nat → Bytes}
  {q : HostState × Communicator SimulatedLink} {b : Buffer}

/-- The state after a sum: the event is in the trace and the sum in the buffer. -/
def summed (q : HostState × Communicator SimulatedLink) (b : Buffer) (total : Bytes) :
    HostState × Communicator SimulatedLink :=
  linkPart.put q (written (noted (linkPart.get q) .allReduce) b total)

lemma runs_allReduce [TensorLibrary] (laws : TensorLaws plus) (hm : Member devices g W r q)
    (hr : r < W) (hdevice : b.device = q.2.link.device) (ht : b.dtype.hasTensor = true)
    (hstrided : Strided b.shape) (hb : q.1.heap.Holds b (contents r))
    (hsize : ∀ p < W, Buffer.sizeOf? b.dtype b.shape = some (contents p).length)
    (hsum : Number.sumAll? plus b.dtype (fun p => Bytes.decodeWords b.dtype.size (contents p))
      (List.range' 1 (W - 1)) (Bytes.decodeWords b.dtype.size (contents 0)) = some zs) :
    (allReduce (Host.platform devices) transport b).Runs g r q
      [Round.among W (sumTable contents) r] fun _ q' =>
        q' = summed q b (Bytes.encodeWords b.dtype.size zs) := by
  refine .step (checkDevice_eq hdevice) (.step (stream_eq hm) (.within ?_))
  refine (SimulatedLink.runs_allReduce (s := linkPart.get q) laws hm.link hr ht hstrided hb hsize
    hsum).mono ?_
  rintro _ _ rfl
  rfl

end Communicator

end ExpertExchange
