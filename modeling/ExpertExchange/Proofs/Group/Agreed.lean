import ExpertExchange.Proofs.Group.Summed

/-!
# Broadcasts and sums

After a broadcast all members hold what the root held, and after a sum they all hold the sum of
what they held before, added up in rank order. Both take one round of messages, though neither
opens a round of the transport.
-/

namespace ExpertExchange

namespace SimulatedLink

variable {g : Bytes} {W r root : Nat} {s : HostState × SimulatedLink} {b : Buffer} {c d : Bytes}

def broadcastTable (root : Nat) (payload : Bytes) (p q : Nat) : List Bytes :=
  if p = root ∧ q ≠ root then [payload] else []

lemma among_broadcast_root (payload : Bytes) :
    Round.among W (broadcastTable root payload) root =
      ⟨(others W root).map (·, payload), []⟩ := by
  have hposts := map_filter_eq_flatMap (List.range W) (· ≠ root) (·, payload)
  simp only [Round.among, broadcastTable, others, hposts, true_and, ne_eq, not_true, and_false,
    if_false, List.map_nil, flatMap_const_nil, map_ite_singleton]

lemma among_broadcast_other (payload : Bytes) (hroot : root < W) (hr : r ≠ root) :
    Round.among W (broadcastTable root payload) r = ⟨[], [(root, payload)]⟩ := by
  have htakes := flatMap_range_ite hroot fun p => [(p, payload)]
  simp only [Round.among, broadcastTable, hr, false_and, if_false, List.map_nil,
    flatMap_const_nil, ne_eq, not_false_eq_true, and_true, map_ite_singleton, htakes]

lemma overwrite_all (h : d.length = c.length) : d.overwrite 0 c = c := by
  rw [Bytes.overwrite, List.take_zero, List.nil_append, Nat.zero_add,
    List.drop_eq_nil_of_le (Nat.le_of_eq h), List.append_nil]

lemma slice_all (c : Bytes) : c.slice ⟨0, c.length⟩ = c := by
  rw [Bytes.slice, List.drop_zero, ByteRange.length, Nat.sub_zero, List.take_length]

lemma runs_broadcast (hl : s.2.Idle g W r) (hroot : root < W) (hb : s.1.heap.Holds b d)
    (hlength : d.length = c.length) (hown : r = root → d = c) :
    (broadcast b root).Runs g r s [Round.among W (broadcastTable root c) r] fun _ s' =>
      s' = written (noted s (.broadcast root)) b c := by
  refine .step (checkPeer_eq (hl.worldSize ▸ hroot)) (.step (note_eq (.broadcast root)) ?_)
  refine .step (Act.outcome_done hb.byteCount (noted s (.broadcast root))) ?_
  refine .step link_eq ?_
  have hheld : (noted s (.broadcast root)).1.heap.Holds b d := hb
  have hlink : (noted s (.broadcast root)).2.Idle g W r := hl
  by_cases hr : r = root
  · rw [if_pos (hlink.rank.trans hr), hlink.worldSize, hr, among_broadcast_root]
    subst hr
    obtain rfl := hown rfl
    have hwritten : written (noted s (.broadcast r)) b d = noted s (.broadcast r) := by
      rw [written, hheld.write_self]
    refine ⟨(), noted s (.broadcast r), ?_, hwritten.symm⟩
    have hwhole : (ByteRange.mk 0 d.length).Within d.length := ⟨Nat.zero_le _, Nat.le_refl _⟩
    have hposts : Program.Follows g r (Act.forEach (others W r) (post b ⟨0, d.length⟩)
        (noted s (.broadcast r))) _ _ :=
      Act.follows_forEach fun p _ => follows_post hlink hheld hwhole p
    rw [slice_all, ← List.map_eq_flatMap] at hposts
    simpa [Round.moves, Function.comp_def] using hposts
  · rw [if_neg fun h => hr (hlink.rank.symm.trans h), among_broadcast_other c hroot hr]
    have hdeliver := follows_deliver hlink hheld (p := ⟨root, ⟨0, d.length⟩, c⟩)
      ⟨hlength.symm, Nat.zero_le _, Nat.le_refl _⟩
    rw [show d.overwrite 0 c = c from overwrite_all hlength] at hdeliver
    exact ⟨(), _, hdeliver, rfl⟩

end SimulatedLink

namespace Communicator

open SimulatedLink

variable {plus : Addition} {devices W r root : Nat} {g c d : Bytes} {zs : List Nat}
  {contents : Nat → Bytes} {q : HostState × Communicator SimulatedLink} {b : Buffer}

lemma kept_written (q : HostState × Communicator SimulatedLink) (e : TraceEvent) (b : Buffer)
    (c : Bytes) : Kept (· = b.cell) q (linkPart.put q (written (noted (linkPart.get q) e) b c)) :=
  ⟨rfl, rfl, Heap.keeps_write _ _ _⟩

lemma topology?_eq : (topology? : Act Net (HostState × Communicator SimulatedLink) ExchangeError
    Topology) q = .done (.ok q.2.topology, q) := rfl

variable [TensorLibrary]

lemma runs_broadcast (hm : Member devices g W r q) (hroot : root < W)
    (hdevice : b.device = q.2.link.device) (hb : q.1.heap.Holds b d) (hlength : d.length = c.length)
    (hown : r = root → d = c) :
    (broadcast (Host.platform devices) transport b root).Runs g r q
      [Round.among W (broadcastTable root c) r] fun _ q' =>
        Kept (· = b.cell) q q' ∧ q'.1.heap.Holds b c := by
  refine .step topology?_eq ?_
  refine .step (Act.ensure_done (hm.worldSize ▸ hroot) _ q) ?_
  refine .step (checkDevice_eq hdevice) (.step (stream_eq hm) (.within ?_))
  have hrun := SimulatedLink.runs_broadcast (s := linkPart.get q) hm.link hroot hb hlength hown
  refine hrun.mono ?_
  rintro _ _ rfl
  exact ⟨kept_written q _ b c, hb.written hlength.symm⟩

lemma keeps_allReduce (laws : TensorLaws plus) (hm : Member devices g W r q)
    (hr : r < W) (hdevice : b.device = q.2.link.device) (ht : b.dtype.hasTensor = true)
    (hstrided : Strided b.shape) (hb : q.1.heap.Holds b (contents r))
    (hsize : ∀ p < W, Buffer.sizeOf? b.dtype b.shape = some (contents p).length)
    (hsum : Number.sumAll? plus b.dtype (fun p => Bytes.decodeWords b.dtype.size (contents p))
      (List.range' 1 (W - 1)) (Bytes.decodeWords b.dtype.size (contents 0)) = some zs) :
    (allReduce (Host.platform devices) transport b).Runs g r q
      [Round.among W (sumTable contents) r] fun _ q' =>
        Kept (· = b.cell) q q' ∧ q'.1.heap.Holds b (Bytes.encodeWords b.dtype.size zs) := by
  have hlength := length_sum (s := linkPart.get q) hr hb hsize hsum
  refine (runs_allReduce laws hm hr hdevice ht hstrided hb hsize hsum).mono ?_
  rintro _ _ rfl
  exact ⟨kept_written q _ b _, hb.written hlength⟩

variable {qs : Nat → HostState × Communicator SimulatedLink} {bs : Nat → Buffer}
  {ds : Nat → Bytes} {t : Dtype}

/-- A broadcast into buffers of as many bytes as the root's. -/
lemma lockstep_broadcast (hW : 0 < W) (hroot : root < W)
    (hm : ∀ r < W, Member devices g W r (qs r))
    (hb : ∀ r < W, (bs r).device = (qs r).2.link.device ∧ (qs r).1.heap.Holds (bs r) (ds r) ∧
      (ds r).length = (ds root).length) :
    Lockstep g W (fun r => broadcast (Host.platform devices) transport (bs r) root) qs
      fun _ qs' => ∀ r < W, Kept (fun _ => True) (qs r) (qs' r) := by
  have hruns : ∀ r < W, (broadcast (Host.platform devices) transport (bs r) root).Runs g r (qs r)
      ([broadcastTable root (ds root)].map fun table => Round.among W table r) fun _ q' =>
        Kept (· = (bs r).cell) (qs r) q' ∧ q'.1.heap.Holds (bs r) (ds root) := by
    intro r hr
    obtain ⟨hdevice, hheld, hlength⟩ := hb r hr
    exact runs_broadcast (hm r hr) hroot hdevice hheld hlength fun h => congrArg ds h
  refine (Lockstep.of_tables hW _ hruns).mono ?_
  intro _ qs' h r hr
  exact (h r hr).1.mono fun _ _ _ => trivial

/-- A sum of buffers of one type and size, of shapes with strides, none of whose sums is outside the
type. -/
lemma lockstep_allReduce (laws : TensorLaws plus) (hW : 0 < W)
    (ht : t.hasTensor = true) (hm : ∀ r < W, Member devices g W r (qs r))
    (hb : ∀ r < W, (bs r).device = (qs r).2.link.device ∧ (bs r).dtype = t ∧
      Strided (bs r).shape ∧ (qs r).1.heap.Holds (bs r) (ds r) ∧ (ds r).length = (ds 0).length)
    (hsum : Number.sumAll? plus t (fun p => Bytes.decodeWords t.size (ds p)) (List.range' 1 (W - 1))
      (Bytes.decodeWords t.size (ds 0)) = some zs) :
    Lockstep g W (fun r => allReduce (Host.platform devices) transport (bs r)) qs
      fun _ qs' => ∀ r < W, Kept (fun _ => True) (qs r) (qs' r) := by
  have hruns : ∀ r < W, (allReduce (Host.platform devices) transport (bs r)).Runs g r (qs r)
      ([sumTable ds].map fun table => Round.among W table r) fun _ q' =>
        Kept (· = (bs r).cell) (qs r) q' ∧
          q'.1.heap.Holds (bs r) (Bytes.encodeWords (bs r).dtype.size zs) := by
    intro r hr
    obtain ⟨hdevice, htype, hstrided, hheld, hlength⟩ := hb r hr
    have hsize : ∀ p < W, Buffer.sizeOf? (bs r).dtype (bs r).shape = some (ds p).length := by
      intro p hp
      obtain ⟨-, -, -, -, hother⟩ := hb p hp
      rw [hother, ← hlength]
      exact hheld.size
    subst htype
    exact keeps_allReduce laws (hm r hr) hr hdevice ht hstrided hheld hsize hsum
  refine (Lockstep.of_tables hW _ hruns).mono ?_
  intro _ qs' h r hr
  exact (h r hr).1.mono fun _ _ _ => trivial

end Communicator

end ExpertExchange
