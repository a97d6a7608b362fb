import ExpertExchange.Group.Communicator
import ExpertExchange.Group.Simulated
import ExpertExchange.Proofs.Bytes.Chunk
import ExpertExchange.Proofs.Device.Held
import ExpertExchange.Proofs.Group.Script

/-!
# One round of the simulated transport

Inside a round transfers are only written down. The end of the round posts what the sending buffer
holds at that moment, takes what arrives, and puts it into the receiving buffer in the order in
which the receives were issued. All collectives move data by such rounds, from one buffer into one
buffer.
-/

namespace ExpertExchange

open Move

def Transfer.event (kind : StreamKind) (t : Transfer) : TraceEvent :=
  match t.kind with
  | .send => .send t.peer t.range kind
  | .recv => .recv t.peer t.range kind

/-- The transfer passes the checks in a group of `W` ranks. -/
structure Transfer.Legal (W : Nat) (t : Transfer) : Prop where
  peer : t.peer < W
  range : ∃ n, Buffer.sizeOf? t.buffer.dtype t.buffer.shape = some n ∧ t.range.Within n

/-- What arrives from a rank, and where it is put. -/
structure Parcel where
  peer : Nat
  range : ByteRange
  payload : Bytes

/-- The payload fills its range, which lies inside `size` bytes. -/
structure Parcel.Fits (p : Parcel) (size : Nat) : Prop where
  length : p.payload.length = p.range.length
  within : p.range.Within size

lemma Parcel.Fits.room {p : Parcel} {size : Nat} (h : p.Fits size) :
    p.range.start + p.payload.length ≤ size := by
  obtain ⟨hle, hend⟩ := h.within
  rw [h.length, ByteRange.length]
  omega

def Transfer.sending (b : Buffer) (m : Nat × ByteRange) : Transfer := ⟨.send, b, m.2, m.1⟩

def Transfer.receiving (b : Buffer) (p : Parcel) : Transfer := ⟨.recv, b, p.range, p.peer⟩

namespace SimulatedLink

variable {g : Bytes} {W r : Nat} {kind : StreamKind} {α : Type}

/-- The link of rank `r` in the group `g` of `W` ranks, without an open round. -/
structure Idle (g : Bytes) (W r : Nat) (l : SimulatedLink) : Prop where
  group : l.group = g
  worldSize : l.worldSize = W
  rank : l.rank = r
  depth : l.depth = 0
  pending : l.pending = []

/-- The state with more transfers, and their events, at the end of the open round and of the
trace. -/
def queued (kind : StreamKind) (ts : List Transfer) (s : HostState × SimulatedLink) :
    HostState × SimulatedLink :=
  ({ s.1 with trace := s.1.trace ++ ts.map (·.event kind) },
    { s.2 with pending := s.2.pending ++ ts })

/-- In an open round of a group of `W` ranks the act does nothing but queue these transfers. -/
def Queues (W : Nat) (kind : StreamKind) (m : LinkAct Unit) (ts : List Transfer) : Prop :=
  ∀ s : HostState × SimulatedLink, s.2.worldSize = W → 0 < s.2.depth →
    m s = .done (.ok (), queued kind ts s)

lemma Queues.nil : Queues W kind (pure ()) [] := by
  intro s _ _
  simp only [queued, List.map_nil, List.append_nil]
  rfl

lemma Queues.bind {m : LinkAct Unit} {f : Unit → LinkAct Unit} {ts ts' : List Transfer}
    (hm : Queues W kind m ts) (hf : Queues W kind (f ()) ts') :
    Queues W kind (m.bind f) (ts ++ ts') := by
  intro s hW hd
  refine (Act.bind_done (hm s hW hd)).trans ((hf (queued kind ts s) hW hd).trans ?_)
  simp only [queued, List.map_append, List.append_assoc]

lemma Queues.after {β : Type} {o : Outcome ExchangeError β} {b : β} {f : β → LinkAct Unit}
    {ts : List Transfer} (ho : o = .ok b) (hf : Queues W kind (f b) ts) :
    Queues W kind ((Act.ofOutcome o).bind f) ts := by
  intro s hW hd
  exact (Act.bind_done (Act.outcome_done ho s)).trans (hf s hW hd)

lemma Queues.forEach {f : α → LinkAct Unit} {ts : α → List Transfer} {xs : List α}
    (h : ∀ x ∈ xs, Queues W kind (f x) (ts x)) :
    Queues W kind (Act.forEach xs f) (xs.flatMap ts) := by
  induction xs with
  | nil => exact .nil
  | cons x xs ih =>
    exact (h x List.mem_cons_self).bind (ih fun y hy => h y (List.mem_cons_of_mem x hy))

lemma issue_open (s : HostState × SimulatedLink) (t : Transfer) (hd : 0 < s.2.depth) :
    issue t s = .done (.ok (), (s.1, { s.2 with pending := s.2.pending ++ [t] })) := by
  change (if 0 < s.2.depth then
    Act.modify fun s => (s.1, { s.2 with pending := s.2.pending ++ [t] })
    else perform t) s = _
  rw [if_pos hd]
  rfl

lemma checkPeer_eq {s : HostState × SimulatedLink} {peer : Nat} (h : peer < s.2.worldSize) :
    checkPeer peer s = .done (.ok (), s) := by
  exact Act.ensure_done h _ s

lemma checkRange_eq {s : HostState × SimulatedLink} {b : Buffer} {range : ByteRange} {n : Nat}
    (hn : Buffer.sizeOf? b.dtype b.shape = some n) (h : range.Within n) :
    checkRange b range s = .done (.ok (), s) := by
  change Act.bind (Act.ofOutcome (Buffer.sizeOf b.dtype b.shape)) _ s = _
  rw [Buffer.sizeOf_eq hn]
  exact Act.ensure_done h _ s

lemma queues_send {b : Buffer} {range : ByteRange} {peer : Nat} {stream : Stream}
    (h : (Transfer.sending b (peer, range)).Legal W) :
    Queues W stream.kind (send b range peer stream) [.sending b (peer, range)] := by
  obtain ⟨hpeer, n, hn, hrange⟩ := h
  intro s hW hd
  refine (Act.bind_done (checkPeer_eq (hW ▸ hpeer))).trans ?_
  refine (Act.bind_done (checkRange_eq hn hrange)).trans ?_
  exact (Act.bind_done rfl).trans (issue_open (s.1.note _, s.2) _ hd)

lemma queues_recv {b : Buffer} {p : Parcel} {stream : Stream}
    (h : (Transfer.receiving b p).Legal W) :
    Queues W stream.kind (recv b p.range p.peer stream) [.receiving b p] := by
  obtain ⟨hpeer, n, hn, hrange⟩ := h
  intro s hW hd
  refine (Act.bind_done (checkPeer_eq (hW ▸ hpeer))).trans ?_
  refine (Act.bind_done (checkRange_eq hn hrange)).trans ?_
  exact (Act.bind_done rfl).trans (issue_open (s.1.note _, s.2) _ hd)

variable {s : HostState × SimulatedLink} {b src dst : Buffer} {c d : Bytes}
  {sends : α → List (Nat × ByteRange)} {parcels : α → List Parcel} {xs : List α}

/-- In a round all sends come first, wherever in it they were issued. -/
lemma roundOrder_flatMap :
    roundOrder (xs.flatMap fun x =>
        (sends x).map (.sending src) ++ (parcels x).map (.receiving dst)) =
      (xs.flatMap sends).map (.sending src) ++ (xs.flatMap parcels).map (.receiving dst) := by
  have hsent : ∀ l : List (Nat × ByteRange),
      (l.map (Transfer.sending src)).filter (·.kind = .send) = l.map (.sending src) := fun l =>
    List.filter_eq_self.2 (List.forall_mem_map.2 fun _ _ => rfl)
  have hnotSent : ∀ l : List Parcel,
      (l.map (Transfer.receiving dst)).filter (·.kind = .send) = [] := fun l =>
    List.filter_eq_nil_iff.2 (List.forall_mem_map.2 fun _ _ => nofun)
  have hreceived : ∀ l : List Parcel,
      (l.map (Transfer.receiving dst)).filter (·.kind = .recv) = l.map (.receiving dst) := fun l =>
    List.filter_eq_self.2 (List.forall_mem_map.2 fun _ _ => rfl)
  have hnotReceived : ∀ l : List (Nat × ByteRange),
      (l.map (Transfer.sending src)).filter (·.kind = .recv) = [] := fun l =>
    List.filter_eq_nil_iff.2 (List.forall_mem_map.2 fun _ _ => nofun)
  simp only [roundOrder, List.filter_flatMap, List.filter_append, hsent, hnotSent, hreceived,
    hnotReceived, List.append_nil, List.nil_append, List.map_flatMap]

def written (s : HostState × SimulatedLink) (b : Buffer) (c : Bytes) : HostState × SimulatedLink :=
  ({ s.1 with heap := s.1.heap.write b c }, s.2)

lemma onHeap_eq {m : Act Net Heap DeviceError α} {a : α} {h : Heap}
    (hm : m s.1.heap = .done (.ok a, h)) :
    onHeap m s = .done (.ok a, ({ s.1 with heap := h }, s.2)) :=
  Act.within_done (Act.mapError_done hm)

lemma follows_postBytes (hl : s.2.Idle g W r) (payload : Bytes) (peer : Nat) :
    Program.Follows g r (postBytes payload peer s) [.post peer payload] (.ok (), s) := by
  have heq : postBytes payload peer s =
      .ask (.post g ⟨r, peer, payload⟩) fun _ => .done (.ok (), s) := by
    rw [← hl.group, ← hl.rank]
    rfl
  rw [heq]
  exact .post (.done _)

lemma checkBounds_eq {range : ByteRange} (h : range.Within c.length) :
    checkBounds c range s = .done (.ok (), s) := by
  apply Act.outcome_done
  exact if_pos h

lemma follows_post (hl : s.2.Idle g W r) (hc : s.1.heap.Holds b c) {range : ByteRange}
    (hrange : range.Within c.length) (peer : Nat) :
    Program.Follows g r (post b range peer s) [.post peer (c.slice range)] (.ok (), s) := by
  have heq : post b range peer s = postBytes (c.slice range) peer s :=
    (Act.bind_done (onHeap_eq hc.bytes)).trans (Act.bind_done (checkBounds_eq hrange))
  rw [heq]
  exact follows_postBytes hl _ peer

lemma follows_take (hl : s.2.Idle g W r) (peer : Nat) (payload : Bytes) :
    Program.Follows g r (take peer s) [.take peer payload] (.ok payload, s) := by
  have heq : take peer s = .ask (.take g peer r) fun
      | some payload => .done (.ok payload, s)
      | none => .done (.error (.transport (.silence s.2.rank peer s.2.patience)), s) := by
    change Act.bind (Act.request (S := Net) (.take s.2.group peer s.2.rank)) _ s = _
    rw [hl.group, hl.rank]
    simp only [Act.bind, Act.request, Program.bind]
    congr 1
    funext x
    cases x <;> rfl
  rw [heq]
  exact .take (.done _)

lemma follows_deliver (hl : s.2.Idle g W r) (hd : s.1.heap.Holds b d) {p : Parcel}
    (hp : p.Fits d.length) :
    Program.Follows g r (deliver b p.range p.peer s) [.take p.peer p.payload]
      (.ok (), written s b (d.overwrite p.range.start p.payload)) := by
  have hlength : (d.overwrite p.range.start p.payload).length = d.length :=
    Bytes.length_overwrite hp.room
  change Program.Follows g r (Act.bind (take p.peer) _ s) _ _
  refine (follows_take hl p.peer p.payload).map ?_
  change Act.bind (Act.ensure (p.payload.length = p.range.length) _) _ s = _
  simp only [Act.bind, Act.ensure, if_pos hp.length]
  change Act.bind (onHeap (Heap.bytes b)) _ s = _
  refine (Act.bind_done (onHeap_eq hd.bytes)).trans ?_
  refine (Act.bind_done (checkBounds_eq hp.within)).trans ?_
  exact onHeap_eq (hd.setBytes hlength)

/-- All sends of a round, from one buffer. -/
lemma follows_sends (hl : s.2.Idle g W r) (hc : s.1.heap.Holds src c)
    (sends : List (Nat × ByteRange)) (hsends : ∀ m ∈ sends, m.2.Within c.length) :
    Program.Follows g r (Act.forEach (sends.map (.sending src)) perform s)
      (sends.map fun m => .post m.1 (c.slice m.2)) (.ok (), s) := by
  have hmap : Act.forEach (sends.map (.sending src)) perform =
      Act.forEach sends fun m => post src m.2 m.1 := Act.forEach_map _ _ _
  rw [hmap, List.map_eq_flatMap]
  exact Act.follows_forEach fun m hm => follows_post hl hc (hsends m hm) m.1

def placed (parcels : List Parcel) : List (Nat × Bytes) :=
  parcels.map fun p => (p.range.start, p.payload)

lemma length_placed {parcels : List Parcel} (h : ∀ p ∈ parcels, p.Fits d.length) :
    (d.overwriteAll (placed parcels)).length = d.length :=
  Bytes.length_overwriteAll (List.forall_mem_map.2 fun p hp => (h p hp).room)

/-- All receives of a round, into one buffer. -/
lemma follows_recvs (hl : s.2.Idle g W r) (hd : s.1.heap.Holds dst d) (parcels : List Parcel)
    (hp : ∀ p ∈ parcels, p.Fits d.length) :
    Program.Follows g r (Act.forEach (parcels.map (.receiving dst)) perform s)
      (parcels.map fun p => .take p.peer p.payload)
      (.ok (), written s dst (d.overwriteAll (placed parcels))) := by
  induction parcels generalizing s d with
  | nil =>
    simp only [placed, List.map_nil, Bytes.overwriteAll_nil, written, hd.write_self]
    exact .done _
  | cons p parcels ih =>
    have hfit := hp p List.mem_cons_self
    have hlength : (d.overwrite p.range.start p.payload).length = d.length :=
      Bytes.length_overwrite hfit.room
    have hrest := ih (s := written s dst (d.overwrite p.range.start p.payload)) hl
      (hd.written hlength) fun q hq => hlength ▸ hp q (List.mem_cons_of_mem p hq)
    simp only [written, Heap.write_write] at hrest
    exact (follows_deliver hl hd hfit).bind hrest

/-- The state inside a round in which nothing was issued yet. -/
def opened (s : HostState × SimulatedLink) : HostState × SimulatedLink :=
  (s.1.note .groupStart, { s.2 with depth := 1 })

/-- What the trace says of the transfers of a round, in the order in which they were issued. -/
def roundEvents (kind : StreamKind) (sends : α → List (Nat × ByteRange))
    (parcels : α → List Parcel) (xs : List α) : List TraceEvent :=
  xs.flatMap fun x => (sends x).map (fun m => .send m.1 m.2 kind) ++
    (parcels x).map fun p => .recv p.peer p.range kind

lemma map_event_flatMap :
    (xs.flatMap fun x => (sends x).map (Transfer.sending src) ++
      (parcels x).map (Transfer.receiving dst)).map (·.event kind) =
      roundEvents kind sends parcels xs := by
  simp only [List.map_flatMap, List.map_append, List.map_map]
  rfl

def traced (s : HostState × SimulatedLink) (events : List TraceEvent) :
    HostState × SimulatedLink :=
  ({ s.1 with trace := s.1.trace ++ .groupStart :: events ++ [.groupEnd] }, s.2)

lemma groupStart_eq (hl : s.2.Idle g W r) : groupStart s = .done (.ok (), opened s) := by
  change Program.done (Outcome.ok (), (_, { s.2 with depth := s.2.depth + 1 })) = _
  rw [hl.depth]
  rfl

lemma groupEnd_eq (hl : s.2.Idle g W r) (ts : List Transfer) :
    groupEnd (queued kind ts (opened s)) =
      Act.forEach (roundOrder ts) perform (traced s (ts.map (·.event kind))) := by
  have hpending : (queued kind ts (opened s)).2.pending = ts := by
    simp only [queued, opened, hl.pending, List.nil_append]
  have hclosed : traced s (ts.map (·.event kind)) =
      ((queued kind ts (opened s)).1.note .groupEnd, { s.2 with depth := 0, pending := [] }) := by
    rw [← hl.depth, ← hl.pending]
    simp [traced, queued, opened, HostState.note]
  rw [hclosed]
  change Act.forEach (roundOrder (queued kind ts (opened s)).2.pending) perform _ = _
  rw [hpending]
  rfl

/-- One round. What a buffer held before the round is sent, whatever arrives is put into a buffer,
which may be the same one. -/
lemma runs_inRound [TensorLibrary] (hl : s.2.Idle g W r) (hc : s.1.heap.Holds src c)
    (hd : s.1.heap.Holds dst d) {m : LinkAct Unit}
    (hm : Queues W kind m
      (xs.flatMap fun x => (sends x).map (.sending src) ++ (parcels x).map (.receiving dst)))
    (hs : ∀ x ∈ xs, ∀ m ∈ sends x, m.2.Within c.length)
    (hp : ∀ x ∈ xs, ∀ p ∈ parcels x, p.Fits d.length) :
    (Communicator.inRound transport m).Runs g r s
      [⟨(xs.flatMap sends).map fun m => (m.1, c.slice m.2),
        (xs.flatMap parcels).map fun p => (p.peer, p.payload)⟩]
      fun _ s' => s' = written (traced s (roundEvents kind sends parcels xs)) dst
        (d.overwriteAll (placed (xs.flatMap parcels))) := by
  generalize hts : xs.flatMap (fun x =>
    (sends x).map (Transfer.sending src) ++ (parcels x).map (.receiving dst)) = ts at hm
  have hevents : roundEvents kind sends parcels xs = ts.map (·.event kind) := by
    rw [← hts, map_event_flatMap]
  rw [hevents]
  refine ⟨(), _, ?_, rfl⟩
  have hround : Communicator.inRound transport m s =
      Act.forEach (roundOrder ts) perform (traced s (ts.map (·.event kind))) := by
    change Act.bind groupStart (fun _ => Act.bind m fun _ => groupEnd) s = _
    refine (Act.bind_done (groupStart_eq hl)).trans ?_
    exact (Act.bind_done (hm (opened s) hl.worldSize Nat.zero_lt_one)).trans (groupEnd_eq hl ts)
  have hsends := follows_sends (s := traced s (ts.map (·.event kind))) hl hc (xs.flatMap sends)
    fun m hmem => by
      obtain ⟨x, hx, hmx⟩ := List.mem_flatMap.1 hmem
      exact hs x hx m hmx
  have hrecvs := follows_recvs (s := traced s (ts.map (·.event kind))) hl hd
    (xs.flatMap parcels) fun p hmem => by
      obtain ⟨x, hx, hpx⟩ := List.mem_flatMap.1 hmem
      exact hp x hx p hpx
  rw [hround, ← hts, roundOrder_flatMap, Act.forEach_append, hts]
  simpa only [List.flatMap_cons, List.flatMap_nil, List.append_nil, Round.moves, List.map_map,
    Function.comp_def] using Act.follows_bind hsends hrecvs

end SimulatedLink

end ExpertExchange
