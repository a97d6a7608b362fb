import ExpertExchange.Proofs.Act.Conversed
import ExpertExchange.Proofs.Device.Elements
import ExpertExchange.Proofs.Group.Exchanged

/-!
# Rounds within rounds

Rounds may nest, and only the outermost one counts: up to its end transfers are written down and
nothing is said to the network. The end posts all sends, with what their buffers hold then, and
serves the receives after that, in the order in which they were issued and up to the first one that
fails. The round is over in any case.
-/

namespace ExpertExchange

namespace SimulatedLink

/-- The calls that make up rounds. -/
inductive Call where
  | groupStart
  | groupEnd
  | transfer (t : Transfer) (stream : Stream)

namespace Call

def run : Call → LinkAct Unit
  | .groupStart => SimulatedLink.groupStart
  | .groupEnd => SimulatedLink.groupEnd
  | .transfer ⟨.send, b, range, peer⟩ stream => send b range peer stream
  | .transfer ⟨.recv, b, range, peer⟩ stream => recv b range peer stream

def event : Call → TraceEvent
  | .groupStart => .groupStart
  | .groupEnd => .groupEnd
  | .transfer t stream => t.event stream.kind

def transfer? : Call → Option Transfer
  | .transfer t _ => some t
  | _ => none

end Call

/-- Every round that is opened in the calls is closed in them, and no other one. -/
inductive Balanced : List Call → Prop where
  | nil : Balanced []
  | transfer (t : Transfer) (stream : Stream) {rest : List Call} (h : Balanced rest) :
      Balanced (.transfer t stream :: rest)
  | round {inner rest : List Call} (hinner : Balanced inner) (h : Balanced rest) :
      Balanced (.groupStart :: (inner ++ .groupEnd :: rest))

def issued (calls : List Call) : List Transfer := calls.filterMap Call.transfer?

@[simp] lemma issued_append (calls more : List Call) :
    issued (calls ++ more) = issued calls ++ issued more :=
  List.filterMap_append

@[simp] lemma issued_transfer (t : Transfer) (stream : Stream) (calls : List Call) :
    issued (.transfer t stream :: calls) = t :: issued calls := rfl

@[simp] lemma issued_groupStart (calls : List Call) :
    issued (.groupStart :: calls) = issued calls := rfl

@[simp] lemma issued_groupEnd (calls : List Call) :
    issued (.groupEnd :: calls) = issued calls := rfl

@[simp] lemma issued_nil : issued [] = [] := rfl

variable {g : Bytes} {W r : Nat} {s : HostState × SimulatedLink} {calls inner : List Call}

/-- The state after calls in an open round: their transfers are pending, and nothing but the trace
has changed otherwise. -/
def afterCalls (calls : List Call) (s : HostState × SimulatedLink) : HostState × SimulatedLink :=
  ({ s.1 with trace := s.1.trace ++ calls.map Call.event },
    { s.2 with pending := s.2.pending ++ issued calls })

lemma afterCalls_nil : afterCalls [] s = s := by
  simp [afterCalls]

lemma afterCalls_append (calls more : List Call) (s : HostState × SimulatedLink) :
    afterCalls (calls ++ more) s = afterCalls more (afterCalls calls s) := by
  simp [afterCalls]

lemma run_transfer {t : Transfer} (stream : Stream) (ht : t.Legal s.2.worldSize)
    (hd : 0 < s.2.depth) :
    (Call.transfer t stream).run s = .done (.ok (), afterCalls [.transfer t stream] s) := by
  obtain ⟨kind, b, range, peer⟩ := t
  cases kind with
  | send =>
    have h : (Transfer.sending b (peer, range)).Legal s.2.worldSize := ht
    exact queues_send h s rfl hd
  | recv =>
    have h : (Transfer.receiving b ⟨peer, range, []⟩).Legal s.2.worldSize := ht
    exact queues_recv h s rfl hd

def deeper (s : HostState × SimulatedLink) : HostState × SimulatedLink :=
  (s.1.note .groupStart, { s.2 with depth := s.2.depth + 1 })

lemma groupStart_done : groupStart s = .done (.ok (), deeper s) := rfl

/-- The end of an inner round closes that round and does no more. -/
lemma groupEnd_inner {depth : Nat} (hd : s.2.depth = depth + 2) :
    groupEnd s = .done (.ok (), (s.1.note .groupEnd, { s.2 with depth := depth + 1 })) := by
  obtain ⟨h, group, worldSize, rank, device, patience, d, pending⟩ := s
  obtain rfl : d = depth + 2 := hd
  rfl

/-- A closed inner round leaves its transfers behind, as if they had been issued outside of it. -/
lemma groupEnd_afterCalls (hd : 0 < s.2.depth) :
    groupEnd (afterCalls inner (deeper s)) =
      .done (.ok (), afterCalls (.groupStart :: (inner ++ [.groupEnd])) s) := by
  obtain ⟨depth, hdepth⟩ := Nat.exists_eq_add_of_lt hd
  have hdeep : (afterCalls inner (deeper s)).2.depth = depth + 2 := by
    change s.2.depth + 1 = depth + 2
    omega
  have hback : depth + 1 = s.2.depth := by omega
  rw [groupEnd_inner hdeep, hback]
  simp [afterCalls, deeper, Call.event, HostState.note]

/-- In an open round balanced calls ask nothing, and their transfers are pending after them. -/
lemma forEach_balanced (hcalls : Balanced calls) (hd : 0 < s.2.depth)
    (ht : ∀ t ∈ issued calls, t.Legal s.2.worldSize) :
    Act.forEach calls Call.run s = .done (.ok (), afterCalls calls s) := by
  induction hcalls generalizing s with
  | nil =>
    rw [afterCalls_nil]
    rfl
  | transfer t stream _ ih =>
    rw [issued_transfer, List.forall_mem_cons] at ht
    rw [Act.forEach, Act.bind_done (run_transfer stream ht.1 hd)]
    refine (ih (s := afterCalls [.transfer t stream] s) hd ht.2).trans ?_
    rw [← afterCalls_append, List.singleton_append]
  | round _ _ ihinner ihrest =>
    rw [issued_groupStart, issued_append, issued_groupEnd, List.forall_mem_append] at ht
    rw [Act.forEach]
    refine (Act.bind_done groupStart_done).trans ?_
    rw [Act.forEach_append]
    refine (Act.bind_done (ihinner (s := deeper s) (Nat.succ_pos _) ht.1)).trans ?_
    refine (Act.bind_done (groupEnd_afterCalls hd)).trans ?_
    refine (ihrest (s := afterCalls _ s) hd ht.2).trans ?_
    rw [← afterCalls_append, List.cons_append, List.append_assoc, List.singleton_append]

def posted (l : SimulatedLink) (peer : Nat) (payload : Bytes) : Net.Reply :=
  ⟨.post l.group ⟨l.rank, peer, payload⟩, ()⟩

/-- A message that a rank waits for, and what arrives. -/
def taken (l : SimulatedLink) (peer : Nat) (answer : Option Bytes) : Net.Reply :=
  ⟨.take l.group peer l.rank, answer⟩

/-- What becomes of one receive: nothing arrives, or a message of the wrong length, or the message
is put into its place. -/
inductive Received (l : SimulatedLink) (t : Transfer) (h : Heap) :
    List Net.Reply → Outcome ExchangeError Unit → Heap → Prop where
  | silence : Received l t h [taken l t.peer none]
      (.error (.transport (.silence l.rank t.peer l.patience))) h
  | wrongLength (payload : Bytes) (hlength : payload.length ≠ t.range.length) :
      Received l t h [taken l t.peer (some payload)]
        (.error (.transport (.wrongLength l.rank t.range.length t.peer payload.length))) h
  | stored (payload : Bytes) (hlength : payload.length = t.range.length) :
      Received l t h [taken l t.peer (some payload)] (.ok ())
        (h.write t.buffer ((h.content t.buffer).overwrite t.range.start payload))

/-- Receives are served in order, up to the first that fails. -/
inductive Receives (l : SimulatedLink) :
    List Transfer → Heap → List Net.Reply → Outcome ExchangeError Unit → Heap → Prop where
  | done (h : Heap) : Receives l [] h [] (.ok ()) h
  | next {t : Transfer} {ts : List Transfer} {h h' h'' : Heap} {first rest : List Net.Reply}
      {o : Outcome ExchangeError Unit} (hfirst : Received l t h first (.ok ()) h')
      (hrest : Receives l ts h' rest o h'') : Receives l (t :: ts) h (first ++ rest) o h''
  | stop {t : Transfer} {ts : List Transfer} {h h' : Heap} {replies : List Net.Reply}
      {e : ExchangeError} (hstop : Received l t h replies (.error e) h') :
      Receives l (t :: ts) h replies (.error e) h'

/-- The posts of all sends among some transfers, with the bytes that their buffers hold. -/
def posts (l : SimulatedLink) (h : Heap) (ts : List Transfer) : List Net.Reply :=
  (ts.filter (·.kind = .send)).map fun t =>
    posted l t.peer ((h.content t.buffer).slice t.range)

/-- The end of a round of these transfers: all sends are posted, with what the buffers hold at that
moment, and then the receives are served. The link is as it was before the round, whatever becomes
of them. -/
def Ends (l : SimulatedLink) (ts : List Transfer) (s : HostState) (replies : List Net.Reply)
    (o : Outcome ExchangeError Unit) (s' : HostState × SimulatedLink) : Prop :=
  ∃ answers heap, replies = posts l s.heap ts ++ answers ∧
    Receives l (ts.filter (·.kind = .recv)) s.heap answers o heap ∧
    s' = ({ s.note .groupEnd with heap := heap }, l)

variable {b : Buffer} {range : ByteRange} {ts : List Transfer} {t : Transfer}

lemma within_content (ht : t.Legal W) {h : Heap} (hlive : h.Live t.buffer) :
    t.range.Within (h.content t.buffer).length := by
  obtain ⟨c, hc⟩ := hlive
  obtain ⟨n, hn, hrange⟩ := ht.range
  have hlength : n = c.length := Option.some.inj (hn.symm.trans hc.size)
  rw [hc.content_eq, ← hlength]
  exact hrange

lemma tells_post (hlive : s.1.heap.Live b) (hrange : range.Within (s.1.heap.content b).length)
    (peer : Nat) :
    (post b range peer).Tells s fun replies o s' =>
      replies = [posted s.2 peer ((s.1.heap.content b).slice range)] ∧ o = .ok () ∧ s' = s := by
  obtain ⟨c, hc⟩ := hlive
  rw [hc.content_eq] at hrange ⊢
  refine Act.Tells.step (onHeap_eq hc.bytes) ?_
  refine Act.Tells.step (checkBounds_eq hrange) ?_
  refine Act.Tells.step (a := s.2) rfl ?_
  exact Act.Tells.request fun _ => ⟨rfl, rfl, rfl⟩

lemma tells_sends (hsends : ∀ t ∈ ts, t.kind = .send)
    (ht : ∀ t ∈ ts, t.Legal W) (hlive : ∀ t ∈ ts, s.1.heap.Live t.buffer) :
    (Act.forEach ts perform).Tells s fun replies o s' =>
      replies = ts.map (fun t => posted s.2 t.peer ((s.1.heap.content t.buffer).slice t.range)) ∧
        o = .ok () ∧ s' = s := by
  induction ts with
  | nil => exact Act.Tells.of_done rfl ⟨rfl, rfl, rfl⟩
  | cons t ts ih =>
    rw [List.forall_mem_cons] at hsends ht hlive
    have hperform : perform t = post t.buffer t.range t.peer := by
      rw [perform, hsends.1]
    have hpost := tells_post hlive.1 (within_content ht.1 hlive.1) t.peer
    rw [Act.forEach, hperform]
    refine hpost.bind ?_ ?_ ?_
    · rintro first _ s' ⟨rfl, -, rfl⟩
      refine (ih hsends.2 ht.2 hlive.2).mono ?_
      rintro rest o s'' ⟨rfl, ho, hs⟩
      exact ⟨rfl, ho, hs⟩
    · rintro _ _ _ ⟨-, ho, -⟩
      cases ho
    · rintro _ _ _ ⟨-, ho, -⟩
      cases ho

def withHeap (s : HostState × SimulatedLink) (h : Heap) : HostState × SimulatedLink :=
  ({ s.1 with heap := h }, s.2)

lemma tells_take (peer : Nat) :
    (take peer).Tells s fun replies o s' => s' = s ∧ ∃ answer, replies = [taken s.2 peer answer] ∧
      o = match answer with
        | some payload => .ok payload
        | none => .error (.transport (.silence s.2.rank peer s.2.patience)) := by
  refine Act.Tells.step (a := s.2) rfl ?_
  refine Act.Tells.ask ?_
  intro answer
  cases answer with
  | none => exact Act.Tells.of_done rfl ⟨rfl, none, rfl, rfl⟩
  | some payload => exact Act.Tells.of_done rfl ⟨rfl, some payload, rfl, rfl⟩

lemma tells_deliver (hlive : s.1.heap.Live t.buffer)
    (hrange : t.range.Within (s.1.heap.content t.buffer).length) :
    (deliver t.buffer t.range t.peer).Tells s fun replies o s' =>
      ∃ h', Received s.2 t s.1.heap replies o h' ∧ s' = withHeap s h' := by
  obtain ⟨c, hc⟩ := hlive
  refine Act.Tells.bind (tells_take t.peer) ?_ ?_ ?_
  · rintro first payload s' ⟨rfl, answer, rfl, hanswer⟩
    cases answer with
    | none => cases hanswer
    | some arrived =>
      cases hanswer
      refine Act.Tells.step (a := s'.2) rfl ?_
      by_cases hlength : payload.length = t.range.length
      · have hfits : (⟨t.peer, t.range, payload⟩ : Parcel).Fits c.length :=
          ⟨hlength, by rwa [hc.content_eq] at hrange⟩
        have hsize : (c.overwrite t.range.start payload).length = c.length :=
          Bytes.length_overwrite hfits.room
        refine Act.Tells.step (Act.ensure_done hlength _ s') ?_
        refine Act.Tells.step (onHeap_eq hc.bytes) ?_
        refine Act.Tells.step (checkBounds_eq hfits.within) ?_
        refine Act.Tells.of_done (onHeap_eq (hc.setBytes hsize)) ⟨_, .stored payload hlength, ?_⟩
        rw [hc.content_eq]
        rfl
      · refine Act.Tells.of_done ?_ ⟨_, .wrongLength payload hlength, rfl⟩
        exact Act.bind_error (Act.ensure_error hlength _ s')
  · rintro replies e s' ⟨rfl, answer, rfl, hanswer⟩
    cases answer with
    | none =>
      cases hanswer
      exact ⟨_, .silence, rfl⟩
    | some payload => cases hanswer
  · rintro replies w s' ⟨-, answer, -, hanswer⟩
    cases answer <;> cases hanswer

/-- A message that is put into its place leaves all host buffers as large as they were. -/
lemma live_stored {h : Heap} {payload : Bytes} (hlive : h.Live t.buffer)
    (hrange : t.range.Within (h.content t.buffer).length)
    (hlength : payload.length = t.range.length) (hb : h.Live b) :
    (h.write t.buffer ((h.content t.buffer).overwrite t.range.start payload)).Live b := by
  obtain ⟨c, hc⟩ := hlive
  rw [hc.content_eq] at hrange ⊢
  have hfits : (⟨t.peer, t.range, payload⟩ : Parcel).Fits c.length := ⟨hlength, hrange⟩
  have hwritten := hc.written (Bytes.length_overwrite hfits.room)
  exact (Heap.keeps_write h t.buffer _).live hc hwritten hb

lemma tells_recvs (hrecvs : ∀ t ∈ ts, t.kind = .recv) (ht : ∀ t ∈ ts, t.Legal W)
    (hlive : ∀ t ∈ ts, s.1.heap.Live t.buffer) :
    (Act.forEach ts perform).Tells s fun replies o s' =>
      ∃ h', Receives s.2 ts s.1.heap replies o h' ∧ s' = withHeap s h' := by
  induction ts generalizing s with
  | nil => exact Act.Tells.of_done rfl ⟨_, .done _, rfl⟩
  | cons t ts ih =>
    rw [List.forall_mem_cons] at hrecvs ht
    have hlive' := List.forall_mem_cons.1 hlive
    have hperform : perform t = deliver t.buffer t.range t.peer := by
      rw [perform, hrecvs.1]
    have hrange := within_content ht.1 hlive'.1
    rw [Act.forEach, hperform]
    refine (tells_deliver hlive'.1 hrange).bind ?_ ?_ ?_
    · rintro first _ s' ⟨h', hfirst, rfl⟩
      have hlive'' : ∀ t ∈ ts, (withHeap s h').1.heap.Live t.buffer := by
        intro t' ht'
        cases hfirst with
        | stored payload hlength => exact live_stored hlive'.1 hrange hlength (hlive'.2 t' ht')
      refine (ih hrecvs.2 ht.2 hlive'').mono ?_
      rintro rest o s'' ⟨h'', hrest, rfl⟩
      exact ⟨h'', .next hfirst hrest, rfl⟩
    · rintro replies e s' ⟨h', hfirst, rfl⟩
      exact ⟨h', .stop hfirst, rfl⟩
    · rintro replies w s' ⟨h', hfirst, -⟩
      cases hfirst

/-- All sends, and then the receives, of some transfers. -/
lemma tells_roundOrder (ht : ∀ t ∈ ts, t.Legal W) (hlive : ∀ t ∈ ts, s.1.heap.Live t.buffer) :
    (Act.forEach (roundOrder ts) perform).Tells s fun replies o s' =>
      ∃ answers h', replies = posts s.2 s.1.heap ts ++ answers ∧
        Receives s.2 (ts.filter (·.kind = .recv)) s.1.heap answers o h' ∧ s' = withHeap s h' := by
  have hof : ∀ kind, ∀ t ∈ ts.filter (·.kind = kind), t.kind = kind ∧ t ∈ ts := by
    intro kind t hmem
    rw [List.mem_filter, decide_eq_true_eq] at hmem
    exact ⟨hmem.2, hmem.1⟩
  rw [roundOrder, Act.forEach_append]
  refine Act.Tells.bind (tells_sends (fun t h => (hof _ t h).1) (fun t h => ht t (hof _ t h).2)
    fun t h => hlive t (hof _ t h).2) ?_ ?_ ?_
  · rintro first _ s' ⟨rfl, -, rfl⟩
    refine (tells_recvs (fun t h => (hof _ t h).1) (fun t h => ht t (hof _ t h).2)
      fun t h => hlive t (hof _ t h).2).mono ?_
    rintro rest o s'' ⟨h', hrest, hs''⟩
    exact ⟨rest, h', rfl, hrest, hs''⟩
  · rintro _ _ _ ⟨-, ho, -⟩
    cases ho
  · rintro _ _ _ ⟨-, ho, -⟩
    cases ho

lemma groupEnd_outermost (hd : s.2.depth = 1) :
    groupEnd s = Act.forEach (roundOrder s.2.pending) perform
      (s.1.note .groupEnd, { s.2 with depth := 0, pending := [] }) := by
  obtain ⟨h, group, worldSize, rank, device, patience, d, pending⟩ := s
  obtain rfl : d = 1 := hd
  rfl

/-- A link without an open round, after all calls of a round but the last one. -/
def collected (inner : List Call) (s : HostState × SimulatedLink) : HostState × SimulatedLink :=
  afterCalls inner (deeper s)

/-- The outermost end serves what was collected, on whatever the buffers hold by then. -/
lemma tells_groupEnd (hl : s.2.Idle g W r) (ht : ∀ t ∈ issued inner, t.Legal W) {h : HostState}
    (hlive : ∀ t ∈ issued inner, h.heap.Live t.buffer) :
    groupEnd.Tells (h, (collected inner s).2) (Ends s.2 (issued inner) h) := by
  have hpending : (collected inner s).2.pending = issued inner := by
    simp [collected, afterCalls, deeper, hl.pending]
  have hdepth : (collected inner s).2.depth = 1 := by
    simp [collected, afterCalls, deeper, hl.depth]
  have hclosed : { (collected inner s).2 with depth := 0, pending := [] } = s.2 := by
    rw [← hl.depth, ← hl.pending]
    rfl
  have hend : groupEnd (h, (collected inner s).2) =
      Act.forEach (roundOrder (issued inner)) perform (h.note .groupEnd, s.2) := by
    rw [← hpending, ← hclosed]
    exact groupEnd_outermost (s := (h, (collected inner s).2)) hdepth
  intro replies o s' hconverses
  rw [hend] at hconverses
  exact tells_roundOrder (s := (h.note .groupEnd, s.2)) ht hlive replies o s' hconverses

/-- Rounds may nest around transfers that pass the checks. Up to the outermost end nothing is asked
of the network. The end posts all sends in the order in which they were issued, with the bytes that
the buffers hold at that moment, and then serves the receives in order, up to the first that fails;
whatever arrives, it comes to an end, and no round is open then. Without an open round the end of
one is an error and changes nothing. -/
theorem round_bracketed (hl : s.2.Idle g W r) (hinner : Balanced inner)
    (ht : ∀ t ∈ issued inner, t.Legal W) :
    Act.forEach (.groupStart :: inner) Call.run s = .done (.ok (), collected inner s) ∧
    (∀ h : HostState, (∀ t ∈ issued inner, h.heap.Live t.buffer) →
      groupEnd.Tells (h, (collected inner s).2) (Ends s.2 (issued inner) h) ∧
      ∀ answer : (q : Net.Request) → Net.Answer q, ∃ replies o s',
        (groupEnd (h, (collected inner s).2)).Converses replies (o, s') ∧
          ∀ reply ∈ replies, reply.answer = answer reply.request) ∧
    groupEnd s = .done (.error (.transport .noOpenRound), s) := by
  have hworld : ∀ t ∈ issued inner, t.Legal s.2.worldSize := by
    rw [hl.worldSize]
    exact ht
  constructor
  · rw [Act.forEach]
    refine (Act.bind_done groupStart_done).trans ?_
    exact forEach_balanced (s := deeper s) hinner (Nat.succ_pos _) hworld
  constructor
  · intro h hlive
    constructor
    · exact tells_groupEnd hl ht hlive
    · intro answer
      obtain ⟨replies, ⟨o, s'⟩, hconverses, hanswers⟩ :=
        Program.exists_converses answer (groupEnd (h, (collected inner s).2))
      exact ⟨replies, o, s', hconverses, hanswers⟩
  · obtain ⟨h, group, worldSize, rank, device, patience, d, pending⟩ := s
    obtain rfl : d = 0 := hl.depth
    rfl

/-- A round in a round, into the buffer that is sent from. The receive is issued first, and the
buffer is filled anew before the round ends: what is posted is what it holds then, and what arrives
takes its place. -/
theorem round_bracketed_in_place :
    let b : Buffer := ⟨.u8, [2], 0, 0⟩
    let stream : Stream := ⟨0, .comm, 0⟩
    let l : SimulatedLink := ⟨[7], 2, 0, 0, 1000, 0, []⟩
    let holding : Bytes → HostState := fun content => ⟨[⟨.host content, [], 1⟩], [], [], []⟩
    let inner : List Call := [.transfer ⟨.recv, b, ⟨0, 2⟩, 1⟩ stream, .groupStart,
      .transfer ⟨.send, b, ⟨0, 2⟩, 1⟩ stream, .groupEnd]
    let s := (holding [1, 2], l)
    Act.forEach (.groupStart :: inner) Call.run s = .done (.ok (), collected inner s) ∧
      (groupEnd.Tells (holding [3, 4], (collected inner s).2) fun replies _ s' =>
        (∃ answers, replies = posted l 1 [3, 4] :: answers) ∧ s'.2 = l) ∧
      ∃ s', (groupEnd (holding [3, 4], (collected inner s).2)).Converses
          [posted l 1 [3, 4], taken l 1 (some [8, 9])] (.ok (), s') ∧
        s'.1.heap.content b = [8, 9] ∧ s'.2 = l := by
  intro b stream l holding inner s
  have hinner : Balanced inner := .transfer _ _ (.round (.transfer _ _ .nil) .nil)
  have hlegal : ∀ t ∈ issued inner, t.Legal 2 := by
    intro t ht
    have hrange : (⟨0, 2⟩ : ByteRange).Within 2 := by decide
    simp only [inner, issued_transfer, issued_groupStart, issued_groupEnd, issued_nil,
      List.mem_cons, List.not_mem_nil, or_false] at ht
    rcases ht with rfl | rfl
    · exact ⟨by decide, 2, rfl, hrange⟩
    · exact ⟨by decide, 2, rfl, hrange⟩
  have hlive : ∀ t ∈ issued inner, (holding [3, 4]).heap.Live t.buffer := by
    have hb : (holding [3, 4]).heap.Live b := ⟨[3, 4], ⟨[], 1, rfl⟩, rfl, by decide⟩
    intro t ht
    simp only [inner, issued_transfer, issued_groupStart, issued_groupEnd, issued_nil,
      List.mem_cons, List.not_mem_nil, or_false] at ht
    rcases ht with rfl | rfl
    · exact hb
    · exact hb
  obtain ⟨hcalls, hends, -⟩ := round_bracketed (s := s) ⟨rfl, rfl, rfl, rfl, rfl⟩ hinner hlegal
  refine ⟨hcalls, (hends _ hlive).1.mono ?_, ?_⟩
  · rintro replies o s' ⟨answers, heap, rfl, -, rfl⟩
    exact ⟨⟨answers, rfl⟩, rfl⟩
  · have hend : (groupEnd (holding [3, 4], (collected inner s).2)).Converses
        [posted l 1 [3, 4], taken l 1 (some [8, 9])]
        (.ok (), ((holding [8, 9]).note .groupEnd, l)) := .ask _ (.ask _ (.done _))
    exact ⟨_, hend, rfl, rfl⟩

end SimulatedLink

end ExpertExchange
