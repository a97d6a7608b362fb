import ExpertExchange.Exchange.Slots
import ExpertExchange.Host.Platform
import ExpertExchange.Proofs.Act.Ends

/-!
# What slots remember

Calls on a pool of the host platform may come in any order, for any slots and streams, with the
cycle of release and acquire kept or broken. A slot remembers its last call and how often it was
acquired; a warning is due to the call before it on the same slot. Nothing else of the past has an
effect, and a call for a slot that the pool does not have has none at all.
-/

namespace ExpertExchange

inductive SlotCall where
  | release (index : Nat) (stream : Stream)
  | acquire (index : Nat) (stream : Stream) (buffers : List Buffer)
  deriving DecidableEq

namespace SlotCall

section Calls

variable {S : Service} {σ F E : Type}

def index : SlotCall → Nat
  | .release index _ => index
  | .acquire index _ _ => index

def run (P : Platform S σ F E) : SlotCall → Act S (σ × Slots E) ExchangeError Unit
  | .release index stream => Slots.release P index stream
  | .acquire index stream buffers => Slots.acquire P index stream buffers

/-- Make calls one after the other, whatever becomes of each of them; what they ended with. -/
def runAll (P : Platform S σ F E) :
    List SlotCall → Act S (σ × Slots E) ExchangeError (List (Outcome ExchangeError Unit))
  | [] => pure []
  | call :: rest =>
    Act.bind (call.run P).attempt fun o => Act.bind (runAll P rest) fun os => pure (o :: os)

end Calls

def lastFor (k : Nat) (past : List SlotCall) : Option SlotCall :=
  (past.filter (·.index = k)).getLast?

/-- A slot is released if its last call has released it; if that was an acquire, or there was no
call, it is idle. -/
def stateAfter (k : Nat) (past : List SlotCall) : SlotState :=
  match lastFor k past with
  | some (.release _ stream) => .released stream.kind
  | _ => .idle

def acquires (k : Nat) : SlotCall → Bool
  | .release _ _ => false
  | .acquire index _ _ => index = k

/-- The record that a call leaves: of a release right after a release, or of an acquire that comes
first or right after an acquire. -/
def warning? (past : List SlotCall) : SlotCall → Option LogRecord
  | .release index stream =>
    match lastFor index past with
    | some (.release _ before) => some ⟨.warn, .slots,
        "event slot released again before any acquire",
        [("slot", .number index), ("previous", .shown before.kind.name),
          ("stream", .shown stream.kind.name)]⟩
    | _ => none
  | .acquire index stream _ =>
    match lastFor index past with
    | some (.release _ _) => none
    | _ => some ⟨.warn, .slots, "event slot acquired before it was released",
        [("slot", .number index), ("stream", .shown stream.kind.name)]⟩

def warningsAfter (past : List SlotCall) : List SlotCall → List LogRecord
  | [] => []
  | call :: rest => (warning? past call).toList ++ warningsAfter (past ++ [call]) rest

/-- What a call does on its stream: an event is recorded, or it is waited for and the stream is
registered with each buffer. -/
def events : SlotCall → List TraceEvent
  | .release index stream => [.eventRecord index stream.kind]
  | .acquire index stream buffers =>
    .eventWait index stream.kind :: buffers.map fun _ => .recordStream stream.kind

variable {k : Nat} {past calls : List SlotCall} {call : SlotCall}

lemma lastFor_append_same (h : call.index = k) : lastFor k (past ++ [call]) = some call := by
  simp [lastFor, List.filter_append, h]

lemma lastFor_append_other (h : call.index ≠ k) : lastFor k (past ++ [call]) = lastFor k past := by
  simp [lastFor, List.filter_append, h]

lemma stateAfter_append_other (h : call.index ≠ k) :
    stateAfter k (past ++ [call]) = stateAfter k past := by
  rw [stateAfter, lastFor_append_other h, stateAfter]

lemma warningsAfter_append (past calls : List SlotCall) (call : SlotCall) :
    warningsAfter past (calls ++ [call]) =
      warningsAfter past calls ++ (warning? (past ++ calls) call).toList := by
  induction calls generalizing past with
  | nil => simp [warningsAfter]
  | cons first rest ih => simp [warningsAfter, ih]

end SlotCall

namespace Slots

open SlotCall

variable {S : Service} {devices capacity index k : Nat} {s : HostState}
  {q : HostState × Slots HostEvent} {past : List SlotCall} {call : SlotCall} {slot : Slot}

/-- What can be observed of a pool after some calls for slots that it has: every slot has the state
of its last call and counts its acquires, and log and trace have grown by what the calls leave. -/
structure Observed (capacity : Nat) (s : HostState) (past : List SlotCall)
    (q : HostState × Slots HostEvent) : Prop where
  events : q.2.events.length = capacity
  slots : q.2.slots.length = capacity
  event : ∀ (k : Nat) (e : HostEvent), q.2.events[k]? = some e → e.slot = k
  slot : ∀ (k : Nat) (slot : Slot), q.2.slots[k]? = some slot →
    slot.state = stateAfter k past ∧ slot.handoffs = past.countP (acquires k)
  log : q.1.log = s.log ++ warningsAfter [] past
  trace : q.1.trace = s.trace ++ past.flatMap SlotCall.events

def remark? (slot : Slot) (index : Nat) (next : SlotState) : Option LogRecord :=
  (slot.warning? index next).map fun warning => ⟨.warn, .slots, warning.1, warning.2⟩

def entered (q : HostState × Slots HostEvent) (slot : Slot) (index : Nat) (next : SlotState) :
    HostState × Slots HostEvent :=
  ({ q.1 with log := q.1.log ++ (remark? slot index next).toList },
    { q.2 with slots := q.2.slots.set index (slot.enter next) })

lemma transition_eq (devices : Nat) (hslot : q.2.slots[index]? = some slot) (next : SlotState) :
    (transition (Host.platform devices) index next : Act S _ ExchangeError Unit) q =
      .done (.ok (), entered q slot index next) := by
  have hview : (Act.view fun s : HostState × Slots HostEvent => s.2.slots[index]? :
      Act S _ ExchangeError _) q = .done (.ok (some slot), q) := by
    rw [← hslot]
    rfl
  unfold transition
  refine (Act.bind_done hview).trans ?_
  cases hwarning : slot.warning? index next with
  | none =>
    simp only [hwarning, entered, remark?, Option.map_none, Option.toList_none, List.append_nil]
    rfl
  | some warning =>
    simp only [hwarning, entered, remark?, Option.map_some, Option.toList_some]
    rfl

lemma event_found {e : HostEvent} (he : q.2.events[index]? = some e) :
    (event index : Act S (HostState × Slots HostEvent) ExchangeError HostEvent) q =
      .done (.ok e, q) := by
  rw [event, he]
  rfl

lemma event_missing (he : q.2.events[index]? = none) :
    (event index : Act S (HostState × Slots HostEvent) ExchangeError HostEvent) q =
      .done (.error (.slotOutOfRange index q.2.capacity), q) := by
  rw [event, he]
  rfl

/-- Registering a stream with buffers changes the heap and the trace. -/
lemma recordStreams_eq (devices : Nat) (buffers : List Buffer) (stream : Stream)
    (q : HostState × Slots HostEvent) :
    ∃ heap, (Act.forEach buffers fun b =>
        onPlatform ((Host.platform devices).recordStream b stream) :
          Act S (HostState × Slots HostEvent) ExchangeError Unit) q =
      .done (.ok (), ({ q.1 with
        heap := heap, trace := q.1.trace ++ buffers.map fun _ => .recordStream stream.kind },
          q.2)) := by
  induction buffers generalizing q with
  | nil =>
    refine ⟨q.1.heap, ?_⟩
    simp only [List.map_nil, List.append_nil]
    rfl
  | cons b rest ih =>
    let marked : HostState × Slots HostEvent := ({ q.1 with
      heap := q.1.heap.markUsed b stream,
      trace := q.1.trace ++ [.recordStream stream.kind] }, q.2)
    have hfirst : (onPlatform ((Host.platform devices).recordStream b stream) :
        Act S (HostState × Slots HostEvent) ExchangeError Unit) q = .done (.ok (), marked) := rfl
    obtain ⟨heap, hrest⟩ := ih marked
    refine ⟨heap, (Act.bind_done hfirst).trans (hrest.trans ?_)⟩
    simp [marked]

def next : SlotCall → SlotState
  | .release _ stream => .released stream.kind
  | .acquire _ stream _ => .acquired stream.kind

/-- The slot of a call after the call; an acquire goes on to idle. -/
def left (slot : Slot) : SlotCall → Slot
  | .release _ stream => slot.enter (.released stream.kind)
  | .acquire _ stream _ => (slot.enter (.acquired stream.kind)).enter .idle

/-- A call has changed its slot and added to the log and the trace. -/
structure Called (call : SlotCall) (slot : Slot) (q q' : HostState × Slots HostEvent) : Prop where
  events : q'.2.events = q.2.events
  slots : q'.2.slots = q.2.slots.set call.index (left slot call)
  log : q'.1.log = q.1.log ++ (remark? slot call.index (next call)).toList
  trace : q'.1.trace = q.1.trace ++ call.events

lemma called_release {e : HostEvent} {stream : Stream} (he : q.2.events[index]? = some e)
    (hnumber : e.slot = index) (hslot : q.2.slots[index]? = some slot) :
    ∃ q', (release (Host.platform devices) index stream : Act S _ ExchangeError Unit) q =
      .done (.ok (), q') ∧ Called (.release index stream) slot q q' := by
  let recorded : HostState × Slots HostEvent :=
    (q.1.note (.eventRecord e.slot stream.kind), q.2)
  have hrecord : (onPlatform ((Host.platform devices).recordEvent e stream) :
      Act S (HostState × Slots HostEvent) ExchangeError Unit) q = .done (.ok (), recorded) := rfl
  have henter := transition_eq (S := S) (q := recorded) devices hslot (.released stream.kind)
  refine ⟨_, (Act.bind_done (event_found he)).trans ((Act.bind_done hrecord).trans henter), ?_⟩
  constructor
  · rfl
  · rfl
  · rfl
  · rw [SlotCall.events, ← hnumber]
    rfl

lemma called_acquire {e : HostEvent} {stream : Stream} (buffers : List Buffer)
    (he : q.2.events[index]? = some e) (hnumber : e.slot = index)
    (hslot : q.2.slots[index]? = some slot) :
    ∃ q', (acquire (Host.platform devices) index stream buffers : Act S _ ExchangeError Unit) q =
      .done (.ok (), q') ∧ Called (.acquire index stream buffers) slot q q' := by
  let waited : HostState × Slots HostEvent := (q.1.note (.eventWait e.slot stream.kind), q.2)
  have hwait : (onPlatform ((Host.platform devices).waitEvent e stream) :
      Act S (HostState × Slots HostEvent) ExchangeError Unit) q = .done (.ok (), waited) := rfl
  have henter := transition_eq (S := S) (q := waited) devices hslot (.acquired stream.kind)
  obtain ⟨heap, hrecord⟩ := recordStreams_eq (S := S) devices buffers stream
    (entered waited slot index (.acquired stream.kind))
  have hlt : index < q.2.slots.length := (List.getElem?_eq_some_iff.1 hslot).1
  have hagain : (entered waited slot index (.acquired stream.kind)).2.slots[index]? =
      some (slot.enter (.acquired stream.kind)) := List.getElem?_set_self hlt
  let registered : HostState × Slots HostEvent :=
    ({ (entered waited slot index (.acquired stream.kind)).1 with
      heap := heap
      trace := (entered waited slot index (.acquired stream.kind)).1.trace ++
        buffers.map fun _ => .recordStream stream.kind },
      (entered waited slot index (.acquired stream.kind)).2)
  have hleave := transition_eq (S := S) (q := registered) devices hagain .idle
  refine ⟨_, (Act.bind_done (event_found he)).trans ((Act.bind_done hwait).trans
    ((Act.bind_done henter).trans ((Act.bind_done hrecord).trans hleave))), ?_⟩
  constructor
  · rfl
  · exact List.set_set _
  · exact List.append_nil _
  · rw [SlotCall.events, ← hnumber]
    simp [registered, entered, waited, HostState.note]

/-- A call for a slot that the pool has. -/
lemma exists_called (devices : Nat) {e : HostEvent} (he : q.2.events[call.index]? = some e)
    (hnumber : e.slot = call.index) (hslot : q.2.slots[call.index]? = some slot) :
    ∃ q', (call.run (Host.platform devices) : Act S _ ExchangeError Unit) q =
      .done (.ok (), q') ∧ Called call slot q q' := by
  cases call with
  | release index stream => exact called_release he hnumber hslot
  | acquire index stream buffers => exact called_acquire buffers he hnumber hslot

lemma state_left (slot : Slot) (h : call.index = k) :
    (left slot call).state = stateAfter k (past ++ [call]) := by
  rw [stateAfter, lastFor_append_same h]
  cases call with
  | release index stream => rfl
  | acquire index stream buffers => rfl

/-- Only an acquire counts, and it counts from whatever state the slot was in. -/
lemma handoffs_left (slot : Slot) (h : call.index = k) :
    (left slot call).handoffs = slot.handoffs + if acquires k call then 1 else 0 := by
  cases call with
  | release index stream => cases hstate : slot.state <;> simp [left, Slot.enter, acquires, hstate]
  | acquire index stream buffers =>
    obtain rfl : index = k := h
    cases hstate : slot.state <;> simp [left, Slot.enter, acquires, hstate]

/-- The warning depends on the last call for the slot. -/
lemma remark?_eq (hstate : slot.state = stateAfter call.index past) :
    remark? slot call.index (next call) = warning? past call := by
  obtain ⟨state, previous, handoffs⟩ := slot
  obtain rfl : state = stateAfter call.index past := hstate
  cases call with
  | release index stream =>
    simp only [remark?, Slot.warning?, next, SlotCall.index, stateAfter, warning?]
    cases lastFor index past with
    | none => rfl
    | some last => cases last <;> rfl
  | acquire index stream buffers =>
    simp only [remark?, Slot.warning?, next, SlotCall.index, stateAfter, warning?]
    cases lastFor index past with
    | none => rfl
    | some last => cases last <;> rfl

/-- The slots after a call: its own slot is as the call left it, the others are as they were. -/
lemma Observed.slot_called {q' : HostState × Slots HostEvent} (h : Observed capacity s past q)
    (hslot : q.2.slots[call.index]? = some slot) (hcalled : Called call slot q q') (k : Nat)
    (slot' : Slot) (hk : q'.2.slots[k]? = some slot') :
    slot'.state = stateAfter k (past ++ [call]) ∧
      slot'.handoffs = (past ++ [call]).countP (acquires k) := by
  rw [hcalled.slots] at hk
  by_cases hindex : call.index = k
  · rw [hindex] at hslot
    rw [hindex, List.getElem?_set_self (List.getElem?_eq_some_iff.1 hslot).1] at hk
    cases hk
    constructor
    · exact state_left slot hindex
    · rw [handoffs_left slot hindex, (h.slot k slot hslot).2, List.countP_append,
        List.countP_singleton]
  · rw [List.getElem?_set_ne hindex] at hk
    obtain ⟨hstate, hhandoffs⟩ := h.slot k slot' hk
    have hother : acquires k call = false := by
      cases call with
      | release index stream => rfl
      | acquire index stream buffers => exact decide_eq_false hindex
    constructor
    · rw [hstate, stateAfter_append_other hindex]
    · rw [hhandoffs, List.countP_append, List.countP_singleton, hother]
      rfl

/-- One more call for a slot that the pool has. -/
lemma Observed.step (h : Observed capacity s past q) (devices : Nat) (hin : call.index < capacity) :
    ∃ q', (call.run (Host.platform devices) : Act S _ ExchangeError Unit) q = .done (.ok (), q') ∧
      Observed capacity s (past ++ [call]) q' := by
  obtain ⟨e, he⟩ : ∃ e, q.2.events[call.index]? = some e :=
    ⟨_, List.getElem?_eq_getElem (by rw [h.events]; exact hin)⟩
  obtain ⟨slot, hslot⟩ : ∃ slot, q.2.slots[call.index]? = some slot :=
    ⟨_, List.getElem?_eq_getElem (by rw [h.slots]; exact hin)⟩
  obtain ⟨q', hrun, hcalled⟩ := exists_called (S := S) devices he (h.event _ _ he) hslot
  refine ⟨q', hrun, ?_⟩
  constructor
  · rw [hcalled.events, h.events]
  · rw [hcalled.slots, List.length_set, h.slots]
  · intro k e hk
    rw [hcalled.events] at hk
    exact h.event k e hk
  · exact h.slot_called hslot hcalled
  · rw [hcalled.log, h.log, remark?_eq (h.slot _ _ hslot).1, warningsAfter_append,
      List.nil_append, List.append_assoc]
  · rw [hcalled.trace, h.trace, List.flatMap_append, List.flatMap_singleton, List.append_assoc]

/-- A call for a slot that the pool does not have. -/
lemma Observed.refused (h : Observed capacity s past q) (devices : Nat)
    (hout : capacity ≤ call.index) :
    (call.run (Host.platform devices) : Act S _ ExchangeError Unit) q =
      .done (.error (.slotOutOfRange call.index capacity), q) := by
  have hcapacity : q.2.capacity = capacity := h.events
  have hnone : q.2.events[call.index]? = none :=
    List.getElem?_eq_none (by rw [h.events]; exact hout)
  have hmissing := event_missing (S := S) hnone
  rw [hcapacity] at hmissing
  cases call with
  | release index stream => exact Act.bind_error hmissing
  | acquire index stream buffers => exact Act.bind_error hmissing

def answer (capacity : Nat) (call : SlotCall) : Outcome ExchangeError Unit :=
  .ensure (call.index < capacity) (.slotOutOfRange call.index capacity)

lemma attempt_done {σ ε ε' α : Type} {m : Act S σ ε α} {s s' : σ} {o : Outcome ε α}
    (h : m s = .done (o, s')) : (m.attempt : Act S σ ε' _) s = .done (.ok o, s') := by
  rw [Act.attempt, h, Program.bind]

/-- Calls for slots that the pool does not have leave no trace in the past. -/
lemma Observed.runs (h : Observed capacity s past q) (devices : Nat) (calls : List SlotCall) :
    ∃ q', (runAll (Host.platform devices) calls : Act S _ ExchangeError _) q =
        .done (.ok (calls.map (answer capacity)), q') ∧
      Observed capacity s (past ++ calls.filter (·.index < capacity)) q' := by
  -- The past grows with every call that is not refused, and so does what the rest is added to.
  induction calls generalizing past q with
  | nil =>
    refine ⟨q, rfl, ?_⟩
    rw [List.filter_nil, List.append_nil]
    exact h
  | cons call rest ih =>
    by_cases hin : call.index < capacity
    · obtain ⟨q₁, hcall, h₁⟩ := h.step (S := S) devices hin
      obtain ⟨q', hrest, h'⟩ := ih h₁
      refine ⟨q', (Act.bind_done (attempt_done hcall)).trans ((Act.bind_done hrest).trans ?_), ?_⟩
      · rw [List.map_cons, answer, Outcome.ensure, if_pos hin]
        rfl
      · rw [List.filter_cons_of_pos (by simpa using hin)]
        rwa [List.append_assoc] at h'
    · have hcall := h.refused (S := S) devices (Nat.le_of_not_lt hin)
      obtain ⟨q', hrest, h'⟩ := ih h
      refine ⟨q', (Act.bind_done (attempt_done hcall)).trans ((Act.bind_done hrest).trans ?_), ?_⟩
      · rw [List.map_cons, answer, Outcome.ensure, if_neg hin]
        rfl
      · rwa [List.filter_cons_of_neg (by simpa using hin)]

/-- No call leaves its slot acquired. -/
lemma Observed.resting (h : Observed capacity s past q) (hslot : slot ∈ q.2.slots)
    (kind : StreamKind) : slot.state ≠ .acquired kind := by
  obtain ⟨k, hk⟩ := List.mem_iff_getElem?.1 hslot
  rw [(h.slot k slot hk).1, stateAfter]
  cases lastFor k past with
  | none => simp
  | some last => cases last <;> simp

lemma createFrom_eq {device : Nat} (hdevice : device < devices) (first count : Nat)
    (made : List HostEvent) :
    (createFrom (Host.platform devices) device first count made : Act S _ DeviceError _) s =
      .done (.ok (made ++ (List.range' first count).map fun k => ⟨device, k⟩), s) := by
  induction count generalizing first made with
  | zero =>
    rw [List.range'_zero, List.map_nil, List.append_nil]
    rfl
  | succ count ih =>
    have hevent : ((Host.platform devices).createEvent device first :
        Act S HostState DeviceError HostEvent) s = .done (.ok ⟨device, first⟩, s) :=
      Act.bind_done (Act.ensure_done hdevice _ s)
    have hkept : (((Host.platform devices).createEvent device first).orElseClean
        (destroyAll (Host.platform devices) made) : Act S HostState DeviceError HostEvent) s =
          .done (.ok ⟨device, first⟩, s) := by
      rw [Act.orElseClean, hevent, Program.bind]
    refine (Act.bind_done hkept).trans ((ih (first + 1) (made ++ [⟨device, first⟩])).trans ?_)
    rw [List.range'_succ, List.map_cons, List.append_assoc, List.singleton_append]

/-- A pool is created on a device that there is, and nothing has been done with it. -/
lemma exists_fresh {device : Nat} (hdevice : device < devices) (capacity : Nat) (s : HostState) :
    ∃ p s₁, (create (Host.platform devices) device capacity : Act S _ ExchangeError _) s =
      .done (.ok p, s₁) ∧ Observed capacity s₁ [] (s₁, p) := by
  let events : List HostEvent := (List.range' 0 capacity).map fun k => ⟨device, k⟩
  have hevents := createFrom_eq (S := S) (s := s) hdevice 0 capacity []
  have hmade : ((createFrom (Host.platform devices) device 0 capacity []).mapError .device :
      Act S HostState ExchangeError (List HostEvent)) s = .done (.ok events, s) := by
    rw [Act.mapError, hevents]
    rfl
  refine ⟨⟨device, events, List.replicate capacity .fresh⟩, _,
    (Act.bind_done hmade).trans rfl, ?_⟩
  constructor
  · simp [events]
  · simp
  · intro k e hk
    simp only [events, List.getElem?_map, Option.map_eq_some_iff] at hk
    obtain ⟨k', hk', rfl⟩ := hk
    obtain ⟨hlt, rfl⟩ := List.getElem?_eq_some_iff.1 hk'
    simp
  · intro k slot hk
    obtain rfl := List.eq_of_mem_replicate (List.mem_of_getElem? hk)
    exact ⟨rfl, rfl⟩
  · simp [warningsAfter]
  · simp

/-- For every pool of the host platform and all calls, for any slots and streams and with any
buffers: the calls for slots that the pool has succeed, and the others are refused and change
nothing. Afterwards no slot is acquired, each has the state of its last call and counts its
acquires, and the log has a warning for each release right after a release and for each acquire that
does not come right after a release. -/
theorem calls_observed {device : Nat} (hdevice : device < devices) (capacity : Nat)
    (s : HostState) :
    ∃ p s₁, (create (Host.platform devices) device capacity : Act S _ ExchangeError _) s =
        .done (.ok p, s₁) ∧
      ∀ calls, ∃ q, (runAll (Host.platform devices) calls : Act S _ ExchangeError _) (s₁, p) =
          .done (.ok (calls.map (answer capacity)), q) ∧
        Observed capacity s₁ (calls.filter (·.index < capacity)) q ∧
        (∀ slot ∈ q.2.slots, ∀ kind, slot.state ≠ .acquired kind) ∧
        ∀ call : SlotCall, capacity ≤ call.index →
          (call.run (Host.platform devices) : Act S _ ExchangeError Unit) q =
            .done (.error (.slotOutOfRange call.index capacity), q) := by
  obtain ⟨p, s₁, hcreate, hfresh⟩ := exists_fresh (S := S) hdevice capacity s
  refine ⟨p, s₁, hcreate, ?_⟩
  intro calls
  obtain ⟨q, hrun, hobserved⟩ := hfresh.runs (S := S) devices calls
  rw [List.nil_append] at hobserved
  refine ⟨q, hrun, hobserved, ?_, ?_⟩
  · intro slot hslot
    exact hobserved.resting hslot
  · intro call hout
    exact hobserved.refused devices hout

/-- Slot 0 is acquired first, then released twice; slot 5 is none of the two slots. -/
def misuse : List SlotCall :=
  [.acquire 0 ⟨0, .compute, 0⟩ [], .release 0 ⟨0, .comm, 0⟩, .release 5 ⟨0, .comm, 0⟩,
    .release 0 ⟨0, .comm, 0⟩]

theorem calls_observed_misuse :
    0 < 1 ∧ warningsAfter [] (misuse.filter (·.index < 2)) =
        [⟨.warn, .slots, "event slot acquired before it was released",
            [("slot", .number 0), ("stream", .shown "compute")]⟩,
          ⟨.warn, .slots, "event slot released again before any acquire",
            [("slot", .number 0), ("previous", .shown "comm"), ("stream", .shown "comm")]⟩] ∧
      ∃ p s₁, (create (Host.platform 1) 0 2 : Act Silence _ ExchangeError _) ⟨[], [], [], []⟩ =
          .done (.ok p, s₁) ∧
        ∃ q, (runAll (Host.platform 1) misuse : Act Silence _ ExchangeError _) (s₁, p) =
            .done (.ok [.ok (), .ok (), .error (.slotOutOfRange 5 2), .ok ()], q) ∧
          Observed 2 s₁ (misuse.filter (·.index < 2)) q := by
  obtain ⟨p, s₁, hcreate, hcalls⟩ := calls_observed (S := Silence)
    (Nat.zero_lt_one : 0 < 1) 2 ⟨[], [], [], []⟩
  obtain ⟨q, hrun, hobserved, -⟩ := hcalls misuse
  exact ⟨Nat.zero_lt_one, by decide, p, s₁, hcreate, q, hrun, hobserved⟩

end Slots

end ExpertExchange
