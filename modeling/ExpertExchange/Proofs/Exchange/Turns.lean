import ExpertExchange.Proofs.Host.Journal

/-!
# Slots in turn

A pool in which some slots are released and all others are idle. Releasing an idle slot and
acquiring a released one leaves such a pool behind, writes the record or the wait into the trace,
and gives no cause for a warning.
-/

namespace ExpertExchange

namespace Host

open HostState

variable {S : Service} {devices : Nat} {s : HostState} {b : Buffer} {stream : Stream}

lemma gives_stream (device : Nat) (kind : StreamKind) :
    ((platform devices : Platform S _ _ _).stream device kind).Gives s fun str s' =>
      str.kind = kind ∧ s' = s := by
  have hcheck : (checkDevice devices device : Act S HostState DeviceError Unit).Gives s
      fun _ s' => s' = s := (Act.Spares.ensure _ _ : Act.Spares id _).gives s
  refine .bind hcheck ?_
  rintro _ s₁ rfl
  exact .of_done rfl ⟨rfl, rfl⟩

lemma gives_recordEvent (e : HostEvent) :
    ((platform devices : Platform S _ _ _).recordEvent e stream).Gives s fun _ s' =>
      s'.journal = s.journal.write [.eventRecord e.slot stream.kind] := .of_done rfl rfl

lemma gives_waitEvent (e : HostEvent) :
    ((platform devices : Platform S _ _ _).waitEvent e stream).Gives s fun _ s' =>
      s'.journal = s.journal.write [.eventWait e.slot stream.kind] := .of_done rfl rfl

lemma gives_recordStream :
    ((platform devices : Platform S _ _ _).recordStream b stream).Gives s fun _ s' =>
      s'.journal = s.journal.write [.recordStream stream.kind] := .of_done rfl rfl

end Host

namespace Slots

open HostState

variable {devices index : Nat} {out out' : Nat → Prop} {q : HostState × Slots HostEvent}
  {p : Slots HostEvent} {stream : Stream} {kind : StreamKind} {next : SlotState} {b : Buffer}

/-- A pool with an event for each slot, of which some are released and the others are idle. -/
structure Pool (out : Nat → Prop) (p : Slots HostEvent) : Prop where
  event : ∀ (k : Nat) (e : HostEvent), p.events[k]? = some e → e.slot = k
  length : p.slots.length = p.events.length
  released : ∀ k slot, p.slots[k]? = some slot → out k → ∃ kind, slot.state = .released kind
  idle : ∀ k slot, p.slots[k]? = some slot → ¬ out k → slot.state = .idle

lemma Pool.congr (hp : Pool out p) (h : ∀ k, out' k ↔ out k) : Pool out' p where
  event := hp.event
  length := hp.length
  released k slot hslot hout := hp.released k slot hslot ((h k).1 hout)
  idle k slot hslot hout := hp.idle k slot hslot fun hk => hout ((h k).2 hk)

/-- The pool after one of its slots has changed. -/
lemma Pool.set {slot : Slot} (hp : Pool out p) (hother : ∀ k, k ≠ index → (out' k ↔ out k))
    (hreleased : out' index → ∃ kind, slot.state = .released kind)
    (hidle : ¬ out' index → slot.state = .idle) :
    Pool out' { p with slots := p.slots.set index slot } where
  event := hp.event
  length := by rw [List.length_set, hp.length]
  released k s hs hout := by
    by_cases hk : index = k
    · subst hk
      obtain ⟨_, rfl⟩ : index < p.slots.length ∧ slot = s := by
        simpa [List.getElem?_set] using hs
      exact hreleased hout
    · rw [List.getElem?_set_ne hk] at hs
      exact hp.released k s hs ((hother k (Ne.symm hk)).1 hout)
  idle k s hs hout := by
    by_cases hk : index = k
    · subst hk
      obtain ⟨_, rfl⟩ : index < p.slots.length ∧ slot = s := by
        simpa [List.getElem?_set] using hs
      exact hidle hout
    · rw [List.getElem?_set_ne hk] at hs
      exact hp.idle k s hs fun h => hout ((hother k (Ne.symm hk)).2 h)

def slotsJournal (q : HostState × Slots HostEvent) : Journal := q.1.journal

/-- A slot goes to its next state without a warning. -/
lemma gives_transition
    (hquiet : ∀ slot, q.2.slots[index]? = some slot → slot.warning? index next = none) :
    (transition (Host.platform devices : Platform Net _ _ _) index next).Gives q fun _ q' =>
      ∃ slot, q.2.slots[index]? = some slot ∧
        q' = (q.1, { q.2 with slots := q.2.slots.set index (slot.enter next) }) := by
  have hview : (Act.view fun s : HostState × Slots HostEvent => s.2.slots[index]? :
      Act Net _ ExchangeError _).Gives q fun slot? q' => slot? = q.2.slots[index]? ∧ q = q' :=
    .of_done rfl ⟨rfl, rfl⟩
  refine .bind hview ?_
  rintro _ _ ⟨rfl, rfl⟩
  cases hslot : q.2.slots[index]? with
  | none => exact .of_failed rfl nofun
  | some slot =>
    dsimp only
    rw [hquiet slot hslot]
    exact .of_done rfl ⟨slot, rfl, rfl⟩

lemma gives_event (hp : Pool out q.2) :
    (event index : Act Net (HostState × Slots HostEvent) ExchangeError HostEvent).Gives q
      fun e q' => e.slot = index ∧ q = q' := by
  cases he : q.2.events[index]? with
  | none =>
    have hfails : (event index : Act Net (HostState × Slots HostEvent) ExchangeError HostEvent) q =
        .done (.error (.slotOutOfRange index q.2.capacity), q) := by
      rw [event, he]
      rfl
    exact .of_failed hfails nofun
  | some e =>
    have hfound : (event index : Act Net (HostState × Slots HostEvent) ExchangeError HostEvent) q =
        .done (.ok e, q) := by
      rw [event, he]
      rfl
    exact .of_done hfound ⟨hp.event index e he, rfl⟩

/-- On the platform the pool stays as it is. -/
lemma gives_onPlatform {α : Type} {m : Act Net HostState DeviceError α} {G : α → HostState → Prop}
    (h : m.Gives q.1 G) : (onPlatform m).Gives q fun a q' => G a q'.1 ∧ q'.2 = q.2 :=
  .within (.mapError (h.mono fun _ _ hG => ⟨hG, rfl⟩))

/-- An idle slot is released. -/
lemma gives_release (hp : Pool out q.2) (hidle : ¬ out index) :
    (release (Host.platform devices : Platform Net _ _ _) index stream).Gives q fun _ q' =>
      slotsJournal q' = (slotsJournal q).write [.eventRecord index stream.kind] ∧
        Pool (fun k => k = index ∨ out k) q'.2 := by
  refine .bind (gives_event hp) ?_
  rintro e _ ⟨rfl, rfl⟩
  refine .bind (gives_onPlatform (Host.gives_recordEvent e)) ?_
  rintro _ q₁ ⟨hjournal, hpool⟩
  have hstate : ∀ slot, q₁.2.slots[e.slot]? = some slot → slot.state = .idle := by
    intro slot hslot
    rw [hpool] at hslot
    exact hp.idle e.slot slot hslot hidle
  refine (gives_transition ?_).mono ?_
  · intro slot hslot
    simp only [Slot.warning?, hstate slot hslot]
  · rintro _ _ ⟨slot, _, rfl⟩
    refine ⟨hjournal, ?_⟩
    rw [← hpool] at hp
    refine hp.set ?_ ?_ ?_
    · intro k hk
      exact ⟨fun h => h.resolve_left hk, .inr⟩
    · intro _
      exact ⟨_, rfl⟩
    · intro hout
      exact absurd (.inl rfl) hout

/-- The operations that register a stream with some buffers. -/
lemma gives_recordStreams (bs : List Buffer) :
    (Act.forEach bs fun b =>
      onPlatform ((Host.platform devices : Platform Net _ _ _).recordStream b stream)).Gives q
      fun _ q' => slotsJournal q' =
        (slotsJournal q).write (List.replicate bs.length (.recordStream stream.kind)) ∧
          q'.2 = q.2 := by
  induction bs generalizing q with
  | nil => exact .of_done rfl ⟨(Journal.write_nil _).symm, rfl⟩
  | cons b bs ih =>
    refine .bind (gives_onPlatform Host.gives_recordStream) ?_
    rintro _ q₁ ⟨hjournal, hpool⟩
    refine (ih (q := q₁)).mono ?_
    rintro _ q₂ ⟨hjournal', hpool'⟩
    refine ⟨?_, hpool'.trans hpool⟩
    have hfirst : slotsJournal q₁ = (slotsJournal q).write [.recordStream stream.kind] := hjournal
    rw [hjournal', hfirst, Journal.write_write]
    rfl

/-- A released slot is acquired, and is idle then. -/
lemma gives_acquire (hp : Pool out q.2) (hreleased : out index) (bs : List Buffer) :
    (acquire (Host.platform devices : Platform Net _ _ _) index stream bs).Gives q fun _ q' =>
      slotsJournal q' = (slotsJournal q).write
        (.eventWait index stream.kind :: List.replicate bs.length (.recordStream stream.kind)) ∧
        Pool (fun k => k ≠ index ∧ out k) q'.2 := by
  refine .bind (gives_event hp) ?_
  rintro e _ ⟨rfl, rfl⟩
  refine .bind (gives_onPlatform (Host.gives_waitEvent e)) ?_
  rintro _ q₁ ⟨hjournal, hpool⟩
  have hstate : ∀ slot, q₁.2.slots[e.slot]? = some slot → ∃ kind, slot.state = .released kind := by
    intro slot hslot
    rw [hpool] at hslot
    exact hp.released e.slot slot hslot hreleased
  refine .bind (gives_transition ?_) ?_
  · intro slot hslot
    obtain ⟨kind, hkind⟩ := hstate slot hslot
    simp only [Slot.warning?, hkind]
  rintro _ _ ⟨slot, hslot, rfl⟩
  refine .bind (gives_recordStreams bs) ?_
  rintro _ q₂ ⟨hjournal', hpool'⟩
  have hacquired : q₂.2.slots[e.slot]? = some (slot.enter (.acquired stream.kind)) := by
    rw [hpool']
    exact List.getElem?_set_self (List.getElem?_eq_some_iff.1 hslot).1
  refine (gives_transition ?_).mono ?_
  · intro slot' hslot'
    rw [hacquired] at hslot'
    cases hslot'
    rfl
  · rintro _ _ ⟨slot', _, rfl⟩
    have hwaited : slotsJournal q₁ = (slotsJournal q).write [.eventWait e.slot stream.kind] :=
      hjournal
    constructor
    · have hkept : slotsJournal q₂ = (slotsJournal q₁).write
          (List.replicate bs.length (.recordStream stream.kind)) := hjournal'
      change slotsJournal q₂ = _
      rw [hkept, hwaited, Journal.write_write]
      rfl
    · rw [hpool']
      dsimp only
      rw [List.set_set, hpool]
      refine hp.set ?_ ?_ ?_
      · intro k hk
        exact ⟨fun h => h.2, fun h => ⟨hk, h⟩⟩
      · intro h
        exact absurd rfl h.1
      · intro _
        rfl

lemma gives_stream (kind : StreamKind) :
    (Slots.stream (Host.platform devices : Platform Net _ _ _) kind).Gives q fun str q' =>
      str.kind = kind ∧ q = q' := by
  have hdevice : (Act.view fun s : HostState × Slots HostEvent => s.2.device :
      Act Net _ ExchangeError Nat).Gives q fun _ q' => q = q' := .of_done rfl rfl
  refine .bind hdevice ?_
  rintro device _ rfl
  refine (gives_onPlatform (Host.gives_stream device kind)).mono ?_
  rintro str q' ⟨⟨hkind, hstate⟩, hpool⟩
  exact ⟨hkind, (Prod.ext hstate hpool).symm⟩

lemma gives_retain :
    (onPlatform ((Host.platform devices : Platform Net _ _ _).retain b)).Gives q fun _ q' =>
      q = q' := .of_done rfl rfl

/-- A buffer is taken over at a released slot. -/
lemma gives_acquireOn (hp : Pool out q.2) (hreleased : out index) :
    (acquireOn (Host.platform devices : Platform Net _ _ _) kind b index).Gives q fun _ q' =>
      slotsJournal q' = (slotsJournal q).write [.eventWait index kind, .recordStream kind] ∧
        Pool (fun k => k ≠ index ∧ out k) q'.2 := by
  refine .bind (gives_stream kind) ?_
  rintro str _ ⟨rfl, rfl⟩
  refine .bind (gives_acquire hp hreleased [b]) ?_
  intro _ q₁ h₁
  refine .bind gives_retain ?_
  rintro _ _ rfl
  exact .of_done rfl h₁

lemma gives_createFrom {s : HostState} {device first count : Nat} {made : List HostEvent}
    (hslot : ∀ (k : Nat) (e : HostEvent), made[k]? = some e → e.slot = k)
    (hlength : made.length = first) :
    (createFrom (Host.platform devices : Platform Net _ _ _) device first count made).Gives s
      fun events _ => (∀ (k : Nat) (e : HostEvent), events[k]? = some e → e.slot = k) ∧
        events.length = first + count := by
  induction count generalizing s first made with
  | zero => exact .of_done rfl ⟨hslot, hlength⟩
  | succ count ih =>
    have hevent : ((Host.platform devices : Platform Net _ _ _).createEvent device first).Gives s
        fun e _ => e.slot = first := by
      refine .bind ((Act.Spares.ensure _ _ : Act.Spares id _).gives s) ?_
      intro _ s₁ _
      exact .of_done rfl rfl
    refine .bind (.orElseClean hevent) ?_
    rintro e s₁ rfl
    refine (ih ?_ ?_).mono ?_
    · intro k e' he'
      rcases Nat.lt_trichotomy k made.length with hk | rfl | hk
      · rw [List.getElem?_append_left hk] at he'
        exact hslot k e' he'
      · rw [List.getElem?_concat_length] at he'
        cases he'
        exact hlength.symm
      · rw [List.getElem?_eq_none (by simp only [List.length_append, List.length_singleton]; omega)]
          at he'
        cases he'
    · rw [List.length_append, List.length_singleton, hlength]
    · rintro events s₂ ⟨hevents, hcount⟩
      exact ⟨hevents, by omega⟩

/-- All slots of a new pool are idle. -/
lemma gives_create {s : HostState} (device count : Nat) :
    (create (Host.platform devices : Platform Net _ _ _) device count).Gives s fun p _ =>
      Pool (fun _ => False) p := by
  refine .bind (.mapError (gives_createFrom nofun rfl)) ?_
  rintro events s₁ ⟨hslot, hlength⟩
  have hlog : ((Host.platform devices : Platform Net _ _ _).log .debug .slots "event pool created"
      [("device", .number device), ("capacity", .number count)] :
      Act Net HostState ExchangeError Unit).Gives s₁ fun _ _ => True := .of_done rfl trivial
  refine .bind hlog ?_
  intro _ s₂ _
  refine .of_done rfl ⟨hslot, ?_, nofun, ?_⟩
  · rw [List.length_replicate, hlength, Nat.zero_add]
  · intro k slot hfresh _
    rw [(List.mem_replicate.1 (List.mem_of_getElem? hfresh)).2]
    rfl

end Slots

end ExpertExchange
