import ExpertExchange.Proofs.Host.RoundOrder

/-!
# Pipelined exchanges in the trace

A pipelined exchange is a part of the trace in which the number of closed rounds tells the stage of
a transfer. What slot 0 stands for when a scatter begins comes before all its transfers; when it
ends, the slot of each stage stands for the transfers of the stage. A gather does the reverse.
-/

namespace ExpertExchange

namespace Trace

variable {t u uses seg : Trace} {d i n s slot : Nat} {order : List Nat} {kind : StreamKind}

/-- Operation `i` is on the compute stream, issued before the trace had this length. -/
def ComputesBefore (t : Trace) (d length i : Nat) : Prop := i < length ∧ t.On d .compute i

/-- Operation `i` is on the compute stream, issued after the trace had this length. -/
def ComputesAfter (t : Trace) (d length i : Nat) : Prop := length ≤ i ∧ t.On d .compute i

/-- A pipelined exchange in a trace: its stages in the order in which they run, and the length of
the trace when it began and when it ended. -/
structure Phase where
  order : List Nat
  start : Nat
  stop : Nat

/-- Operation `n` is a transfer of the exchange. -/
def Phase.Moves (p : Phase) (t : Trace) (n : Nat) : Prop :=
  p.start ≤ n ∧ n < p.stop ∧ t.Transfers n

/-- Operation `n` is a transfer of the exchange, in the round of stage `s`. -/
def Phase.MovesStage (p : Phase) (t : Trace) (s n : Nat) : Prop :=
  p.Moves t n ∧ p.order[t.round p.start n]? = some s

lemma on_append_iff (hi : i < t.length) (u : Trace) : (t ++ u).On d kind i ↔ t.On d kind i := by
  unfold On
  rw [getElem?_append hi]

lemma Phase.moves_append_iff {p : Phase} (hp : p.stop ≤ t.length) (u : Trace) :
    p.Moves (t ++ u) n ↔ p.Moves t n := by
  constructor
  · rintro ⟨hstart, hstop, ht⟩
    exact ⟨hstart, hstop, (transfers_append_iff (by omega) u).1 ht⟩
  · rintro ⟨hstart, hstop, ht⟩
    exact ⟨hstart, hstop, (transfers_append_iff (by omega) u).2 ht⟩

lemma Phase.movesStage_append_iff {p : Phase} (hp : p.stop ≤ t.length) (u : Trace) :
    p.MovesStage (t ++ u) s n ↔ p.MovesStage t s n := by
  unfold MovesStage
  rw [moves_append_iff hp]
  constructor
  · rintro ⟨hmoves, hs⟩
    have hstop := hmoves.2.1
    rw [round_append (by omega)] at hs
    exact ⟨hmoves, hs⟩
  · rintro ⟨hmoves, hs⟩
    have hstop := hmoves.2.1
    refine ⟨hmoves, ?_⟩
    rw [round_append (by omega)]
    exact hs

/-- Where nothing moves, no round is closed. -/
lemma round_of_plain (hu : ∀ x ∈ u, x.IsPlain) :
    (t ++ u).round t.length (t ++ u).length = 0 := by
  rw [round_eq_of_none (not_mem_of_plain hu) (Nat.le_refl _) (by simp)]
  simp [round]

/-- The transfers come after everything plain. -/
lemma Transfers.length_le (ht : (t ++ u ++ seg).Transfers n) (hu : ∀ x ∈ u, x.IsPlain)
    (hn : t.length ≤ n) : (t ++ u).length ≤ n := by
  rcases Nat.lt_or_ge n (t ++ u).length with hlt | hge
  · rw [transfers_append_iff hlt] at ht
    obtain ⟨e, he, kind, hkind⟩ := ht.mem_right hn
    exact absurd hkind (not_transfer_of_plain (hu e he) kind)
  · exact hge

/-- The exchange is in the trace `base ++ calm ++ seg ++ tail`: it began at `base`, its rounds are
`seg`, and nothing else of it moves anything. -/
structure Phase.Lies (before after : Nat → Trace) (p : Phase) (base calm seg tail : Trace) :
    Prop where
  framed : Framed before after
  plain : ∀ x ∈ calm, x.IsPlain
  rounds : Rounds before after p.order seg
  plain_tail : ∀ x ∈ tail, x.IsPlain
  start : p.start = base.length

namespace Phase.Lies

variable {before after : Nat → Trace} {p : Phase} {base calm tail : Trace}

/-- The transfers are in the rounds. -/
lemma moves (h : p.Lies before after base calm seg tail)
    (hm : p.Moves (base ++ calm ++ seg ++ tail) n) :
    (base ++ calm).length ≤ n ∧ (base ++ calm ++ seg).Transfers n := by
  obtain ⟨hstart, -, ht⟩ := hm
  have hleft : (base ++ calm ++ seg).Transfers n := by
    refine ht.left ?_
    intro e he kind
    exact not_transfer_of_plain (h.plain_tail e he) kind
  rw [h.start] at hstart
  exact ⟨hleft.length_le h.plain hstart, hleft⟩

/-- The stage of a transfer, by the rounds only. -/
lemma movesStage (h : p.Lies before after base calm seg tail)
    (hm : p.MovesStage (base ++ calm ++ seg ++ tail) s n) :
    p.order[(base ++ calm ++ seg).round base.length n]? = some s := by
  obtain ⟨hmoves, hs⟩ := hm
  have hlt := (h.moves hmoves).2.lt
  rw [h.start, round_append (by omega)] at hs
  exact hs

lemma start_le (base calm : Trace) : base.length ≤ (base ++ calm).length := by
  rw [List.length_append]
  omega

/-- Every transfer belongs to a stage. -/
lemma staged (h : p.Lies before after base calm seg tail)
    (hm : p.Moves (base ++ calm ++ seg ++ tail) n) :
    ∃ s ∈ p.order, p.MovesStage (base ++ calm ++ seg ++ tail) s n := by
  obtain ⟨hle, ht⟩ := h.moves hm
  have hlt := h.rounds.round_lt h.framed (start_le base calm) (round_of_plain h.plain) hle ht
  refine ⟨_, List.getElem_mem hlt, hm, ?_⟩
  have hn := ht.lt
  rw [h.start, round_append (by omega)]
  exact List.getElem?_eq_getElem hlt

lemma on_comm (h : p.Lies before after base calm seg tail)
    (hm : p.Moves (base ++ calm ++ seg ++ tail) n) (d : Nat) :
    (base ++ calm ++ seg).On d .comm n := by
  obtain ⟨hle, ht⟩ := h.moves hm
  exact h.rounds.on_comm h.framed d (start_le base calm) (round_of_plain h.plain) hle ht

end Phase.Lies

variable {p : Phase} {base : Trace}

/-- What a scatter writes down: it registers buffers, waits for slot 0, and runs its rounds. -/
def scattering (uses rounds : Trace) : Trace := uses ++ .eventWait 0 .comm :: rounds

structure Phase.Scatters (p : Phase) (base uses seg : Trace) : Prop where
  used : ∀ x ∈ uses, x.IsUse
  rounds : ScatterRounds p.order seg
  start : p.start = base.length
  stop : p.stop = (base ++ scattering uses seg).length

namespace Phase.Scatters

lemma trace_eq (base uses seg : Trace) : base ++ scattering uses seg =
    base ++ (uses ++ [.eventWait 0 .comm]) ++ seg ++ [] := by
  simp only [scattering, List.append_assoc, List.singleton_append, List.append_nil]

lemma lies (h : p.Scatters base uses seg) :
    p.Lies (fun _ => []) (fun s => [.eventRecord s .comm]) base (uses ++ [.eventWait 0 .comm]) seg
      [] where
  framed := framed_scatter
  plain := by
    intro x hx
    rcases List.mem_append.1 hx with hx | hx
    · exact (h.used x hx).isPlain
    · rw [List.mem_singleton.1 hx]
      trivial
  rounds := h.rounds
  plain_tail := nofun
  start := h.start

lemma staged (h : p.Scatters base uses seg) (hm : p.Moves (base ++ scattering uses seg) n) :
    ∃ s ∈ p.order, p.MovesStage (base ++ scattering uses seg) s n := by
  rw [trace_eq] at hm ⊢
  exact h.lies.staged hm

/-- What slot 0 stood for comes before all transfers. -/
lemma first (h : p.Scatters base uses seg) (hi : base.Carried d 0 i)
    (hm : p.Moves (base ++ scattering uses seg) n) (u : Trace) :
    (base ++ scattering uses seg ++ u).Before d i n := by
  rw [trace_eq] at hm
  have hle := (h.lies.moves hm).1
  have hon := ((h.lies.on_comm hm d).append [])
  have hwaited : (base ++ uses ++ [TraceEvent.eventWait 0 .comm]).Known d .comm i :=
    (hi.append fun e he => (h.used e he).ne_record 0).wait .comm
  rw [List.append_assoc] at hwaited
  rw [trace_eq, List.append_assoc, List.append_assoc]
  refine hwaited _ n hle ?_
  rw [← List.append_assoc, ← List.append_assoc]
  exact hon.append u

/-- At the end the slot of a stage stands for all transfers of the stage. -/
lemma carried (h : p.Scatters base uses seg) (hnodup : p.order.Nodup)
    (hm : p.MovesStage (base ++ scattering uses seg) s n) :
    (base ++ scattering uses seg).Carried d s n := by
  rw [trace_eq] at hm ⊢
  obtain ⟨hle, ht⟩ := h.lies.moves hm.1
  rw [List.append_nil]
  exact h.rounds.carried hnodup d (Lies.start_le base _) (round_of_plain h.lies.plain) hle ht
    (h.lies.movesStage hm)

end Phase.Scatters

/-- What a gather writes down: it registers buffers, runs its rounds, and records slot 0. -/
def gathering (uses rounds : Trace) : Trace := uses ++ (rounds ++ [.eventRecord 0 .comm])

structure Phase.Gathers (p : Phase) (base uses seg : Trace) : Prop where
  used : ∀ x ∈ uses, x.IsUse
  rounds : GatherRounds p.order seg
  start : p.start = base.length
  stop : p.stop = (base ++ gathering uses seg).length

namespace Phase.Gathers

lemma trace_eq (base uses seg : Trace) : base ++ gathering uses seg =
    base ++ uses ++ seg ++ [.eventRecord 0 .comm] := by
  simp only [gathering, List.append_assoc]

lemma lies (h : p.Gathers base uses seg) :
    p.Lies (fun s => [.eventWait s .comm]) (fun _ => []) base uses seg [.eventRecord 0 .comm] where
  framed := framed_gather
  plain x hx := (h.used x hx).isPlain
  rounds := h.rounds
  plain_tail := by
    intro x hx
    rw [List.mem_singleton.1 hx]
    trivial
  start := h.start

lemma staged (h : p.Gathers base uses seg) (hm : p.Moves (base ++ gathering uses seg) n) :
    ∃ s ∈ p.order, p.MovesStage (base ++ gathering uses seg) s n := by
  rw [trace_eq] at hm ⊢
  exact h.lies.staged hm

/-- What the slot of a stage stood for comes before the transfers of the stage. -/
lemma first (h : p.Gathers base uses seg) (hi : base.Carried d s i)
    (hm : p.MovesStage (base ++ gathering uses seg) s n) (u : Trace) :
    (base ++ gathering uses seg ++ u).Before d i n := by
  rw [trace_eq] at hm
  obtain ⟨hle, ht⟩ := h.lies.moves hm.1
  have hcarried := hi.append fun e he => (h.used e he).ne_record s
  rw [trace_eq, List.append_assoc (base ++ uses ++ seg)]
  exact h.rounds.waited (Lies.start_le base _) (round_of_plain h.lies.plain) hcarried hle ht
    (h.lies.movesStage hm) _

/-- At the end slot 0 stands for all transfers. -/
lemma carried (h : p.Gathers base uses seg)
    (hm : p.Moves (base ++ gathering uses seg) n) :
    (base ++ gathering uses seg).Carried d 0 n := by
  rw [trace_eq] at hm ⊢
  exact (known_of_on (h.lies.on_comm hm d)).record 0

end Phase.Gathers

end Trace

end ExpertExchange
