import ExpertExchange.Proofs.Host.StreamOrder

/-!
# Rounds of a pipelined exchange in the trace

A pipelined exchange leaves one round for each stage in the trace. A scatter records the slot of the
stage after its round; a gather waits for it before the round. So a slot that a scatter has recorded
stands for all transfers of its stage, and a gather's transfers of a stage come after all that the
slot of the stage stood for.
-/

namespace ExpertExchange

namespace TraceEvent

def IsTransfer (kind : StreamKind) : TraceEvent → Prop
  | .send _ _ k | .recv _ _ k => k = kind
  | _ => False

/-- The operation neither transfers nor closes a round. -/
def IsPlain : TraceEvent → Prop
  | .send _ _ _ | .recv _ _ _ | .groupEnd => False
  | _ => True

def IsUse : TraceEvent → Prop
  | .recordStream _ => True
  | _ => False

def IsKernel : TraceEvent → Prop
  | .compile _ _ | .launch _ _ _ => True
  | _ => False

variable {e : TraceEvent}

lemma IsUse.isPlain (h : e.IsUse) : e.IsPlain := by
  cases e with
  | recordStream kind => trivial
  | _ => exact h.elim

lemma IsUse.ne_record (h : e.IsUse) (slot : Nat) (kind : StreamKind) :
    e ≠ .eventRecord slot kind := by
  rintro rfl
  exact h

lemma IsKernel.ne_record (h : e.IsKernel) (slot : Nat) (kind : StreamKind) :
    e ≠ .eventRecord slot kind := by
  rintro rfl
  exact h

end TraceEvent

namespace Trace

variable {t u base seg : Trace} {d i j s start : Nat} {order : List Nat} {kind : StreamKind}
  {before after : Nat → Trace}

/-- Number of rounds that are closed from operation `start` on and before operation `i`. -/
def round (t : Trace) (start i : Nat) : Nat := ((t.take i).drop start).count .groupEnd

/-- One round for each stage of the list, in order, with transfers on the communication stream; what
stands before and after a round depends on the stage only. -/
inductive Rounds (before after : Nat → Trace) : List Nat → Trace → Prop where
  | nil : Rounds before after [] []
  | round {order : List Nat} {seg transfers : Trace} {s : Nat} (h : Rounds before after order seg)
      (htransfers : ∀ e ∈ transfers, e.IsTransfer .comm) :
      Rounds before after (order ++ [s])
        (seg ++ (before s ++ .groupStart :: transfers ++ .groupEnd :: after s))

abbrev ScatterRounds : List Nat → Trace → Prop :=
  Rounds (fun _ => []) fun s => [.eventRecord s .comm]

abbrev GatherRounds : List Nat → Trace → Prop :=
  Rounds (fun s => [.eventWait s .comm]) fun _ => []

lemma Transfers.lt (h : t.Transfers i) : i < t.length := by
  rcases h with ⟨_, _, _, h⟩ | ⟨_, _, _, h⟩
  · exact (List.getElem?_eq_some_iff.1 h).1
  · exact (List.getElem?_eq_some_iff.1 h).1

lemma transfers_append_iff (hi : i < t.length) (u : Trace) :
    (t ++ u).Transfers i ↔ t.Transfers i := by
  unfold Transfers Sends
  rw [getElem?_append hi]

/-- Some transfer is among the operations where it is. -/
lemma Transfers.mem_right (h : (t ++ u).Transfers i) (hi : t.length ≤ i) :
    ∃ e ∈ u, ∃ kind, e.IsTransfer kind := by
  rcases h with ⟨_, _, kind, h⟩ | ⟨_, _, kind, h⟩
  · rw [List.getElem?_append_right hi] at h
    exact ⟨_, List.mem_of_getElem? h, kind, rfl⟩
  · rw [List.getElem?_append_right hi] at h
    exact ⟨_, List.mem_of_getElem? h, kind, rfl⟩

lemma Transfers.left (h : (t ++ u).Transfers i) (hu : ∀ e ∈ u, ∀ kind, ¬ e.IsTransfer kind) :
    t.Transfers i := by
  by_cases hi : i < t.length
  · exact (transfers_append_iff hi u).1 h
  · obtain ⟨e, he, kind, hkind⟩ := h.mem_right (by omega)
    exact absurd hkind (hu e he kind)

lemma round_append (hi : i ≤ t.length) (u : Trace) (start : Nat) :
    (t ++ u).round start i = t.round start i := by
  unfold round
  rw [List.take_append_of_le_length hi]

/-- Where no round is closed the count stays the same. -/
lemma round_eq_of_none (hu : TraceEvent.groupEnd ∉ u) (hstart : start ≤ t.length)
    (hi : t.length ≤ i) : (t ++ u).round start i = t.round start t.length := by
  have hsplit : (t ++ u).take i = t ++ u.take (i - t.length) := by
    rw [List.take_append, List.take_of_length_le hi]
  have hnone : (u.take (i - t.length)).count TraceEvent.groupEnd = 0 := by
    rw [List.count_eq_zero]
    exact fun h => hu (List.mem_of_mem_take h)
  unfold round
  rw [hsplit, List.drop_append_of_le_length hstart, List.count_append, hnone, List.take_length,
    Nat.add_zero]

lemma round_length_append (hstart : start ≤ t.length) (u : Trace) :
    (t ++ u).round start (t ++ u).length = t.round start t.length + u.count .groupEnd := by
  unfold round
  rw [List.take_length, List.take_length, List.drop_append_of_le_length hstart, List.count_append]

/-- What stands around the transfers of a round is plain. -/
structure Framed (before after : Nat → Trace) : Prop where
  before : ∀ s, ∀ e ∈ before s, e.IsPlain
  after : ∀ s, ∀ e ∈ after s, e.IsPlain

lemma framed_scatter : Framed (fun _ => []) fun s => [.eventRecord s .comm] := by
  constructor
  · intro s e he
    cases he
  · intro s e he
    rw [List.mem_singleton.1 he]
    trivial

lemma framed_gather : Framed (fun s => [.eventWait s .comm]) fun _ => [] := by
  constructor
  · intro s e he
    rw [List.mem_singleton.1 he]
    trivial
  · intro s e he
    cases he

lemma not_mem_of_plain {u : Trace} (h : ∀ e ∈ u, e.IsPlain) : TraceEvent.groupEnd ∉ u :=
  fun hmem => h _ hmem

lemma not_transfer_of_plain {e : TraceEvent} (h : e.IsPlain) (kind : StreamKind) :
    ¬ e.IsTransfer kind := by
  intro ht
  cases e with
  | send _ _ _ => exact h
  | recv _ _ _ => exact h
  | _ => exact ht

lemma not_groupEnd_of_transfers {transfers : Trace} (h : ∀ e ∈ transfers, e.IsTransfer .comm) :
    TraceEvent.groupEnd ∉ TraceEvent.groupStart :: transfers := by
  intro hmem
  rcases List.mem_cons.1 hmem with heq | hmem
  · cases heq
  · exact h _ hmem

/-- The operations of a round up to its end. -/
def opening (before : Nat → Trace) (s : Nat) (transfers : Trace) : Trace :=
  before s ++ .groupStart :: transfers

/-- The place of operation `i` among the rounds that follow `base`: it is a transfer of the round of
stage `s`. -/
structure Place (d : Nat) (before after : Nat → Trace) (base seg : Trace) (order : List Nat)
    (start i : Nat) where
  done : List Nat
  s : Nat
  rest : List Nat
  earlier : Trace
  transfers : Trace
  later : Trace
  order_eq : order = done ++ s :: rest
  seg_eq : seg = earlier ++ opening before s transfers ++ .groupEnd :: after s ++ later
  earlier_rounds : Rounds before after done earlier
  later_rounds : Rounds before after rest later
  inside : (base ++ earlier ++ before s).length ≤ i
  on_comm : (base ++ earlier ++ opening before s transfers).On d .comm i
  round_eq : (base ++ seg).round start i = done.length

lemma Rounds.round_length (h : Rounds before after order seg) (hf : Framed before after)
    (hstart : start ≤ base.length) (hbase : base.round start base.length = 0) :
    (base ++ seg).round start (base ++ seg).length = order.length := by
  induction h with
  | nil => rw [List.append_nil, hbase, List.length_nil]
  | @round order seg transfers s _ htransfers ih =>
    have hbefore : (before s).count TraceEvent.groupEnd = 0 :=
      List.count_eq_zero.2 (not_mem_of_plain (hf.before s))
    have hopen : (TraceEvent.groupStart :: transfers).count TraceEvent.groupEnd = 0 :=
      List.count_eq_zero.2 (not_groupEnd_of_transfers htransfers)
    have hafter : (after s).count TraceEvent.groupEnd = 0 :=
      List.count_eq_zero.2 (not_mem_of_plain (hf.after s))
    have hle : start ≤ (base ++ seg).length := by
      rw [List.length_append]
      omega
    rw [← List.append_assoc, round_length_append hle, ih, List.count_append, List.count_append,
      hbefore, hopen, List.count_cons_self, hafter, List.length_append, List.length_singleton]

/-- Transfers among operations whose transfers are all on the communication stream. -/
lemma Transfers.on_comm (h : (t ++ u).Transfers i) (hi : t.length ≤ i)
    (hu : ∀ e ∈ u, ∀ kind, e.IsTransfer kind → kind = .comm) (d : Nat) :
    (t ++ u).On d .comm i := by
  rcases h with ⟨_, _, kind, h⟩ | ⟨_, _, kind, h⟩
  · have hmem := h
    rw [List.getElem?_append_right hi] at hmem
    have hkind := hu _ (List.mem_of_getElem? hmem) kind rfl
    exact ⟨_, h, congrArg some hkind⟩
  · have hmem := h
    rw [List.getElem?_append_right hi] at hmem
    have hkind := hu _ (List.mem_of_getElem? hmem) kind rfl
    exact ⟨_, h, congrArg some hkind⟩

lemma comm_of_opening {transfers : Trace} (htransfers : ∀ e ∈ transfers, e.IsTransfer .comm)
    {e : TraceEvent} (he : e ∈ TraceEvent.groupStart :: transfers) (hkind : e.IsTransfer kind) :
    kind = .comm := by
  rcases List.mem_cons.1 he with rfl | he
  · exact hkind.elim
  · have hcomm := htransfers e he
    cases e with
    | send _ _ _ => exact hkind.symm.trans hcomm
    | recv _ _ _ => exact hkind.symm.trans hcomm
    | _ => exact hkind.elim

/-- The place of a transfer of the last round. -/
lemma Rounds.place_last {transfers : Trace} (hrounds : Rounds before after order seg)
    (htransfers : ∀ e ∈ transfers, e.IsTransfer .comm) (hf : Framed before after) (d : Nat)
    (hstart : start ≤ base.length) (hbase : base.round start base.length = 0)
    (hi : (base ++ seg).length ≤ i)
    (ht : (base ++ seg ++ (opening before s transfers ++ .groupEnd :: after s)).Transfers i) :
    Nonempty (Place d before after base
      (seg ++ (opening before s transfers ++ .groupEnd :: after s)) (order ++ [s]) start i) := by
  have hopen : (base ++ seg ++ opening before s transfers).Transfers i := by
    rw [← List.append_assoc] at ht
    refine ht.left ?_
    intro e he kind hkind
    rcases List.mem_cons.1 he with rfl | he
    · exact hkind
    · exact not_transfer_of_plain (hf.after s e he) kind hkind
  have hassoc : base ++ seg ++ opening before s transfers =
      base ++ seg ++ before s ++ .groupStart :: transfers := (List.append_assoc _ _ _).symm
  have hinside : (base ++ seg ++ before s).length ≤ i := by
    rcases Nat.lt_or_ge i (base ++ seg ++ before s).length with hlt | hge
    · rw [hassoc, transfers_append_iff hlt] at hopen
      obtain ⟨e, he, kind, hkind⟩ := hopen.mem_right hi
      exact absurd hkind (not_transfer_of_plain (hf.before s e he) kind)
    · exact hge
  have hon : (base ++ seg ++ opening before s transfers).On d .comm i := by
    rw [hassoc] at hopen ⊢
    exact hopen.on_comm hinside (fun e he kind hkind => comm_of_opening htransfers he hkind) d
  have hnone : TraceEvent.groupEnd ∉ opening before s transfers := by
    intro hmem
    rcases List.mem_append.1 hmem with hmem | hmem
    · exact not_mem_of_plain (hf.before s) hmem
    · exact not_groupEnd_of_transfers htransfers hmem
  have hstart' : start ≤ (base ++ seg).length := by
    rw [List.length_append]
    omega
  have hround : (base ++ (seg ++ (opening before s transfers ++ .groupEnd :: after s))).round start
      i = order.length := by
    rw [← List.append_assoc, ← List.append_assoc, round_append (Nat.le_of_lt hon.lt),
      round_eq_of_none hnone hstart' hi]
    exact hrounds.round_length hf hstart hbase
  exact ⟨{
    done := order
    s := s
    rest := []
    earlier := seg
    transfers := transfers
    later := []
    order_eq := rfl
    seg_eq := by rw [List.append_nil, List.append_assoc]
    earlier_rounds := hrounds
    later_rounds := .nil
    inside := hinside
    on_comm := hon
    round_eq := hround }⟩

def Place.extend {transfers : Trace} (p : Place d before after base seg order start i)
    (htransfers : ∀ e ∈ transfers, e.IsTransfer .comm) (hi : i ≤ (base ++ seg).length) :
    Place d before after base (seg ++ (opening before s transfers ++ .groupEnd :: after s))
      (order ++ [s]) start i where
  done := p.done
  s := p.s
  rest := p.rest ++ [s]
  earlier := p.earlier
  transfers := p.transfers
  later := p.later ++ (opening before s transfers ++ .groupEnd :: after s)
  order_eq := by
    refine (congrArg (· ++ [s]) p.order_eq).trans ?_
    simp only [List.append_assoc, List.cons_append]
  seg_eq := by
    refine (congrArg (· ++ (opening before s transfers ++ .groupEnd :: after s)) p.seg_eq).trans ?_
    simp only [List.append_assoc, List.cons_append]
  earlier_rounds := p.earlier_rounds
  later_rounds := p.later_rounds.round htransfers
  inside := p.inside
  on_comm := p.on_comm
  round_eq := by
    rw [← List.append_assoc, round_append hi]
    exact p.round_eq

/-- Every transfer among the rounds has its place. -/
lemma Rounds.place (h : Rounds before after order seg) (hf : Framed before after) (d : Nat)
    (hstart : start ≤ base.length) (hbase : base.round start base.length = 0)
    (hi : base.length ≤ i) (ht : (base ++ seg).Transfers i) :
    Nonempty (Place d before after base seg order start i) := by
  induction h with
  | nil =>
    have hlt := ht.lt
    rw [List.append_nil] at hlt
    omega
  | @round order seg transfers s hrounds htransfers ih =>
    rw [← List.append_assoc] at ht
    by_cases hlt : i < (base ++ seg).length
    · obtain ⟨p⟩ := ih ((transfers_append_iff hlt _).1 ht)
      exact ⟨p.extend htransfers (Nat.le_of_lt hlt)⟩
    · exact hrounds.place_last htransfers hf d hstart hbase (by omega) ht

/-- The stage of a place is the one that the number of closed rounds tells. -/
lemma Place.stage_eq (p : Place d before after base seg order start i)
    (hs : order[(base ++ seg).round start i]? = some s) : p.s = s := by
  have horder : order[p.done.length]? = (p.done ++ p.s :: p.rest)[p.done.length]? :=
    congrArg (·[p.done.length]?) p.order_eq
  rw [p.round_eq, horder, List.getElem?_append_right (Nat.le_refl _), Nat.sub_self,
    List.getElem?_cons_zero] at hs
  exact Option.some.inj hs

/-- Every transfer is in the round of some stage. -/
lemma Rounds.round_lt (h : Rounds before after order seg) (hf : Framed before after)
    (hstart : start ≤ base.length) (hbase : base.round start base.length = 0)
    (hi : base.length ≤ i) (ht : (base ++ seg).Transfers i) :
    (base ++ seg).round start i < order.length := by
  obtain ⟨p⟩ := h.place hf 0 hstart hbase hi ht
  have hlength := congrArg List.length p.order_eq
  rw [List.length_append, List.length_cons] at hlength
  rw [p.round_eq]
  omega

lemma Rounds.mem {e : TraceEvent} (h : Rounds before after order seg) (he : e ∈ seg) :
    (∃ s ∈ order, e ∈ before s ++ after s) ∨ e = .groupStart ∨ e = .groupEnd ∨
      e.IsTransfer .comm := by
  induction h with
  | nil => cases he
  | @round order seg transfers s _ htransfers ih =>
    have hlast : s ∈ order ++ [s] := List.mem_append_right _ (List.mem_singleton_self s)
    rcases List.mem_append.1 he with he | he
    · rcases ih he with ⟨s', hs', he'⟩ | he'
      · exact .inl ⟨s', List.mem_append_left _ hs', he'⟩
      · exact .inr he'
    · rcases List.mem_append.1 he with he | he
      · rcases List.mem_append.1 he with he | he
        · exact .inl ⟨s, hlast, List.mem_append_left _ he⟩
        · rcases List.mem_cons.1 he with he | he
          · exact .inr (.inl he)
          · exact .inr (.inr (.inr (htransfers e he)))
      · rcases List.mem_cons.1 he with he | he
        · exact .inr (.inr (.inl he))
        · exact .inl ⟨s, hlast, List.mem_append_right _ he⟩

/-- A scatter records the slots of its stages only. -/
lemma Rounds.not_record_scatter (h : ScatterRounds order seg) (hs : s ∉ order) {e : TraceEvent}
    (he : e ∈ seg) (kind : StreamKind) : e ≠ .eventRecord s kind := by
  rintro rfl
  rcases h.mem he with ⟨s', hs', hmem⟩ | heq | heq | htransfer
  · rw [List.nil_append, List.mem_singleton] at hmem
    cases hmem
    exact hs hs'
  · cases heq
  · cases heq
  · exact htransfer

/-- The rounds of a gather record nothing. -/
lemma Rounds.not_record_gather (h : GatherRounds order seg) (slot : Nat) {e : TraceEvent}
    (he : e ∈ seg) (kind : StreamKind) : e ≠ .eventRecord slot kind := by
  rintro rfl
  rcases h.mem he with ⟨s', _, hmem⟩ | heq | heq | htransfer
  · rw [List.append_nil, List.mem_singleton] at hmem
    cases hmem
  · cases heq
  · cases heq
  · exact htransfer

/-- After a scatter the slot of a stage stands for all transfers of the stage. -/
lemma Rounds.carried (h : ScatterRounds order seg) (hnodup : order.Nodup) (d : Nat)
    (hstart : start ≤ base.length) (hbase : base.round start base.length = 0)
    (hi : base.length ≤ i) (ht : (base ++ seg).Transfers i)
    (hs : order[(base ++ seg).round start i]? = some s) : (base ++ seg).Carried d s i := by
  obtain ⟨p⟩ := h.place framed_scatter d hstart hbase hi ht
  obtain rfl := p.stage_eq hs
  have hclosed := (known_of_on p.on_comm).append [.groupEnd]
  have hrecorded := hclosed.record p.s
  have hrest : p.s ∉ p.rest := by
    rw [p.order_eq] at hnodup
    exact (List.nodup_cons.1 (List.nodup_append.1 hnodup).2.1).1
  have hlater := hrecorded.append fun e he kind => p.later_rounds.not_record_scatter hrest he kind
  have hsplit : base ++ seg = base ++ p.earlier ++ opening (fun _ => []) p.s p.transfers ++
      [.groupEnd] ++ [.eventRecord p.s .comm] ++ p.later := by
    refine (congrArg (base ++ ·) p.seg_eq).trans ?_
    simp only [List.append_assoc, List.cons_append, List.nil_append]
  rw [hsplit]
  exact hlater

/-- The transfers of a stage of a gather come after all that the slot of the stage stood for. -/
lemma Rounds.waited (h : GatherRounds order seg) (hstart : start ≤ base.length)
    (hbase : base.round start base.length = 0) (hcarried : base.Carried d s i)
    (hj : base.length ≤ j) (ht : (base ++ seg).Transfers j)
    (hs : order[(base ++ seg).round start j]? = some s) (t' : Trace) :
    (base ++ seg ++ t').Before d i j := by
  obtain ⟨p⟩ := h.place framed_gather d hstart hbase hj ht
  obtain rfl := p.stage_eq hs
  have hearlier := hcarried.append fun e he kind => p.earlier_rounds.not_record_gather p.s he kind
  have hwaited := hearlier.wait .comm
  have hsplit : base ++ seg ++ t' = base ++ p.earlier ++ [.eventWait p.s .comm] ++
      (.groupStart :: p.transfers ++ .groupEnd :: p.later ++ t') := by
    refine (congrArg (base ++ · ++ t') p.seg_eq).trans ?_
    simp only [opening, List.append_assoc, List.cons_append, List.nil_append]
  have hon : (base ++ seg ++ t').On d .comm j := by
    have honcomm := p.on_comm.append (.groupEnd :: p.later ++ t')
    have hfull : base ++ p.earlier ++ opening (fun s => [.eventWait s .comm]) p.s p.transfers ++
        (.groupEnd :: p.later ++ t') = base ++ seg ++ t' := by
      rw [hsplit]
      simp only [opening, List.append_assoc, List.cons_append, List.nil_append]
    rw [hfull] at honcomm
    exact honcomm
  rw [hsplit] at hon ⊢
  exact hwaited _ j p.inside hon

/-- All transfers of a gather are on the communication stream. -/
lemma Rounds.on_comm (h : Rounds before after order seg) (hf : Framed before after) (d : Nat)
    (hstart : start ≤ base.length) (hbase : base.round start base.length = 0)
    (hi : base.length ≤ i) (ht : (base ++ seg).Transfers i) : (base ++ seg).On d .comm i := by
  obtain ⟨p⟩ := h.place hf d hstart hbase hi ht
  have hon := p.on_comm.append (.groupEnd :: after p.s ++ p.later)
  have hfull : base ++ p.earlier ++ opening before p.s p.transfers ++
      (.groupEnd :: after p.s ++ p.later) = base ++ seg := by
    refine Eq.trans ?_ (congrArg (base ++ ·) p.seg_eq).symm
    simp only [List.append_assoc, List.cons_append]
  rw [hfull] at hon
  exact hon

end Trace

end ExpertExchange
