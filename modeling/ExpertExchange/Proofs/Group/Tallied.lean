import ExpertExchange.Proofs.Group.Checks

/-!
# Rounds opened and rounds closed

A tally beside the link counts the rounds that were opened, the closings that were issued, and the
transfers that did not succeed. A batched exchange issues one closing for every round it opens,
unless a transfer inside a round fails: then it ends at once, and that round stays open.
-/

namespace ExpertExchange

/-- Calls counted at a transport. -/
structure Tally where
  /-- Rounds opened. -/
  opened : Nat
  /-- Closings issued, whether or not they succeeded. -/
  closed : Nat
  /-- Transfers that did not succeed. -/
  failed : Nat
  deriving Repr, DecidableEq

namespace Tally

def begun (t : Tally) : Tally := { t with opened := t.opened + 1 }

def ended (t : Tally) : Tally := { t with closed := t.closed + 1 }

def missed (t : Tally) : Tally := { t with failed := t.failed + 1 }

/-- What a call that transfers in rounds does to a tally. Some rounds are opened and closed, and at
most one more is opened only: the one in which a transfer failed, and then the call ends with an
error. A fault may leave a round open without any failed transfer. -/
def Settled (t : Tally) (ending : Ending) (t' : Tally) : Prop :=
  ∃ rounds left, left ≤ 1 ∧ t'.opened = t.opened + rounds + left ∧ t'.closed = t.closed + rounds ∧
    match ending with
    | .ok => left = 0 ∧ t'.failed = t.failed
    | .error => t'.failed = t.failed + left
    | .fault => t'.failed ≤ t.failed + left

/-- What transfers inside a round do to a tally. No round is opened or closed, and an error is the
failure of a transfer. -/
def Transferred (t : Tally) (ending : Ending) (t' : Tally) : Prop :=
  t'.opened = t.opened ∧ t'.closed = t.closed ∧
    match ending with
    | .ok => t'.failed = t.failed
    | .error => t'.failed = t.failed + 1
    | .fault => t'.failed ≤ t.failed + 1

lemma settled_self (t : Tally) (ending : Ending) : t.Settled ending t := by
  refine ⟨0, 0, Nat.zero_le 1, rfl, rfl, ?_⟩
  cases ending with
  | ok => exact ⟨rfl, rfl⟩
  | error => rfl
  | fault => exact Nat.le_refl _

lemma chains_settled : Chains Settled := by
  constructor
  · intro t
    exact settled_self t .ok
  · rintro t₀ t₁ t₂ e ⟨n, k, -, ho, hc, hk, hf⟩ ⟨n', k', hk', ho', hc', hf'⟩
    refine ⟨n + n', k', hk', by omega, by omega, ?_⟩
    rw [hf] at hf'
    exact hf'

lemma chains_transferred : Chains Transferred := by
  constructor
  · intro t
    exact ⟨rfl, rfl, rfl⟩
  · rintro t₀ t₁ t₂ e ⟨ho, hc, hf⟩ ⟨ho', hc', hf'⟩
    refine ⟨ho'.trans ho, hc'.trans hc, ?_⟩
    rw [hf] at hf'
    exact hf'

/-- Rounds left open are transfers that failed. -/
lemma Settled.openRounds {t t' : Tally} {ending : Ending} (h : t.Settled ending t')
    (hend : ending ≠ .fault) :
    t'.opened + t.closed + t.failed = t.opened + t'.closed + t'.failed := by
  obtain ⟨rounds, left, -, ho, hc, hf⟩ := h
  cases ending with
  | ok =>
    obtain ⟨hleft, hfailed⟩ := hf
    omega
  | error =>
    replace hf : t'.failed = t.failed + left := hf
    omega
  | fault => exact absurd rfl hend

/-- A round whose transfers succeed is closed, however the closing ends. -/
lemma settled_of_closed {t t' : Tally} (h : t.begun.Transferred .ok t') (ending : Ending) :
    t.Settled ending t'.ended := by
  obtain ⟨ho, hc, hf⟩ := h
  refine ⟨1, 0, Nat.zero_le 1, ho, congrArg (· + 1) hc, ?_⟩
  cases ending with
  | ok => exact ⟨rfl, hf⟩
  | error => exact hf
  | fault => exact Nat.le_of_eq hf

/-- A round whose transfers do not all succeed is left open. -/
lemma settled_of_left {t t' : Tally} {ending : Ending} (h : t.begun.Transferred ending t')
    (hend : ending ≠ .ok) : t.Settled ending t' := by
  obtain ⟨ho, hc, hf⟩ := h
  refine ⟨0, 1, Nat.le_refl 1, ho, hc, ?_⟩
  cases ending with
  | ok => exact absurd rfl hend
  | error => exact hf
  | fault => exact hf

end Tally

namespace Transport

variable {S : Service} {σ T : Type}

/-- The platform and the link, as a part of what a tally stands beside. -/
def untallied : Part (σ × (T × Tally)) (σ × T) :=
  ⟨fun s => (s.1, s.2.1), fun s l => (l.1, (l.2, s.2.2))⟩

def count (f : Tally → Tally) : Act S (σ × (T × Tally)) ExchangeError Unit :=
  Act.modify fun s => (s.1, (s.2.1, f s.2.2))

/-- Perform a transfer, and count it if it does not succeed. -/
def transfer (m : Act S (σ × T) ExchangeError Unit) : Act S (σ × (T × Tally)) ExchangeError Unit :=
  (m.within untallied).orElseClean (count Tally.missed)

/-- The transport with a tally beside its link. -/
def tallied (X : Transport S σ T) : Transport S σ (T × Tally) where
  rank l := X.rank l.1
  worldSize l := X.worldSize l.1
  device l := X.device l.1
  groupStart := Act.bind (X.groupStart.within untallied) fun _ =>
    count Tally.begun
  groupEnd := Act.bind (count Tally.ended) fun _ =>
    X.groupEnd.within untallied
  send b range peer stream := transfer (X.send b range peer stream)
  recv b range peer stream := transfer (X.recv b range peer stream)
  broadcast b root stream := (X.broadcast b root stream).within untallied
  allReduce b stream := (X.allReduce b stream).within untallied
  close := X.close.within untallied

def tally (s : σ × (T × Tally)) : Tally := s.2.2

variable {α : Type} {X : Transport S σ T} {s : σ × (T × Tally)} {b : Buffer} {range : ByteRange}
  {peer : Nat} {stream : Stream}

/-- The link alone changes no tally. -/
lemma spares_untallied (m : Act S (σ × T) ExchangeError α) : (m.within untallied).Spares tally :=
  .within m fun _ _ => rfl

lemma transferred_transfer (m : Act S (σ × T) ExchangeError Unit) :
    (transfer m).Changes tally Tally.Transferred := by
  intro s o s' hend
  obtain ⟨⟨o₁, s₁⟩, h₁, h₂⟩ := Program.canEnd_bind_iff.1 hend
  have hspared : tally s₁ = tally s := spares_untallied m s o₁ s₁ h₁
  cases o₁ with
  | ok a =>
    cases Program.canEnd_done_iff.1 h₂
    exact hspared ▸ Tally.chains_transferred.refl (tally s)
  | error e =>
    cases Program.canEnd_done_iff.1 h₂
    change (tally s).Transferred .error (tally s₁).missed
    rw [hspared]
    exact ⟨rfl, rfl, rfl⟩
  | fault w =>
    cases Program.canEnd_done_iff.1 h₂
    change (tally s).Transferred .fault (tally s₁).missed
    rw [hspared]
    exact ⟨rfl, rfl, Nat.le_refl _⟩

lemma ensures_groupStart : X.tallied.groupStart.Ensures s fun o s' =>
    match o.ending with
    | .ok => tally s' = (tally s).begun
    | _ => tally s' = tally s := by
  refine Act.Ensures.bind (spares_untallied X.groupStart s) ?_ ?_ ?_
  · intro _ s₁ h₁
    refine .of_done rfl ?_
    exact congrArg Tally.begun h₁
  · intro _ _ h₁
    exact h₁
  · intro _ _ h₁
    exact h₁

lemma ensures_groupEnd : X.tallied.groupEnd.Ensures s fun _ s' =>
    tally s' = (tally s).ended := by
  intro o s' hend
  obtain ⟨⟨o₁, s₁⟩, h₁, h₂⟩ := Program.canEnd_bind_iff.1 hend
  cases Program.canEnd_done_iff.1 h₁
  exact spares_untallied X.groupEnd _ o s' h₂

end Transport

namespace Communicator

open Transport

variable {S : Service} {σ F E T α : Type} {P : Platform S σ F E} {X : Transport S σ T}
  {op : String} {b input output : Buffer} {inputs outputs : List Buffer} {sizes : List Nat}
  {str : Stream} {size own : Nat}

/-- A round is left open only by a transfer that fails in it. -/
lemma settled_inRound {transfers : Act S (σ × (T × Tally)) ExchangeError Unit}
    (h : transfers.Changes tally Tally.Transferred) :
    (inRound X.tallied transfers).Changes tally Tally.Settled := by
  intro s
  refine Act.Ensures.bind ensures_groupStart ?_ ?_ ?_
  · intro _ s₁ hopened
    replace hopened : tally s₁ = (tally s).begun := hopened
    refine Act.Ensures.bind (h s₁) ?_ ?_ ?_
    · intro _ s₂ hmoved
      rw [hopened] at hmoved
      refine ensures_groupEnd.mono ?_
      intro o s₃ hclosed
      rw [hclosed]
      exact Tally.settled_of_closed hmoved o.ending
    · intro e s₂ hmoved
      rw [hopened] at hmoved
      exact Tally.settled_of_left hmoved nofun
    · intro w s₂ hmoved
      rw [hopened] at hmoved
      exact Tally.settled_of_left hmoved nofun
  · intro e s₁ hkept
    replace hkept : tally s₁ = tally s := hkept
    rw [hkept]
    exact Tally.settled_self _ _
  · intro w s₁ hkept
    replace hkept : tally s₁ = tally s := hkept
    rw [hkept]
    exact Tally.settled_self _ _

lemma transferred_exchangeParts (peer sent received : Nat) (sizes : List (Nat × Nat)) :
    (exchangeParts X.tallied str size input output peer sent received sizes).Changes tally
      Tally.Transferred := by
  induction sizes generalizing peer sent received with
  | nil => exact .pure Tally.chains_transferred ()
  | cons part rest ih =>
    obtain ⟨out, back⟩ := part
    refine .bind Tally.chains_transferred (transferred_transfer _) ?_
    intro _
    refine .bind Tally.chains_transferred (transferred_transfer _) ?_
    intro _
    exact ih _ _ _

lemma transferred_ite {p : Prop} [Decidable p] {m : Act S (σ × (T × Tally)) ExchangeError Unit}
    (h : m.Changes tally Tally.Transferred) :
    (if p then m else pure ()).Changes tally Tally.Transferred := by
  by_cases hp : p
  · rw [if_pos hp]
    exact h
  · rw [if_neg hp]
    exact .pure Tally.chains_transferred ()

lemma transferred_gatherParts (peer received : Nat) :
    (gatherParts X.tallied str size own input output peer received sizes).Changes tally
      Tally.Transferred := by
  induction sizes generalizing peer received with
  | nil => exact .pure Tally.chains_transferred ()
  | cons count rest ih =>
    refine .bind Tally.chains_transferred (transferred_ite (transferred_transfer _)) ?_
    intro _
    refine .bind Tally.chains_transferred (transferred_ite (transferred_transfer _)) ?_
    intro _
    exact ih _ _

def commTally (s : σ × Communicator (T × Tally)) : Tally := s.2.link.2

lemma spares_onPlatform (m : Act S σ DeviceError α) :
    (onPlatform m : Act S (σ × Communicator (T × Tally)) ExchangeError α).Spares commTally :=
  .within _ fun _ _ => rfl

lemma spares_stream (kind : StreamKind) : (stream P X.tallied kind).Spares commTally := by
  refine .bind (.view _) ?_
  intro number
  exact spares_onPlatform _

/-- Checks before the rounds. -/
lemma settled_after {m : Act S (σ × Communicator (T × Tally)) ExchangeError α}
    {f : α → Act S (σ × Communicator (T × Tally)) ExchangeError Unit} (hm : m.Spares commTally)
    (hf : ∀ a, (f a).Changes commTally Tally.Settled) :
    (m.bind f).Changes commTally Tally.Settled :=
  .bind Tally.chains_settled (hm.changes Tally.settled_self) hf

lemma settled_rounds {pairs : List α} {transfers : α → Act S (σ × (T × Tally)) ExchangeError Unit}
    (h : ∀ pair, (transfers pair).Changes tally Tally.Transferred) :
    (Act.forEach pairs fun pair => onLink (inRound X.tallied (transfers pair))).Changes commTally
      Tally.Settled := by
  refine .forEach Tally.chains_settled ?_
  intro pair _
  refine .within (settled_inRound (h pair)) ?_ ?_
  · intro _
    rfl
  · intro _ _
    rfl

/-- A batched all-to-all closes all rounds that it opens, except one in which a transfer fails. -/
theorem settled_allToAll (inSizes outSizes : List Nat) :
    (allToAll P X.tallied inputs outputs inSizes outSizes).Changes commTally Tally.Settled := by
  refine settled_after (.view _) ?_
  intro place
  refine settled_after (.ofOutcome _) ?_
  intro _
  refine settled_after (.ofOutcome _) ?_
  intro _
  refine settled_after looks_checkBatch.spares ?_
  intro dtype?
  cases dtype? with
  | none => exact .pure Tally.chains_settled ()
  | some dtype =>
    refine settled_after (.ofOutcome _) ?_
    intro sent
    refine settled_after (looks_checkCapacity _).spares ?_
    intro _
    refine settled_after (.ofOutcome _) ?_
    intro received
    refine settled_after (looks_checkCapacity _).spares ?_
    intro _
    refine settled_after (spares_stream _) ?_
    intro compute
    exact settled_rounds fun pair => transferred_exchangeParts _ _ _ _

/-- A batched all-gather closes all rounds that it opens, except one in which a transfer fails. -/
theorem settled_allGather :
    (allGather P X.tallied inputs outputs sizes).Changes commTally Tally.Settled := by
  refine settled_after (.view _) ?_
  intro place
  refine settled_after (.ofOutcome _) ?_
  intro _
  refine settled_after looks_checkBatch.spares ?_
  intro dtype?
  cases dtype? with
  | none => exact .pure Tally.chains_settled ()
  | some dtype =>
    refine settled_after (.ofOutcome _) ?_
    intro own
    refine settled_after (.ofOutcome _) ?_
    intro received
    refine settled_after (looks_checkCapacity _).spares ?_
    intro _
    refine settled_after (looks_checkCapacity _).spares ?_
    intro _
    refine settled_after (spares_stream _) ?_
    intro compute
    exact settled_rounds fun pair => transferred_gatherParts _ _

end Communicator

end ExpertExchange
