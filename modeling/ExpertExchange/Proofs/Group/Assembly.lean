import ExpertExchange.Group.Simulated
import ExpertExchange.Proofs.Group.Mailbox
import Mathlib.Data.Finset.Card
import Mathlib.Data.Finset.Range
import Mathlib.Logic.Function.Basic
import Mathlib.Logic.Relation

/-!
# How a group assembles

Ranks of any world size try to connect under one id, in any order: they begin, join, wake up or give
up, and begin again. The network counts exactly those that wait or have connected. Who gives up is
taken off the count in the same moment, so that nobody connects before all ranks of the group are
counted, and nobody gives up after that.
-/

namespace ExpertExchange

namespace Network

def roll? (n : Network) (id : Bytes) : Option (Nat × Nat) :=
  (n.group? id).map fun g => (g.worldSize, g.joined)

variable {n : Network} {id other : Bytes} {size joined worldSize : Nat}

lemma exists_group (h : n.roll? id = some (size, joined)) :
    ∃ g, n.group? id = some g ∧ g.worldSize = size ∧ g.joined = joined := by
  obtain ⟨g, hg, hroll⟩ := Option.map_eq_some_iff.1 h
  cases hroll
  exact ⟨g, hg, rfl, rfl⟩

/-- What changes neither size nor count of a group changes no roll. -/
lemma roll?_modifyGroup (f : NetworkGroup → NetworkGroup) (hid : ∀ g, (f g).id = g.id)
    (hroll : ∀ g, ((f g).worldSize, (f g).joined) = (g.worldSize, g.joined)) :
    (n.modifyGroup other f).roll? id = n.roll? id := by
  rw [roll?, group?_modifyGroup_map f hid, Option.map_map, roll?]
  congr 1
  funext g
  by_cases h : g.id = other
  · simpa [h] using hroll g
  · simp [h]

/-- What is done to another group changes no roll of this one. -/
lemma roll?_modifyGroup_other (f : NetworkGroup → NetworkGroup) (hid : ∀ g, (f g).id = g.id)
    (hne : other ≠ id) : (n.modifyGroup other f).roll? id = n.roll? id := by
  rw [roll?, group?_modifyGroup_map f hid, roll?]
  cases hg : n.group? id with
  | none => rfl
  | some g =>
    have hother : g.id ≠ other := by
      have hfound : g.id = id := by simpa using List.find?_some hg
      exact fun h => hne (h.symm.trans hfound)
    simp [hother]

lemma join_same_size (h : n.roll? id = some (size, joined)) :
    (n.join id size).1 = .joined ∧ (n.join id size).2.roll? id = some (size, joined + 1) := by
  obtain ⟨g, hg, rfl, rfl⟩ := exists_group h
  simp only [join, hg, if_true, true_and]
  rw [roll?, group?_modifyGroup (fun g => { g with joined := g.joined + 1 }) (fun _ => rfl) hg]
  rfl

lemma join_other_size (h : n.roll? id = some (size, joined)) (hne : worldSize ≠ size) :
    n.join id worldSize = (.otherSize size, n) := by
  obtain ⟨g, hg, rfl, -⟩ := exists_group h
  simp only [join, hg, if_neg hne.symm]

/-- The first to join forms the group, unless it is too large. -/
lemma join_first (worldSize : Nat) (h : n.roll? id = none) :
    n.join id worldSize = (.tooLarge, n) ∨
      (n.join id worldSize).1 = .joined ∧
        (n.join id worldSize).2.roll? id = some (worldSize, 1) := by
  have hnone : n.group? id = none := Option.map_eq_none_iff.1 h
  by_cases hformable : Formable worldSize
  · right
    have hfind : n.groups.find? (·.id = id) = none := hnone
    simp only [join, hnone, if_pos hformable, true_and]
    simp [roll?, group?, List.find?_append, hfind]
  · left
    simp only [join, hnone, if_neg hformable]

/-- Who waits for a group that all have joined is woken up. -/
lemma await_full (h : n.roll? id = some (size, joined)) (hfull : size ≤ joined) :
    answer (.await id) n = (true, n) := by
  obtain ⟨g, hg, rfl, rfl⟩ := exists_group h
  have hisFull : n.isFull id = true := by simp [isFull, hg, hfull]
  exact if_pos hisFull

/-- Who waits for a group in vain leaves it again. -/
lemma await_vain (h : n.roll? id = some (size, joined)) (hvain : joined < size) :
    (answer (.await id) n).1 = false ∧
      (answer (.await id) n).2.roll? id = some (size, joined - 1) := by
  obtain ⟨g, hg, rfl, rfl⟩ := exists_group h
  have hnotFull : ¬ n.isFull id = true := by simp [isFull, hg, hvain]
  have hanswer : answer (.await id) n =
      (false, n.modifyGroup id fun g => { g with joined := g.joined - 1 }) := if_neg hnotFull
  rw [hanswer]
  refine ⟨rfl, ?_⟩
  rw [roll?, group?_modifyGroup (fun g => { g with joined := g.joined - 1 }) (fun _ => rfl) hg]
  rfl

def Concerns (id : Bytes) : Net.Request → Prop
  | .join group _ => group = id
  | .await group => group = id
  | _ => False

/-- No other request changes size or count of the group. -/
lemma roll?_answer {request : Net.Request} (h : ¬ Concerns id request) :
    (answer request n).2.roll? id = n.roll? id := by
  cases request with
  | join group worldSize =>
    have hne : group ≠ id := h
    simp only [answer, join]
    cases hg : n.group? group with
    | none =>
      by_cases hformable : Formable worldSize
      · simp [hformable, roll?, group?, List.find?_append, hne]
      · simp [hformable]
    | some g =>
      by_cases hsize : g.worldSize = worldSize
      · simp only [hsize, if_true]
        exact roll?_modifyGroup_other _ (fun _ => rfl) hne
      · simp [hsize]
  | await group =>
    have hne : group ≠ id := h
    simp only [answer]
    by_cases hfull : n.isFull group
    · simp [hfull]
    · simp only [hfull, Bool.false_eq_true, if_false]
      exact roll?_modifyGroup_other _ (fun _ => rfl) hne
  | post group letter => exact roll?_modifyGroup _ (fun _ => rfl) fun _ => rfl
  | take group source target =>
    simp only [answer]
    split
    · exact roll?_modifyGroup _ (fun _ => rfl) fun _ => rfl
    · rfl
  | freshId => rfl

end Network

/-- A call to connect, as far as it has come. -/
abbrev Attempt := Program Net (Outcome ExchangeError SimulatedLink × HostState)

namespace Attempt

/-- Whether the attempt waits for the others or has connected. -/
def isCounted (id : Bytes) : Attempt → Bool
  | .ask (.await group) _ => group = id
  | .done (.ok _, _) => true
  | _ => false

/-- The attempt ended with a link. -/
def Connected (p : Attempt) : Prop := ∃ l q, p = .done (.ok l, q)

/-- The attempt ended since not all others came in time. -/
def TimedOut (p : Attempt) : Prop := ∃ t q, p = .done (.error (.rendezvousTimeout t), q)

/-- The attempt ended without a link. -/
def Failed (p : Attempt) : Prop := ∃ o q, p = .done (o, q) ∧ o.isOk = false

/-- What follows the wait for the others: a link if they came, a time-out if not. -/
structure AwaitsOthers (next : Bool → Attempt) : Prop where
  woken : (next true).Connected
  late : (next false).TimedOut

/-- What follows the request to join: the wait, unless it is refused. -/
structure AwaitsEntry (id : Bytes) (worldSize : Nat) (q : HostState)
    (next : JoinAnswer → Attempt) : Prop where
  joined : ∃ rest, next .joined = .ask (.await id) rest ∧ AwaitsOthers rest
  otherSize : ∀ formed,
    next (.otherSize formed) = .done (.error (.rendezvous (.otherSize formed worldSize)), q)
  tooLarge : ∃ w, next .tooLarge = .done (.fault w, q)

/-- How far an attempt of a rank can have come. -/
inductive Stage (id : Bytes) (worldSize rank : Nat) : Attempt → Prop where
  | begun {q : HostState} {next : JoinAnswer → Attempt} (hrank : rank < worldSize)
      (h : AwaitsEntry id worldSize q next) :
      Stage id worldSize rank (.ask (.join id worldSize) next)
  | waiting {next : Bool → Attempt} (hrank : rank < worldSize) (h : AwaitsOthers next) :
      Stage id worldSize rank (.ask (.await id) next)
  | connected {l : SimulatedLink} {q : HostState} (hrank : rank < worldSize) :
      Stage id worldSize rank (.done (.ok l, q))
  | timedOut {t : Nat} {q : HostState} (hrank : rank < worldSize) :
      Stage id worldSize rank (.done (.error (.rendezvousTimeout t), q))
  | refused {o : Outcome ExchangeError SimulatedLink} {q : HostState} (h : o.isOk = false)
      (hcause : ∀ t, o ≠ .error (.rendezvousTimeout t)) : Stage id worldSize rank (.done (o, q))

variable {id : Bytes} {worldSize rank : Nat} {p : Attempt}

lemma Connected.counted (h : p.Connected) : p.isCounted id = true := by
  obtain ⟨l, q, rfl⟩ := h
  rfl

lemma TimedOut.not_counted (h : p.TimedOut) : p.isCounted id = false := by
  obtain ⟨t, q, rfl⟩ := h
  rfl

lemma Failed.not_counted (h : p.Failed) : p.isCounted id = false := by
  obtain ⟨o, q, rfl, ho⟩ := h
  cases o with
  | ok l => cases ho
  | error e => rfl
  | fault w => rfl

/-- Only ranks of the group wait for it. -/
lemma Stage.rank_lt (h : p.Stage id worldSize rank) (hin : p.isCounted id = true ∨ p.TimedOut) :
    rank < worldSize := by
  cases h with
  | begun hrank _ => exact hrank
  | waiting hrank _ => exact hrank
  | connected hrank => exact hrank
  | timedOut hrank => exact hrank
  | refused ho hcause =>
    rcases hin with hcounted | ⟨t, q, h⟩
    · rw [Failed.not_counted ⟨_, _, rfl, ho⟩] at hcounted
      cases hcounted
    · cases h
      exact absurd rfl (hcause t)

end Attempt

open SimulatedLink (connect)

/-- A call to connect asks to join, or is refused at once. -/
lemma connect_begins (patience : Nat) (id : Bytes) (worldSize rank device timeout : Nat)
    (q : HostState) :
    (rank < worldSize ∧ ∃ next, Attempt.AwaitsEntry id worldSize q next ∧
      connect patience id worldSize rank device timeout q = .ask (.join id worldSize) next) ∨
    connect patience id worldSize rank device timeout q =
      .done (.error (.invalidRank rank worldSize), q) := by
  by_cases hrank : rank < worldSize
  · left
    have hvalid : (Act.ensure (rank < worldSize) (.invalidRank rank worldSize) :
        Act Net HostState ExchangeError Unit) = pure () := if_pos hrank
    rw [connect, hvalid]
    exact ⟨hrank, _, ⟨⟨_, rfl, ⟨_, _, rfl⟩, ⟨_, _, rfl⟩⟩, fun _ => rfl, ⟨_, rfl⟩⟩, rfl⟩
  · right
    have hinvalid : (Act.ensure (rank < worldSize) (.invalidRank rank worldSize) :
        Act Net HostState ExchangeError Unit) = Act.fail (.invalidRank rank worldSize) :=
      if_neg hrank
    rw [connect, hinvalid]
    rfl

lemma stage_connect (patience : Nat) (id : Bytes) (worldSize rank device timeout : Nat)
    (q : HostState) : Attempt.Stage id worldSize rank
      (connect patience id worldSize rank device timeout q) := by
  rcases connect_begins patience id worldSize rank device timeout q with
    ⟨hrank, next, hnext, hconnect⟩ | hconnect
  · rw [hconnect]
    exact .begun hrank hnext
  · rw [hconnect]
    exact .refused rfl fun t h => by cases h

lemma not_counted_connect (patience : Nat) (id : Bytes) (worldSize rank device timeout : Nat)
    (q : HostState) :
    Attempt.isCounted id (connect patience id worldSize rank device timeout q) = false := by
  rcases connect_begins patience id worldSize rank device timeout q with
    ⟨-, next, -, hconnect⟩ | hconnect
  · rw [hconnect]
    rfl
  · rw [hconnect]
    rfl

lemma not_timedOut_connect (patience : Nat) (id : Bytes) (worldSize rank device timeout : Nat)
    (q : HostState) :
    ¬ Attempt.TimedOut (connect patience id worldSize rank device timeout q) := by
  rintro ⟨t, q', h⟩
  rcases connect_begins patience id worldSize rank device timeout q with
    ⟨-, next, -, hconnect⟩ | hconnect
  · cases hconnect.symm.trans h
  · cases hconnect.symm.trans h

/-- The network, and the last attempt of each rank of each world size under one id. -/
structure Assembly where
  network : Network
  /-- By world size and rank. -/
  attempt : Nat × Nat → Option Attempt

namespace Assembly

def unattended (n : Network) : Assembly := ⟨n, fun _ => none⟩

def update (s : Assembly) (n : Network) (rank : Nat × Nat) (p : Attempt) : Assembly :=
  ⟨n, Function.update s.attempt rank (some p)⟩

/-- The attempt of a rank gets the answer that it waits for. -/
def advance? (s : Assembly) (rank : Nat × Nat) : Option Assembly :=
  match s.attempt rank with
  | some (.ask request next) =>
    let answer := Network.answer request s.network
    some (s.update answer.2 rank (next answer.1))
  | _ => none

/-- A rank may begin an attempt unless one is under way or has connected. -/
def Free (s : Assembly) (rank : Nat × Nat) : Prop := ∀ p, s.attempt rank = some p → p.Failed

/-- One rank begins an attempt, or gets an answer; or the network does something else. -/
inductive Step (id : Bytes) : Assembly → Assembly → Prop where
  | begin (s : Assembly) (patience worldSize rank device timeout : Nat) (q : HostState)
      (h : s.Free (worldSize, rank)) :
      Step id s (s.update s.network (worldSize, rank)
        (connect patience id worldSize rank device timeout q))
  | answered {s s' : Assembly} (rank : Nat × Nat) (h : s.advance? rank = some s') : Step id s s'
  | elsewhere (s : Assembly) (request : Net.Request) (h : ¬ Network.Concerns id request) :
      Step id s { s with network := (Network.answer request s.network).2 }

/-- Some sequence of steps leads from one assembly to the other. -/
abbrev Reaches (id : Bytes) : Assembly → Assembly → Prop := Relation.ReflTransGen (Step id)

/-- Whether a rank waits for the others or has connected. -/
def counts (id : Bytes) (s : Assembly) (rank : Nat × Nat) : Bool :=
  (s.attempt rank).any (Attempt.isCounted id)

/-- The ranks of a world size that wait for the others or have connected. -/
def counted (id : Bytes) (s : Assembly) (worldSize : Nat) : Finset Nat :=
  (Finset.range worldSize).filter fun rank => s.counts id (worldSize, rank)

/-- The rank has connected. -/
def Connected (s : Assembly) (rank : Nat × Nat) : Prop := ∃ p, s.attempt rank = some p ∧ p.Connected

/-- The last attempt of the rank has timed out. -/
def TimedOut (s : Assembly) (rank : Nat × Nat) : Prop := ∃ p, s.attempt rank = some p ∧ p.TimedOut

variable {id : Bytes} {s s' : Assembly} {n : Network} {worldSize rank joined : Nat} {p : Attempt}

lemma attempt_update {key key' : Nat × Nat} {p' : Attempt}
    (h : (s.update n key p).attempt key' = some p') :
    key' = key ∧ p' = p ∨ key' ≠ key ∧ s.attempt key' = some p' := by
  by_cases hkey : key' = key
  · subst hkey
    simp only [update, Function.update_self, Option.some.injEq] at h
    exact .inl ⟨rfl, h.symm⟩
  · simp only [update, Function.update_of_ne hkey] at h
    exact .inr ⟨hkey, h⟩

lemma counts_update (key key' : Nat × Nat) :
    (s.update n key p).counts id key' =
      if key' = key then p.isCounted id else s.counts id key' := by
  by_cases hkey : key' = key
  · subst hkey
    simp [counts, update]
  · simp [counts, update, hkey]

/-- An attempt that goes on without being counted otherwise. -/
lemma counted_update_same {key : Nat × Nat} (h : p.isCounted id = s.counts id key)
    (worldSize : Nat) : (s.update n key p).counted id worldSize = s.counted id worldSize := by
  ext rank
  simp only [counted, Finset.mem_filter, counts_update]
  by_cases hkey : (worldSize, rank) = key
  · simp [hkey, h]
  · simp [hkey]

/-- An attempt is counted from now on. -/
lemma card_counted_enter (hrank : rank < worldSize)
    (hbefore : s.counts id (worldSize, rank) = false) (hafter : p.isCounted id = true) :
    ((s.update n (worldSize, rank) p).counted id worldSize).card =
      (s.counted id worldSize).card + 1 := by
  have hnew : (s.update n (worldSize, rank) p).counted id worldSize =
      insert rank (s.counted id worldSize) := by
    ext rank'
    simp only [counted, Finset.mem_filter, Finset.mem_insert, Finset.mem_range, counts_update]
    by_cases hkey : rank' = rank
    · simp [hkey, hrank, hafter]
    · simp [hkey]
  have hfresh : rank ∉ s.counted id worldSize := by simp [counted, hbefore]
  rw [hnew, Finset.card_insert_of_notMem hfresh]

/-- An attempt is not counted any longer. -/
lemma card_counted_leave (hrank : rank < worldSize) (hbefore : s.counts id (worldSize, rank) = true)
    (hafter : p.isCounted id = false) :
    ((s.update n (worldSize, rank) p).counted id worldSize).card + 1 =
      (s.counted id worldSize).card := by
  have hnew : (s.update n (worldSize, rank) p).counted id worldSize =
      (s.counted id worldSize).erase rank := by
    ext rank'
    simp only [counted, Finset.mem_filter, Finset.mem_erase, Finset.mem_range, counts_update]
    by_cases hkey : rank' = rank
    · simp [hkey, hafter]
    · simp [hkey]
  have hmem : rank ∈ s.counted id worldSize := by simp [counted, hrank, hbefore]
  rw [hnew, Finset.card_erase_add_one hmem]

/-- The network counts the ranks that wait or have connected, all of one world size. -/
structure Tallied (id : Bytes) (s : Assembly) : Prop where
  stage : ∀ worldSize rank p, s.attempt (worldSize, rank) = some p →
    p.Stage id worldSize rank
  count : ∀ worldSize joined, s.network.roll? id = some (worldSize, joined) →
    joined = (s.counted id worldSize).card
  /-- Whoever has ever been counted has the world size of the group. -/
  size : ∀ worldSize rank p, s.attempt (worldSize, rank) = some p →
    p.isCounted id = true ∨ p.TimedOut → ∃ joined, s.network.roll? id = some (worldSize, joined)
  /-- Nobody has connected before all ranks are counted. -/
  full : ∀ worldSize rank p, s.attempt (worldSize, rank) = some p → p.Connected →
    ∃ joined, s.network.roll? id = some (worldSize, joined) ∧ worldSize ≤ joined

lemma tallied_unattended (h : n.group? id = none) : (unattended n).Tallied id where
  stage _ _ _ hp := nomatch hp
  count _ _ hroll := by
    rw [Network.roll?, unattended, h] at hroll
    cases hroll
  size _ _ _ hp := nomatch hp
  full _ _ _ hp := nomatch hp

/-- The attempt of one rank goes on, and the network with it. -/
lemma Tallied.update (h : s.Tallied id) (hstage : p.Stage id worldSize rank)
    (hcount : ∀ size joined, n.roll? id = some (size, joined) →
      joined = ((s.update n (worldSize, rank) p).counted id size).card)
    (hkeep : ∀ size joined, s.network.roll? id = some (size, joined) →
      ∃ joined', n.roll? id = some (size, joined') ∧ (size ≤ joined → size ≤ joined'))
    (hsize : p.isCounted id = true ∨ p.TimedOut → ∃ joined, n.roll? id = some (worldSize, joined))
    (hfull : p.Connected → ∃ joined, n.roll? id = some (worldSize, joined) ∧ worldSize ≤ joined) :
    (s.update n (worldSize, rank) p).Tallied id where
  stage size' rank' p' hp' := by
    rcases attempt_update hp' with ⟨hkey, rfl⟩ | ⟨-, hp'⟩
    · cases hkey
      exact hstage
    · exact h.stage _ _ _ hp'
  count := hcount
  size size' rank' p' hp' hin := by
    rcases attempt_update hp' with ⟨hkey, rfl⟩ | ⟨-, hp'⟩
    · cases hkey
      exact hsize hin
    · obtain ⟨joined, hroll⟩ := h.size _ _ _ hp' hin
      obtain ⟨joined', hroll', -⟩ := hkeep _ _ hroll
      exact ⟨joined', hroll'⟩
  full size' rank' p' hp' hconnected := by
    rcases attempt_update hp' with ⟨hkey, rfl⟩ | ⟨-, hp'⟩
    · cases hkey
      exact hfull hconnected
    · obtain ⟨joined, hroll, hle⟩ := h.full _ _ _ hp' hconnected
      obtain ⟨joined', hroll', hstays⟩ := hkeep _ _ hroll
      exact ⟨joined', hroll', hstays hle⟩

/-- The attempt of one rank goes on, is counted as before, and the count stays. -/
lemma Tallied.update_same (h : s.Tallied id) (hstage : p.Stage id worldSize rank)
    (hroll : n.roll? id = s.network.roll? id)
    (hsame : p.isCounted id = s.counts id (worldSize, rank)) (hlate : ¬ p.TimedOut)
    (hfull : p.Connected → ∃ joined, n.roll? id = some (worldSize, joined) ∧ worldSize ≤ joined) :
    (s.update n (worldSize, rank) p).Tallied id := by
  apply h.update hstage
  · intro size joined hnow
    rw [counted_update_same hsame]
    exact h.count size joined (hroll ▸ hnow)
  · intro size joined hbefore
    exact ⟨joined, hroll.trans hbefore, fun hle => hle⟩
  · rintro (hcounted | hlate')
    · rw [hsame, counts, Option.any_eq_true] at hcounted
      obtain ⟨p', hp', hcounted⟩ := hcounted
      rw [hroll]
      exact h.size _ _ _ hp' (.inl hcounted)
    · exact absurd hlate' hlate
  · exact hfull

/-- A rank that was not counted is refused, and the network stays as it is. -/
lemma Tallied.refuse (h : s.Tallied id) {o : Outcome ExchangeError SimulatedLink} {q : HostState}
    (ho : o.isOk = false) (hcause : ∀ t, o ≠ .error (.rendezvousTimeout t))
    (hbefore : s.counts id (worldSize, rank) = false) :
    (s.update s.network (worldSize, rank) (.done (o, q))).Tallied id := by
  have hout : Attempt.isCounted id (.done (o, q)) = false :=
    Attempt.Failed.not_counted ⟨o, q, rfl, ho⟩
  apply h.update_same (.refused ho hcause) rfl (hout.trans hbefore.symm)
  · rintro ⟨t, q', hlate⟩
    cases hlate
    exact hcause t rfl
  · rintro ⟨l, q', hconnected⟩
    cases hconnected
    cases ho

/-- Nobody is counted before there is a group. -/
lemma Tallied.counted_eq_empty (h : s.Tallied id) (hroll : s.network.roll? id = none) :
    s.counted id worldSize = ∅ := by
  apply Finset.filter_false_of_mem
  intro rank _ hcounts
  obtain ⟨p, hp, hcounted⟩ := (Option.any_eq_true _ _).1 hcounts
  obtain ⟨joined, hsome⟩ := h.size _ _ _ hp (.inl hcounted)
  cases hroll.symm.trans hsome

/-- A rank that was not counted waits from now on, and the network counts one more. -/
lemma Tallied.enter (h : s.Tallied id) {rest : Bool → Attempt} (hrank : rank < worldSize)
    (hrest : Attempt.AwaitsOthers rest) (hbefore : s.counts id (worldSize, rank) = false)
    (hcard : joined = (s.counted id worldSize).card)
    (hold : ∀ size joined', s.network.roll? id = some (size, joined') →
      size = worldSize ∧ joined' = joined)
    (hnow : n.roll? id = some (worldSize, joined + 1)) :
    (s.update n (worldSize, rank) (.ask (.await id) rest)).Tallied id := by
  have hin : Attempt.isCounted id (.ask (.await id) rest) = true := decide_eq_true rfl
  apply h.update (.waiting hrank hrest)
  · intro size joined' hroll
    cases hnow.symm.trans hroll
    rw [card_counted_enter hrank hbefore hin, hcard]
  · intro size joined' hroll
    obtain ⟨rfl, rfl⟩ := hold size joined' hroll
    exact ⟨joined' + 1, hnow, fun hle => Nat.le_succ_of_le hle⟩
  · intro _
    exact ⟨joined + 1, hnow⟩
  · rintro ⟨l, q, hp⟩
    cases hp

/-- A rank that asks to join is counted, or is refused and nothing changes. -/
lemma Tallied.join (h : s.Tallied id) {q : HostState} {next : JoinAnswer → Attempt}
    (hrank : rank < worldSize) (hnext : Attempt.AwaitsEntry id worldSize q next)
    (hp : s.attempt (worldSize, rank) = some (.ask (.join id worldSize) next)) :
    (s.update (s.network.join id worldSize).2 (worldSize, rank)
      (next (s.network.join id worldSize).1)).Tallied id := by
  have hbefore : s.counts id (worldSize, rank) = false := by
    rw [counts, hp]
    rfl
  obtain ⟨rest, hjoined, hrest⟩ := hnext.joined
  cases hroll : s.network.roll? id with
  | none =>
    have hnobody : 0 = (s.counted id worldSize).card := by
      rw [h.counted_eq_empty hroll, Finset.card_empty]
    rcases Network.join_first worldSize hroll with hlarge | ⟨hanswer, hnow⟩
    · obtain ⟨w, hfault⟩ := hnext.tooLarge
      rw [hlarge, hfault]
      exact h.refuse rfl (fun t ht => by cases ht) hbefore
    · rw [hanswer, hjoined]
      apply h.enter hrank hrest hbefore hnobody ?_ hnow
      intro size joined hsome
      cases hroll.symm.trans hsome
  | some roll =>
    obtain ⟨size, joined⟩ := roll
    by_cases hsize : worldSize = size
    · subst hsize
      obtain ⟨hanswer, hnow⟩ := Network.join_same_size hroll
      rw [hanswer, hjoined]
      apply h.enter hrank hrest hbefore (h.count _ _ hroll) ?_ hnow
      intro size' joined' hsome
      cases hroll.symm.trans hsome
      exact ⟨rfl, rfl⟩
    · rw [Network.join_other_size hroll hsize, hnext.otherSize]
      exact h.refuse rfl (fun t ht => by cases ht) hbefore

/-- A rank that waits is woken up when all are counted, or is taken off the count. -/
lemma Tallied.await (h : s.Tallied id) {next : Bool → Attempt} (hrank : rank < worldSize)
    (hnext : Attempt.AwaitsOthers next)
    (hp : s.attempt (worldSize, rank) = some (.ask (.await id) next)) :
    (s.update (Network.answer (.await id) s.network).2 (worldSize, rank)
      (next (Network.answer (.await id) s.network).1)).Tallied id := by
  have hin : Attempt.isCounted id (.ask (.await id) next) = true := decide_eq_true rfl
  have hbefore : s.counts id (worldSize, rank) = true := by
    rw [counts, hp]
    exact hin
  obtain ⟨joined, hroll⟩ := h.size _ _ _ hp (.inl hin)
  by_cases hfull : worldSize ≤ joined
  · obtain ⟨l, q, hwoken⟩ := hnext.woken
    rw [Network.await_full hroll hfull, hwoken]
    apply h.update_same (.connected hrank) rfl hbefore.symm
    · rintro ⟨t, q', hlate⟩
      cases hlate
    · intro _
      exact ⟨joined, hroll, hfull⟩
  · obtain ⟨hanswer, hnow⟩ := Network.await_vain hroll (Nat.lt_of_not_le hfull)
    obtain ⟨t, q, hlate⟩ := hnext.late
    rw [hanswer, hlate]
    apply h.update (.timedOut hrank)
    · intro size joined' hroll'
      cases hnow.symm.trans hroll'
      have hcard := h.count _ _ hroll
      have hleave := card_counted_leave (n := (Network.answer (.await id) s.network).2) hrank
        hbefore (Attempt.TimedOut.not_counted (p := .done (.error (.rendezvousTimeout t), q))
          ⟨t, q, rfl⟩)
      omega
    · intro size joined' hroll'
      cases hroll.symm.trans hroll'
      exact ⟨joined - 1, hnow, fun hle => absurd hle hfull⟩
    · intro _
      exact ⟨joined - 1, hnow⟩
    · rintro ⟨l, q', hconnected⟩
      cases hconnected

lemma Tallied.step (h : s.Tallied id) (hstep : Step id s s') : s'.Tallied id := by
  cases hstep with
  | begin patience worldSize rank device timeout q hfree =>
    have hout := not_counted_connect patience id worldSize rank device timeout q
    have hbefore : s.counts id (worldSize, rank) = false := by
      rw [counts, Option.any_eq_false]
      intro p hp
      rw [(hfree p hp).not_counted]
    apply h.update_same (stage_connect patience id worldSize rank device timeout q) rfl
      (hout.trans hbefore.symm) (not_timedOut_connect patience id worldSize rank device timeout q)
    intro hconnected
    rw [hconnected.counted] at hout
    cases hout
  | answered rank hadvance =>
    obtain ⟨worldSize, rank⟩ := rank
    rw [advance?] at hadvance
    cases hp : s.attempt (worldSize, rank) with
    | none => simp [hp] at hadvance
    | some p =>
      cases h.stage _ _ _ hp with
      | begun hrank hnext =>
        simp only [hp, Option.some.injEq] at hadvance
        subst hadvance
        exact h.join hrank hnext hp
      | waiting hrank hnext =>
        simp only [hp, Option.some.injEq] at hadvance
        subst hadvance
        exact h.await hrank hnext hp
      | connected _ => simp [hp] at hadvance
      | timedOut _ => simp [hp] at hadvance
      | refused _ _ => simp [hp] at hadvance
  | elsewhere request hother =>
    have hroll := Network.roll?_answer (n := s.network) hother
    constructor
    · exact h.stage
    · intro worldSize joined hnow
      exact h.count worldSize joined (hroll ▸ hnow)
    · intro worldSize rank p hp hin
      rw [hroll]
      exact h.size worldSize rank p hp hin
    · intro worldSize rank p hp hconnected
      rw [hroll]
      exact h.full worldSize rank p hp hconnected

lemma Tallied.reaches (h : s.Tallied id) (hreaches : Reaches id s s') : s'.Tallied id := by
  induction hreaches with
  | refl => exact h
  | tail _ hstep ih => exact ih.step hstep

/-- Who has connected stays connected. -/
lemma Connected.step {key : Nat × Nat} (h : s.Connected key) (hstep : Step id s s') :
    s'.Connected key := by
  obtain ⟨p, hp, hconnected⟩ := h
  have hother : ∀ n key' p', key' ≠ key → (s.update n key' p').Connected key := by
    intro n key' p' hne
    exact ⟨p, (Function.update_of_ne hne.symm _ _).trans hp, hconnected⟩
  cases hstep with
  | begin patience worldSize rank device timeout q hfree =>
    apply hother
    rintro rfl
    have hout : p.isCounted id = false := (hfree p hp).not_counted
    rw [hconnected.counted] at hout
    cases hout
  | answered key' hadvance =>
    have hne : key' ≠ key := by
      rintro rfl
      obtain ⟨l, q, rfl⟩ := hconnected
      simp [advance?, hp] at hadvance
    rw [advance?] at hadvance
    split at hadvance
    · cases hadvance
      exact hother _ _ _ hne
    · cases hadvance
  | elsewhere request _ => exact ⟨p, hp, hconnected⟩

lemma Connected.reaches {key : Nat × Nat} (h : s.Connected key) (hreaches : Reaches id s s') :
    s'.Connected key := by
  induction hreaches with
  | refl => exact h
  | tail _ hstep ih => exact ih.step hstep

/-- When a rank has connected, all ranks of its world size are counted. -/
lemma Tallied.all_counted (h : s.Tallied id) (hconnected : s.Connected (worldSize, rank)) :
    ∀ other < worldSize, s.counts id (worldSize, other) = true := by
  obtain ⟨p, hp, hconnected⟩ := hconnected
  obtain ⟨joined, hroll, hle⟩ := h.full _ _ _ hp hconnected
  rw [h.count _ _ hroll] at hle
  have hall : s.counted id worldSize = Finset.range worldSize := by
    apply Finset.eq_of_subset_of_card_le (Finset.filter_subset _ _)
    rw [Finset.card_range]
    exact hle
  intro other hother
  have hmem : other ∈ s.counted id worldSize := by
    rw [hall]
    exact Finset.mem_range.2 hother
  exact (Finset.mem_filter.1 hmem).2

/-- When a rank has connected, no attempt has timed out. -/
lemma Tallied.nobody_late (h : s.Tallied id) (hconnected : s.Connected (worldSize, rank))
    (key : Nat × Nat) : ¬ s.TimedOut key := by
  obtain ⟨size, other⟩ := key
  rintro ⟨p, hp, hlate⟩
  obtain ⟨joined, hroll⟩ := h.size _ _ _ hp (.inr hlate)
  obtain ⟨p', hp', hconnected'⟩ := hconnected
  obtain ⟨joined', hroll', -⟩ := h.full _ _ _ hp' hconnected'
  cases hroll.symm.trans hroll'
  have hrank := (h.stage _ _ _ hp).rank_lt (.inr hlate)
  have hcounts := h.all_counted ⟨p', hp', hconnected'⟩ other hrank
  rw [counts, hp] at hcounts
  cases hlate.not_counted.symm.trans hcounts

/-- An attempt of another world size is refused, and the network stays as it is. -/
lemma Tallied.other_size (h : s.Tallied id) {size : Nat} {request : Net.Request}
    {next : Net.Answer request → Attempt} (hroll : s.network.roll? id = some (size, joined))
    (hne : worldSize ≠ size) (hp : s.attempt (worldSize, rank) = some (.ask request next)) :
    ∃ q, s.advance? (worldSize, rank) = some (s.update s.network (worldSize, rank)
      (.done (.error (.rendezvous (.otherSize size worldSize)), q))) := by
  cases h.stage _ _ _ hp with
  | @begun q next hrank hnext =>
    refine ⟨q, ?_⟩
    rw [advance?, hp]
    simp only [Network.answer, Network.join_other_size hroll hne, hnext.otherSize]
  | waiting hrank hnext =>
    obtain ⟨joined', hroll'⟩ := h.size _ _ _ hp (.inl (decide_eq_true rfl))
    cases hroll.symm.trans hroll'
    exact absurd rfl hne

/-- Forming a group is all or nothing, under any id that is new and in any order of what the ranks
do. The network counts the ranks that wait or have connected. When a rank connects, all ranks of its
world size are counted, and from then on none of them times out. Attempts of another world size than
the one of the group fail, and count for nothing. -/
theorem connect_all_or_nothing (hnew : n.group? id = none)
    (h : Reaches id (unattended n) s) :
    (∀ g, s.network.group? id = some g →
      g.joined = (s.counted id g.worldSize).card ∧ g.joined ≤ g.worldSize) ∧
    (∀ worldSize rank, s.counts id (worldSize, rank) = true →
      rank < worldSize ∧ ∃ g, s.network.group? id = some g ∧ g.worldSize = worldSize ∧
        0 < g.joined) ∧
    (∀ worldSize rank, s.Connected (worldSize, rank) →
      ∀ other < worldSize, s.counts id (worldSize, other) = true) ∧
    (∀ worldSize rank s', s.Connected (worldSize, rank) → Reaches id s s' →
      s'.Connected (worldSize, rank) ∧ ∀ key, ¬ s'.TimedOut key) ∧
    (∀ g worldSize rank request next, s.network.group? id = some g → worldSize ≠ g.worldSize →
      s.attempt (worldSize, rank) = some (.ask request next) →
      ∃ q, s.advance? (worldSize, rank) = some (s.update s.network (worldSize, rank)
        (.done (.error (.rendezvous (.otherSize g.worldSize worldSize)), q)))) := by
  have htallied : s.Tallied id := (tallied_unattended hnew).reaches h
  have hroll : ∀ g, s.network.group? id = some g →
      s.network.roll? id = some (g.worldSize, g.joined) := by
    intro g hg
    rw [Network.roll?, hg]
    rfl
  refine ⟨?_, ?_, fun _ _ => htallied.all_counted, ?_, ?_⟩
  · intro g hg
    have hcard := htallied.count _ _ (hroll g hg)
    have hle : (s.counted id g.worldSize).card ≤ (Finset.range g.worldSize).card :=
      Finset.card_filter_le _ _
    rw [Finset.card_range] at hle
    exact ⟨hcard, hcard ▸ hle⟩
  · intro worldSize rank hcounts
    obtain ⟨p, hp, hin⟩ := (Option.any_eq_true _ _).1 hcounts
    have hrank := (htallied.stage _ _ _ hp).rank_lt (.inl hin)
    obtain ⟨joined, hsome⟩ := htallied.size _ _ _ hp (.inl hin)
    obtain ⟨g, hg, hsize, hjoined⟩ := Network.exists_group hsome
    refine ⟨hrank, g, hg, hsize, ?_⟩
    rw [hjoined, htallied.count _ _ hsome, Finset.card_pos]
    exact ⟨rank, Finset.mem_filter.2 ⟨Finset.mem_range.2 hrank, hcounts⟩⟩
  · intro worldSize rank s' hconnected hreaches
    have hstays := hconnected.reaches hreaches
    exact ⟨hstays, (htallied.reaches hreaches).nobody_late hstays⟩
  · intro g worldSize rank request next hg hne hp
    exact htallied.other_size (hroll g hg) hne hp

/-- Two ranks under a new id: the first gives up and tries again, the second is woken up; an attempt
of another world size is under way. -/
theorem connect_all_or_nothing_after_retry :
    Network.empty.group? [] = none ∧ ∃ s, Reaches [] (unattended .empty) s ∧
      s.Connected (2, 1) ∧ s.network.group? [] = some ⟨[], 2, 2, []⟩ ∧
      2 = (s.counted [] 2).card ∧ s.counts [] (2, 0) = true ∧ (∀ key, ¬ s.TimedOut key) ∧
      ∃ q, s.advance? (3, 0) = some (s.update s.network (3, 0)
        (.done (.error (.rendezvous (.otherSize 2 3)), q))) := by
  have hnew : Network.empty.group? [] = none := rfl
  have begun : ∀ {s}, Reaches [] (unattended .empty) s → ∀ worldSize rank,
      s.Free (worldSize, rank) → Reaches [] (unattended .empty) (s.update s.network (worldSize, rank)
        (connect 0 [] worldSize rank 0 5 ⟨[], [], [], []⟩)) :=
    fun h worldSize rank hfree => h.tail (.begin _ 0 worldSize rank 0 5 ⟨[], [], [], []⟩ hfree)
  have answered : ∀ {s}, Reaches [] (unattended .empty) s → ∀ rank
      (hgo : (s.advance? rank).isSome), Reaches [] (unattended .empty) ((s.advance? rank).get hgo) :=
    fun h rank hgo => h.tail (.answered rank (Option.some_get hgo).symm)
  have first := answered (answered (begun .refl 2 0 (by rintro p ⟨⟩)) (2, 0) rfl) (2, 0) rfl
  have second := answered (begun first 2 1 (by rintro p ⟨⟩)) (2, 1) rfl
  have again := answered
    (begun second 2 0 fun p hp => ⟨_, _, (Option.some.inj hp).symm, rfl⟩) (2, 0) rfl
  obtain ⟨s, hs, hconnected, hgroup, request, next, hasks⟩ :
      ∃ s, Reaches [] (unattended .empty) s ∧ s.Connected (2, 1) ∧
        s.network.group? [] = some ⟨[], 2, 2, []⟩ ∧
        ∃ request next, s.attempt (3, 0) = some (.ask request next) :=
    ⟨_, begun (answered again (2, 1) rfl) 3 0 (by rintro p ⟨⟩), ⟨_, rfl, _, _, rfl⟩, rfl, _, _, rfl⟩
  obtain ⟨hcount, -, hall, hlate, hother⟩ := connect_all_or_nothing hnew hs
  exact ⟨hnew, s, hs, hconnected, hgroup, (hcount _ hgroup).1, hall 2 1 hconnected 0 (by decide),
    (hlate 2 1 s hconnected .refl).2, hother _ 3 0 request next hgroup (by decide) hasks⟩

end Assembly

end ExpertExchange
