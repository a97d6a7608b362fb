import ExpertExchange.Group.Network
import Mathlib.Tactic.Lemma

/-!
# Mailboxes are queues

What posting and taking do to the messages between two ranks: a message goes to the end of one
mailbox, the oldest one leaves another, and every other mailbox stays as it is.
-/

namespace ExpertExchange

namespace NetworkGroup

lemma mailbox_post (g : NetworkGroup) (l : Letter) (p q : Nat) :
    (g.post l).mailbox p q =
      g.mailbox p q ++ if l.source = p ∧ l.target = q then [l.payload] else [] := by
  simp only [post, mailbox, List.filterMap_append, List.filterMap_cons, List.filterMap_nil]
  split <;> simp_all

/-- The oldest message between two ranks leaves, and no other message moves. -/
lemma takeFrom_of_mailbox {p q : Nat} {b : Bytes} {rest : List Bytes} {g : NetworkGroup}
    (h : g.mailbox p q = b :: rest) :
    ∃ ls, takeFrom p q g.letters = some (b, ls) ∧
      ({ g with letters := ls } : NetworkGroup).mailbox p q = rest ∧
      ∀ p' q', ¬ (p' = p ∧ q' = q) →
        ({ g with letters := ls } : NetworkGroup).mailbox p' q' = g.mailbox p' q' := by
  obtain ⟨id, size, joined, letters⟩ := g
  simp only [mailbox] at h ⊢
  induction letters with
  | nil => simp at h
  | cons l ls ih =>
    by_cases hl : l.source = p ∧ l.target = q
    · simp only [List.filterMap_cons, hl, and_self, if_true, List.cons.injEq] at h
      refine ⟨ls, by simp [takeFrom, hl, h.1], h.2, fun p' q' hne => ?_⟩
      have : ¬ (l.source = p' ∧ l.target = q') := by
        rintro ⟨rfl, rfl⟩
        exact hne hl
      simp only [List.filterMap_cons, this, if_false]
    · simp only [List.filterMap_cons, hl, if_false] at h
      obtain ⟨ls', hls, hbox, hframe⟩ := ih h
      refine ⟨l :: ls', by simp [takeFrom, hl, hls], ?_, fun p' q' hne => ?_⟩
      · simpa only [List.filterMap_cons, hl, if_false] using hbox
      · simp only [List.filterMap_cons, hframe p' q' hne]

end NetworkGroup

namespace Network

variable {n : Network} {id : Bytes}

def Formed (n : Network) (id : Bytes) : Prop := ∃ g, n.group? id = some g

lemma group?_modifyGroup_map {other : Bytes} (f : NetworkGroup → NetworkGroup)
    (hf : ∀ g, (f g).id = g.id) :
    (n.modifyGroup other f).group? id =
      (n.group? id).map fun g => if g.id = other then f g else g := by
  have hkey : ((fun g : NetworkGroup => decide (g.id = id)) ∘
      fun g => if g.id = other then f g else g) = fun g => decide (g.id = id) := by
    funext g
    by_cases h : g.id = other <;> simp [h, hf]
  rw [group?, modifyGroup, List.find?_map, hkey, group?]

lemma group?_modifyGroup {g : NetworkGroup} (f : NetworkGroup → NetworkGroup)
    (hf : ∀ g, (f g).id = g.id) (hg : n.group? id = some g) :
    (n.modifyGroup id f).group? id = some (f g) := by
  have hid : g.id = id := by simpa using List.find?_some hg
  rw [group?_modifyGroup_map f hf, hg, Option.map_some, if_pos hid]

/-- All messages between the ranks of a group have been taken. -/
def Quiet (n : Network) (id : Bytes) : Prop := ∀ p q, n.mailbox id p q = []

/-- A group that all have joined and nobody has posted to yet. -/
def assembled (id : Bytes) (worldSize : Nat) : Network := ⟨[⟨id, worldSize, worldSize, []⟩], 0⟩

lemma group?_assembled (id : Bytes) (worldSize : Nat) :
    (assembled id worldSize).group? id = some ⟨id, worldSize, worldSize, []⟩ := by
  simp [assembled, group?]

lemma formed_assembled (id : Bytes) (worldSize : Nat) : (assembled id worldSize).Formed id :=
  ⟨_, group?_assembled id worldSize⟩

lemma quiet_assembled (id : Bytes) (worldSize : Nat) : (assembled id worldSize).Quiet id := by
  intro p q
  rw [mailbox, group?_assembled]
  rfl

lemma formed_post (l : Letter) (h : n.Formed id) :
    (answer (.post id l) n).2.Formed id := by
  obtain ⟨g, hg⟩ := h
  exact ⟨g.post l, group?_modifyGroup (·.post l) (fun _ => rfl) hg⟩

lemma mailbox_post (l : Letter) (h : n.Formed id) (p q : Nat) :
    (answer (.post id l) n).2.mailbox id p q =
      n.mailbox id p q ++ if l.source = p ∧ l.target = q then [l.payload] else [] := by
  obtain ⟨g, hg⟩ := h
  simp only [answer, mailbox, hg, group?_modifyGroup (·.post l) (fun _ => rfl) hg]
  exact g.mailbox_post l p q

lemma ready_take_iff {p q : Nat} :
    n.ready (.take id p q) = true ↔ n.mailbox id p q ≠ [] := by
  simp [ready]

/-- Taking from a mailbox that holds a message. -/
lemma answer_take {p q : Nat} {b : Bytes} {rest : List Bytes} (h : n.mailbox id p q = b :: rest) :
    (answer (.take id p q) n).1 = some b ∧ (answer (.take id p q) n).2.Formed id ∧
      (answer (.take id p q) n).2.mailbox id p q = rest ∧
      ∀ p' q', ¬ (p' = p ∧ q' = q) →
        (answer (.take id p q) n).2.mailbox id p' q' = n.mailbox id p' q' := by
  obtain ⟨g, hg⟩ : n.Formed id := by
    unfold mailbox at h
    split at h
    · exact ⟨_, ‹_›⟩
    · simp at h
  simp only [mailbox, hg] at h
  obtain ⟨ls, hls, hbox, hframe⟩ := NetworkGroup.takeFrom_of_mailbox h
  have hgroup : (n.modifyGroup id fun g => { g with letters := ls }).group? id =
      some { g with letters := ls } :=
    group?_modifyGroup (fun g => { g with letters := ls }) (fun _ => rfl) hg
  simp only [answer, hg, Option.bind_some, hls]
  refine ⟨rfl, ⟨_, hgroup⟩, ?_, fun p' q' hne => ?_⟩
  · simp only [mailbox, hgroup]
    exact hbox
  · simp only [mailbox, hgroup, hg]
    exact hframe p' q' hne

end Network

end ExpertExchange
