import ExpertExchange.Proofs.Group.Interleaving
import ExpertExchange.Proofs.Group.Mailbox
import ExpertExchange.Proofs.Group.Script
import Mathlib.Data.Finset.Max

/-!
# Matching rounds settle

Participants that go through matching rounds cannot disturb one another: whatever the order of
their posts and takes, nobody waits forever, everybody ends with the value of the straight line,
and every mailbox ends empty. The invariant says, of each mailbox, that its content is what the
receiver takes next, and that the sender has still to post all that the receiver takes after that,
with more phases to go at the post than at the take.
-/

namespace ExpertExchange

namespace Move

/-- Moves with a countdown: the number of phases after the phase of the move. A round is a phase
of posts and a phase of takes. -/
abbrev Timed := List (Nat × Move)

def timed : List Round → Timed
  | [] => []
  | R :: rest => R.posts.map (fun m => (2 * rest.length + 1, .post m.1 m.2)) ++
      R.takes.map (fun m => (2 * rest.length, .take m.1 m.2)) ++ timed rest

def payloads (peer : Nat) (messages : List (Nat × Bytes)) : List Bytes :=
  messages.filterMap fun m => if m.1 = peer then some m.2 else none

def sentTo (target : Nat) (ms : Timed) : List (Nat × Bytes) :=
  ms.filterMap fun
    | (k, .post q b) => if q = target then some (k, b) else none
    | _ => none

def takenFrom (source : Nat) (ms : Timed) : List (Nat × Bytes) :=
  ms.filterMap fun
    | (k, .take p b) => if p = source then some (k, b) else none
    | _ => none

/-- Countdowns do not go up. -/
def Ordered (ms : Timed) : Prop := ms.Pairwise fun x y => y.1 ≤ x.1

/-- A mailbox holds what is taken from it first; what is taken after that has still to be sent, and
is sent in an earlier phase than it is taken. -/
def Delivers (box : List Bytes) (sent taken : List (Nat × Bytes)) : Prop :=
  ∃ due later, taken = due ++ later ∧ due.map Prod.snd = box ∧
    List.Forall₂ (fun s t => s.2 = t.2 ∧ t.1 < s.1) sent later

lemma map_snd_timed (rounds : List Round) :
    (timed rounds).map Prod.snd = rounds.flatMap Round.moves := by
  induction rounds with
  | nil => rfl
  | cons R rest ih =>
    simp only [timed, List.map_append, List.map_map, ih, List.flatMap_cons, Round.moves]
    rfl

lemma countdown_lt {rounds : List Round} {x : Nat × Move} (h : x ∈ timed rounds) :
    x.1 < 2 * rounds.length := by
  induction rounds with
  | nil => simp [timed] at h
  | cons R rest ih =>
    simp only [timed, List.mem_append, List.mem_map, List.length_cons] at h ⊢
    obtain (⟨m, _, rfl⟩ | ⟨m, _, rfl⟩) | h := h
    · simp only
      omega
    · simp only
      omega
    · have := ih h
      omega

lemma ordered_timed (rounds : List Round) : Ordered (timed rounds) := by
  induction rounds with
  | nil => exact .nil
  | cons R rest ih =>
    refine List.pairwise_append.2 ⟨List.pairwise_append.2 ⟨?_, ?_, ?_⟩, ih, ?_⟩
    · exact List.pairwise_map.2 (List.pairwise_of_forall fun _ _ => Nat.le_refl _)
    · exact List.pairwise_map.2 (List.pairwise_of_forall fun _ _ => Nat.le_refl _)
    · intro x hx y hy
      obtain ⟨m, _, rfl⟩ := List.mem_map.1 hx
      obtain ⟨m', _, rfl⟩ := List.mem_map.1 hy
      exact Nat.le_succ _
    · intro x hx y hy
      have hlt := countdown_lt hy
      obtain hx | hx := List.mem_append.1 hx
      · obtain ⟨m, _, rfl⟩ := List.mem_map.1 hx
        simp only
        omega
      · obtain ⟨m, _, rfl⟩ := List.mem_map.1 hx
        simp only
        omega

variable {box : List Bytes} {sent taken : List (Nat × Bytes)} {k : Nat} {b : Bytes}

lemma delivers_nil : Delivers [] [] [] := ⟨[], [], rfl, rfl, .nil⟩

/-- A post puts at the end of the mailbox what is next to be sent. -/
lemma Delivers.post (h : Delivers box ((k, b) :: sent) taken) :
    Delivers (box ++ [b]) sent taken := by
  obtain ⟨due, later, rfl, rfl, hl⟩ := h
  cases hl with
  | cons hb hl =>
    refine ⟨due ++ [_], _, (List.append_cons _ _ _), ?_, hl⟩
    rw [List.map_append, List.map_singleton, ← hb.1]

/-- A take gets from the mailbox what it expects. -/
lemma Delivers.take {c : Bytes} (h : Delivers (c :: box) sent ((k, b) :: taken)) :
    c = b ∧ Delivers box sent taken := by
  obtain ⟨due, later, ht, hbox, hl⟩ := h
  cases due with
  | nil => simp at hbox
  | cons d due =>
    simp only [List.cons_append, List.cons.injEq] at ht
    simp only [List.map_cons, List.cons.injEq] at hbox
    obtain ⟨rfl, rfl⟩ := ht
    exact ⟨hbox.1.symm, due, later, rfl, hbox.2, hl⟩

/-- What is taken from an empty mailbox has still to be sent, in an earlier phase. -/
lemma Delivers.owed (h : Delivers [] sent ((k, b) :: taken)) :
    ∃ k' rest, sent = (k', b) :: rest ∧ k < k' := by
  obtain ⟨due, later, ht, hbox, hl⟩ := h
  obtain rfl := List.map_eq_nil_iff.1 hbox
  rw [List.nil_append] at ht
  subst ht
  cases hl with
  | cons hb _ =>
    obtain ⟨rfl, hk⟩ := hb
    exact ⟨_, _, rfl, hk⟩

lemma Delivers.box_eq_nil (h : Delivers box [] []) : box = [] := by
  obtain ⟨due, later, ht, rfl, _⟩ := h
  obtain ⟨rfl, rfl⟩ := List.append_eq_nil_iff.1 ht.symm
  rfl

/-- Every mailbox delivers what the moves of its two ranks say. -/
def Matched (box : Nat → Nat → List Bytes) (ms : Nat → Timed) : Prop :=
  ∀ p q, Delivers (box p q) (sentTo q (ms p)) (takenFrom p (ms q))

variable {boxes : Nat → Nat → List Bytes} {ms : Nat → Timed} {r s t : Nat} {rest : Timed}

lemma Matched.post (h : Matched boxes ms) (hr : ms r = (k, .post t b) :: rest) :
    Matched (fun p q => boxes p q ++ if r = p ∧ t = q then [b] else [])
      (Function.update ms r rest) := by
  intro p q
  have htaken : takenFrom p (Function.update ms r rest q) = takenFrom p (ms q) := by
    by_cases hq : q = r
    · subst hq
      simp [hr, takenFrom]
    · rw [Function.update_of_ne hq]
  have hold := h p q
  rw [htaken]
  by_cases hp : p = r
  · subst hp
    rw [hr] at hold
    rw [Function.update_self]
    by_cases ht : t = q
    · subst ht
      simp only [sentTo, List.filterMap_cons, if_true] at hold
      simpa [sentTo] using hold.post
    · simpa [sentTo, ht] using hold
  · rw [Function.update_of_ne hp]
    simpa [Ne.symm hp] using hold

lemma Matched.take {c : Bytes} (h : Matched boxes ms) (hr : ms r = (k, .take s b) :: rest)
    (hc : boxes s r = c :: box) :
    c = b ∧ Matched (fun p q => if p = s ∧ q = r then box else boxes p q)
      (Function.update ms r rest) := by
  have htaken : takenFrom s (ms r) = (k, b) :: takenFrom s rest := by simp [hr, takenFrom]
  have hhead := h s r
  rw [htaken, hc] at hhead
  obtain ⟨hcb, hnew⟩ := hhead.take
  refine ⟨hcb, fun p q => ?_⟩
  have hsent : sentTo q (Function.update ms r rest p) = sentTo q (ms p) := by
    by_cases hp : p = r
    · subst hp
      simp [hr, sentTo]
    · rw [Function.update_of_ne hp]
  rw [hsent]
  by_cases hq : q = r
  · subst hq
    rw [Function.update_self]
    by_cases hp : p = s
    · subst hp
      simpa using hnew
    · have hold := h p q
      simpa [hr, takenFrom, hp, Ne.symm hp] using hold
  · rw [Function.update_of_ne hq]
    simpa [hq] using h p q

/-- If any moves are left, then some first move is a post, or a take from a mailbox that holds a
message: the first move with the most phases to go. -/
lemma Matched.progress {W : Nat} (h : Matched boxes ms) (ordered : ∀ r, Ordered (ms r))
    (beyond : ∀ r, W ≤ r → ms r = []) (hne : ms r ≠ []) :
    ∃ r m k rest, ms r = (k, m) :: rest ∧ ∀ s b, m = .take s b → boxes s r ≠ [] := by
  let countdown : Nat → Nat := fun i => ((ms i).head?.map Prod.fst).getD 0
  have hfilter : ((Finset.range W).filter fun i => ms i ≠ []).Nonempty := by
    refine ⟨r, Finset.mem_filter.2 ⟨Finset.mem_range.2 ?_, hne⟩⟩
    by_contra hr
    exact hne (beyond r (by omega))
  obtain ⟨i, hi, hmax⟩ := Finset.exists_max_image _ countdown hfilter
  obtain ⟨⟨k, m⟩, rest, hms⟩ := List.exists_cons_of_ne_nil (Finset.mem_filter.1 hi).2
  refine ⟨i, m, k, rest, hms, ?_⟩
  rintro s b rfl hbox
  have hdelivers := h s i
  rw [hbox, hms] at hdelivers
  simp only [takenFrom, List.filterMap_cons, if_true] at hdelivers
  obtain ⟨k', later, hsent, hk⟩ := hdelivers.owed
  -- the sender has a move in an earlier phase, so its first move has more phases to go
  have hmem : (k', Move.post i b) ∈ ms s := by
    have : (k', b) ∈ sentTo i (ms s) := by simp [hsent]
    obtain ⟨⟨k'', m⟩, hm, hx⟩ := List.mem_filterMap.1 this
    cases m with
    | post q c =>
      by_cases hq : q = i
      · simp only [hq, if_true, Option.some.injEq, Prod.mk.injEq] at hx
        obtain ⟨rfl, rfl⟩ := hx
        exact hq ▸ hm
      · simp [hq] at hx
    | take => simp at hx
  have hs : ms s ≠ [] := List.ne_nil_of_mem hmem
  have hsW : s < W := by
    by_contra hc
    exact hs (beyond s (by omega))
  have hle := hmax s (Finset.mem_filter.2 ⟨Finset.mem_range.2 hsW, hs⟩)
  obtain ⟨⟨k₀, m₀⟩, rest₀, hms₀⟩ := List.exists_cons_of_ne_nil hs
  have hfirst : k' ≤ k₀ := by
    have hordered : Ordered ((k₀, m₀) :: rest₀) := hms₀ ▸ ordered s
    rw [hms₀] at hmem
    obtain hmem | hmem := List.mem_cons.1 hmem
    · exact Nat.le_of_eq (congrArg Prod.fst hmem)
    · exact (List.pairwise_cons.1 hordered).1 _ hmem
  simp only [countdown, hms, hms₀, List.head?_cons, Option.map_some, Option.getD_some] at hle
  omega

end Move

namespace Crowd

open Move

variable {ρ : Type} {g : Bytes} {W : Nat} {v : Nat → ρ}

/-- Every participant follows its moves to its value, and the mailboxes match the moves. -/
structure OnScript (g : Bytes) (W : Nat) (v : Nat → ρ) (ms : Nat → Timed) (c : Crowd ρ) : Prop where
  count : c.programs.length = W
  formed : c.network.Formed g
  follows : ∀ (r : Nat) (p : Program Net ρ), c.programs[r]? = some p →
    Program.Follows g r p ((ms r).map Prod.snd) (v r)
  beyond : ∀ r, W ≤ r → ms r = []
  ordered : ∀ r, Ordered (ms r)
  matched : Matched (c.network.mailbox g) ms

variable {ms : Nat → Timed} {c d : Crowd ρ}

lemma getElem?_replace {α : Type} (before after : List α) (x y : α) (i : Nat) :
    (before ++ y :: after)[i]? =
      if i = before.length then some y else (before ++ x :: after)[i]? := by
  have hset : before ++ y :: after = (before ++ x :: after).set before.length y := by simp
  rw [hset, List.getElem?_set]
  by_cases h : before.length = i
  · subst h
    simp
  · simp [h, Ne.symm h]

/-- What one participant does leaves the others where they are. -/
lemma OnScript.replace {before after : List (Program Net ρ)} {x y : Program Net ρ}
    {n n' : Network} {k : Nat} {m : Move} {rest : Timed}
    (h : OnScript g W v ms ⟨before ++ x :: after, n⟩) (hms : ms before.length = (k, m) :: rest)
    (hy : Program.Follows g before.length y (rest.map Prod.snd) (v before.length))
    (hformed : n'.Formed g)
    (hmatched : Matched (n'.mailbox g) (Function.update ms before.length rest)) :
    OnScript g W v (Function.update ms before.length rest) ⟨before ++ y :: after, n'⟩ where
  count := by simpa using h.count
  formed := hformed
  follows i p hp := by
    simp only [getElem?_replace before after x y] at hp
    by_cases hi : i = before.length
    · subst hi
      simp only [if_true, Option.some.injEq] at hp
      subst hp
      simpa using hy
    · rw [if_neg hi] at hp
      rw [Function.update_of_ne hi]
      exact h.follows i p hp
  beyond i hi := by
    have hcount := h.count
    simp only [List.length_append, List.length_cons] at hcount
    rw [Function.update_of_ne (by omega)]
    exact h.beyond i hi
  ordered i := by
    by_cases hi : i = before.length
    · subst hi
      rw [Function.update_self]
      exact (List.pairwise_cons.1 (hms ▸ h.ordered _)).2
    · rw [Function.update_of_ne hi]
      exact h.ordered i
  matched := hmatched

lemma suffix_update {r : Nat} {x : Nat × Move} {rest : Timed} (hms : ms r = x :: rest) (i : Nat) :
    Function.update ms r rest i <:+ ms i := by
  by_cases hi : i = r
  · subst hi
    rw [Function.update_self, hms]
    exact List.suffix_cons x rest
  · rw [Function.update_of_ne hi]

/-- A step is the first move of one participant. -/
lemma OnScript.step (h : OnScript g W v ms c) (hd : Step c d) :
    ∃ ms', OnScript g W v ms' d ∧ ∀ r, ms' r <:+ ms r := by
  obtain ⟨before, after, req, next, n, hready⟩ := hd
  have hfollows := h.follows before.length (.ask req next) (by simp)
  cases hms : ms before.length with
  | nil =>
    rw [hms] at hfollows
    exact nomatch Program.follows_nil_iff.1 hfollows
  | cons x rest =>
    obtain ⟨k, m⟩ := x
    rw [hms, List.map_cons] at hfollows
    refine ⟨Function.update ms before.length rest, ?_, suffix_update hms⟩
    cases hfollows with
    | post hnext =>
      refine h.replace hms hnext (Network.formed_post _ h.formed) fun p q => ?_
      rw [Network.mailbox_post _ h.formed]
      exact h.matched.post hms p q
    | @take source _ _ _ _ hnext =>
      obtain ⟨c, box, hbox⟩ := List.exists_cons_of_ne_nil (Network.ready_take_iff.1 hready)
      obtain ⟨hanswer, hformed, hmail, hframe⟩ := Network.answer_take hbox
      obtain ⟨rfl, hmatched⟩ := h.matched.take hms hbox
      refine h.replace hms (hanswer ▸ hnext) hformed fun p q => ?_
      have hafter : (Network.answer (.take g source before.length) n).2.mailbox g p q =
          if p = source ∧ q = before.length then box else n.mailbox g p q := by
        split
        · rename_i hpq
          rw [hpq.1, hpq.2, hmail]
        · exact hframe p q ‹_›
      rw [hafter]
      exact hmatched p q

/-- While some moves are left, somebody can go on. -/
lemma OnScript.progress (h : OnScript g W v ms c) {r : Nat} (hr : ms r ≠ []) : ∃ d, Step c d := by
  obtain ⟨i, m, k, rest, hms, hready⟩ := h.matched.progress h.ordered h.beyond hr
  have hi : i < c.programs.length := by
    rw [h.count]
    by_contra hi
    have := h.beyond i (by omega)
    simp [hms] at this
  have hfollows := h.follows i _ (List.getElem?_eq_getElem hi)
  have hsplit : c.programs = c.programs.take i ++ c.programs[i] :: c.programs.drop (i + 1) := by
    rw [List.getElem_cons_drop, List.take_append_drop]
  rw [hms, List.map_cons] at hfollows
  obtain ⟨programs, n⟩ := c
  simp only at hsplit hfollows
  cases hp : programs[i] with
  | done a => exact nomatch hp ▸ hfollows
  | ask req next =>
    rw [hp] at hfollows hsplit
    rw [hsplit]
    refine ⟨_, .answered _ _ req next n ?_⟩
    cases hfollows with
    | post _ => rfl
    | take _ => exact Network.ready_take_iff.2 (hready _ _ rfl)

/-- When no moves are left, everybody has come to an end and every mailbox is empty. -/
lemma OnScript.ended (h : OnScript g W v ms c) (hms : ∀ r, ms r = []) :
    c.Ended ((List.range W).map v) ∧ c.network.Quiet g := by
  constructor
  · refine List.ext_getElem (by simp [h.count]) fun i hi hi' => ?_
    have hfollows := h.follows i _ (List.getElem?_eq_getElem hi)
    rw [hms, List.map_nil, Program.follows_nil_iff] at hfollows
    simpa using hfollows
  · intro p q
    have hdelivers := h.matched p q
    rw [hms, hms] at hdelivers
    exact hdelivers.box_eq_nil

/-- Wherever an interleaving leads, what is left of the moves are the last ones. -/
lemma OnScript.reaches (h : OnScript g W v ms c) (hd : c.Reaches d) :
    ∃ ms', OnScript g W v ms' d ∧ ∀ r, ms' r <:+ ms r := by
  induction hd with
  | refl => exact ⟨ms, h, fun r => List.suffix_rfl⟩
  | tail _ hstep ih =>
    obtain ⟨ms₁, h₁, hms₁⟩ := ih
    obtain ⟨ms₂, h₂, hms₂⟩ := h₁.step hstep
    exact ⟨ms₂, h₂, fun r => (hms₂ r).trans (hms₁ r)⟩

/-- What lies in a mailbox has still to be taken. -/
lemma OnScript.exists_take {p q : Nat} {b : Bytes} (h : OnScript g W v ms c)
    (hb : b ∈ c.network.mailbox g p q) : ∃ k, (k, .take p b) ∈ ms q := by
  obtain ⟨due, later, htaken, hbox, -⟩ := h.matched p q
  rw [← hbox] at hb
  obtain ⟨⟨k, b'⟩, hmem, rfl⟩ := List.mem_map.1 hb
  have htaken : (k, b') ∈ takenFrom p (ms q) := htaken ▸ List.mem_append_left later hmem
  obtain ⟨⟨k₁, m⟩, hm, hx⟩ := List.mem_filterMap.1 htaken
  cases m with
  | post => simp at hx
  | take source payload =>
    by_cases hsource : source = p
    · simp only [hsource, if_true, Option.some.injEq, Prod.mk.injEq] at hx
      obtain ⟨rfl, rfl⟩ := hx
      exact ⟨k₁, hsource ▸ hm⟩
    · simp [hsource] at hx

theorem OnScript.settles {ms : Nat → Timed} {c : Crowd ρ} (h : OnScript g W v ms c) :
    c.Settles fun vs n => vs = (List.range W).map v ∧ n.Formed g ∧ n.Quiet g := by
  by_cases hms : ∀ r, ms r = []
  · obtain ⟨hended, hquiet⟩ := h.ended hms
    have hformed := h.formed
    obtain ⟨programs, n⟩ := c
    obtain rfl : programs = _ := hended
    exact .ended ⟨rfl, hformed, hquiet⟩
  · obtain ⟨r, hr⟩ := not_forall.1 hms
    refine .going (h.progress hr) fun d hd => ?_
    obtain ⟨ms', h', -⟩ := h.step hd
    exact h'.settles
termination_by c.programs
decreasing_by exact oneChild_of_step hd

end Crowd

end ExpertExchange
