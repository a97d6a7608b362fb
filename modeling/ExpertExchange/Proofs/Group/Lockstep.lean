import ExpertExchange.Proofs.Group.Delivery
import Mathlib.Data.List.Forall2
import Mathlib.Tactic.Choose

/-!
# All participants in lockstep

The acts of all participants of a group go together through a list of rounds, in each of which
every rank takes from every other exactly what that rank posts to it. Statements about such acts
compose like statements about one act, and what they say of the lockstep holds at the end of every
interleaving.
-/

namespace ExpertExchange

open Move

/-- A round of the whole group, by rank, in which all that is posted is taken. -/
structure Balanced (W : Nat) (F : Nat → Round) : Prop where
  inside : ∀ r < W, ∀ m ∈ (F r).posts, m.1 < W
  taken : ∀ p q, q < W → payloads p (F q).takes = if p < W then payloads q (F p).posts else []

variable {σ τ ε α β : Type} {g : Bytes} {W : Nat}

/-- The acts of the ranks below `W` go through balanced rounds together and all succeed, so that
`Q` holds of their values and of the states after them. -/
def Lockstep (g : Bytes) (W : Nat) (m : Nat → Act Net σ ε α) (s : Nat → σ)
    (Q : (Nat → α) → (Nat → σ) → Prop) : Prop :=
  ∃ (schedule : List (Nat → Round)) (a : Nat → α) (s' : Nat → σ), (∀ F ∈ schedule, Balanced W F) ∧
    (∀ r < W, Program.Follows g r (m r (s r)) ((schedule.map (· r)).flatMap Round.moves)
      (.ok (a r), s' r)) ∧ Q a s'

namespace Lockstep

variable {m : Nat → Act Net σ ε α} {f : Nat → α → Act Net σ ε β} {s : Nat → σ}
  {Q Q' : (Nat → α) → (Nat → σ) → Prop} {R : (Nat → β) → (Nat → σ) → Prop}

lemma mono (h : Lockstep g W m s Q) (hQ : ∀ a s', Q a s' → Q' a s') : Lockstep g W m s Q' := by
  obtain ⟨schedule, a, s', hb, hf, hq⟩ := h
  exact ⟨schedule, a, s', hb, hf, hQ a s' hq⟩

lemma bind (h : Lockstep g W m s Q)
    (hf : ∀ a s', Q a s' → Lockstep g W (fun r => f r (a r)) s' R) :
    Lockstep g W (fun r => (m r).bind (f r)) s R := by
  obtain ⟨schedule, a, s', hb, hm, hq⟩ := h
  obtain ⟨schedule', b, s'', hb', hm', hr⟩ := hf a s' hq
  refine ⟨schedule ++ schedule', b, s'', ?_, fun r hr => ?_, hr⟩
  · intro F hF
    exact (List.mem_append.1 hF).elim (hb F) (hb' F)
  · rw [List.map_append, List.flatMap_append]
    exact (hm r hr).bind (hm' r hr)

lemma within {p : Part τ σ} {t : Nat → τ} {Q : (Nat → α) → (Nat → τ) → Prop}
    (h : Lockstep g W m (fun r => p.get (t r)) fun a s' => Q a fun r => p.put (t r) (s' r)) :
    Lockstep g W (fun r => (m r).within p) t Q := by
  obtain ⟨schedule, a, s', hb, hm, hq⟩ := h
  exact ⟨schedule, a, _, hb, fun r hr => (hm r hr).map rfl, hq⟩

/-- What ranks outside the group do does not matter, nor what acts do from other states. -/
lemma congr {m' : Nat → Act Net σ ε α} (h : Lockstep g W m s Q)
    (hm : ∀ r < W, m' r (s r) = m r (s r)) : Lockstep g W m' s Q := by
  obtain ⟨schedule, a, s', hb, hf, hq⟩ := h
  exact ⟨schedule, a, s', hb, fun r hr => hm r hr ▸ hf r hr, hq⟩

lemma pure {a : Nat → α} (hq : Q a s) :
    Lockstep g W (fun r => (Pure.pure (a r) : Act Net σ ε α)) s Q :=
  ⟨[], a, s, nofun, fun _ _ => .done _, hq⟩

/-- Lists of one length on all ranks, gone through element by element; the invariant speaks of how
many elements are done. -/
lemma forEach {γ : Type} {xs : Nat → List γ} {f : Nat → γ → Act Net σ ε Unit} {k : Nat}
    {I : Nat → (Nat → σ) → Prop} (hW : 0 < W) (hk : ∀ r < W, (xs r).length = k) (h₀ : I 0 s)
    (hstep : ∀ i < k, ∀ x : Nat → γ, (∀ r < W, (xs r)[i]? = some (x r)) → ∀ s, I i s →
      Lockstep g W (fun r => f r (x r)) s fun _ s' => I (i + 1) s') :
    Lockstep g W (fun r => Act.forEach (xs r) (f r)) s fun _ s' => I k s' := by
  induction k generalizing xs s I with
  | zero =>
    refine (Lockstep.pure (a := fun _ => ()) h₀).congr fun r hr => ?_
    rw [List.eq_nil_of_length_eq_zero (hk r hr)]
    rfl
  | succ k ih =>
    have hcons : ∀ r < W, ∃ x rest, xs r = x :: rest := fun r hr =>
      List.exists_cons_of_length_eq_add_one (hk r hr)
    have : Nonempty γ := ⟨(hcons 0 hW).choose⟩
    choose! x rest hxs using hcons
    have hfirst := hstep 0 (Nat.succ_pos k) x (fun r hr => by rw [hxs r hr]; rfl) s h₀
    have hrest : ∀ s', I 1 s' → Lockstep g W (fun r => Act.forEach (rest r) (f r)) s'
        fun _ s'' => I (k + 1) s'' := by
      intro s' hI
      refine ih (I := fun i => I (i + 1)) (fun r hr => ?_) hI fun i hi y hy => ?_
      · have := hk r hr
        rw [hxs r hr, List.length_cons] at this
        omega
      · refine hstep (i + 1) (by omega) y fun r hr => ?_
        rw [hxs r hr, List.getElem?_cons_succ]
        exact hy r hr
    refine (hfirst.bind (f := fun r _ => Act.forEach (rest r) (f r)) fun _ => hrest).congr ?_
    intro r hr
    rw [hxs r hr]
    rfl

/-- Acts that go through the rounds of one schedule, each as its rank has to. -/
lemma of_runs (hW : 0 < W) (schedule : List (Nat → Round)) (hb : ∀ F ∈ schedule, Balanced W F)
    {Q : Nat → α → σ → Prop}
    (h : ∀ r < W, (m r).Runs g r (s r) (schedule.map (· r)) (Q r)) :
    Lockstep g W m s fun a s' => ∀ r < W, Q r (a r) (s' r) := by
  have : Nonempty α := (h 0 hW).nonempty
  have : Nonempty σ := ⟨s 0⟩
  choose! a s' hf hq using h
  exact ⟨schedule, a, s', hb, hf, hq⟩

end Lockstep

lemma payloads_eq_nil {q : Nat} {l : List (Nat × Bytes)} (h : ∀ m ∈ l, m.1 ≠ q) :
    payloads q l = [] := by
  rw [payloads, List.filterMap_eq_nil_iff]
  intro m hm
  rw [if_neg (h m hm)]

lemma sentTo_posts (q k : Nat) (l : List (Nat × Bytes)) :
    sentTo q (l.map fun m => (k, .post m.1 m.2)) = (payloads q l).map (k, ·) := by
  induction l with
  | nil => rfl
  | cons m l ih =>
    simp only [sentTo, payloads] at ih ⊢
    by_cases h : m.1 = q <;> simp [h, ih]

lemma sentTo_takes (q k : Nat) (l : List (Nat × Bytes)) :
    sentTo q (l.map fun m => (k, .take m.1 m.2)) = [] := by
  simp [sentTo]

lemma takenFrom_posts (p k : Nat) (l : List (Nat × Bytes)) :
    takenFrom p (l.map fun m => (k, .post m.1 m.2)) = [] := by
  simp [takenFrom]

lemma takenFrom_takes (p k : Nat) (l : List (Nat × Bytes)) :
    takenFrom p (l.map fun m => (k, .take m.1 m.2)) = (payloads p l).map (k, ·) := by
  induction l with
  | nil => rfl
  | cons m l ih =>
    simp only [takenFrom, payloads] at ih ⊢
    by_cases h : m.1 = p <;> simp [h, ih]

lemma sentTo_timed_cons (q : Nat) (R : Round) (rest : List Round) :
    sentTo q (timed (R :: rest)) =
      (payloads q R.posts).map (2 * rest.length + 1, ·) ++ sentTo q (timed rest) := by
  have happend : ∀ ms ms', sentTo q (ms ++ ms') = sentTo q ms ++ sentTo q ms' := fun _ _ =>
    List.filterMap_append
  simp only [timed, happend, sentTo_posts, sentTo_takes, List.append_nil]

lemma takenFrom_timed_cons (p : Nat) (R : Round) (rest : List Round) :
    takenFrom p (timed (R :: rest)) =
      (payloads p R.takes).map (2 * rest.length, ·) ++ takenFrom p (timed rest) := by
  have happend : ∀ ms ms', takenFrom p (ms ++ ms') = takenFrom p ms ++ takenFrom p ms' :=
    fun _ _ => List.filterMap_append
  simp only [timed, happend, takenFrom_posts, takenFrom_takes, List.nil_append]

/-- In a schedule of balanced rounds all that a rank takes is posted before, in the same round. -/
lemma sent_before_taken {schedule : List (Nat → Round)} (hb : ∀ F ∈ schedule, Balanced W F)
    {p q : Nat} (hp : p < W) (hq : q < W) :
    List.Forall₂ (fun s t => s.2 = t.2 ∧ t.1 < s.1) (sentTo q (timed (schedule.map (· p))))
      (takenFrom p (timed (schedule.map (· q)))) := by
  induction schedule with
  | nil => exact .nil
  | cons F rest ih =>
    have hF := (hb F List.mem_cons_self).taken p q hq
    rw [if_pos hp] at hF
    simp only [List.map_cons, sentTo_timed_cons, takenFrom_timed_cons, hF, List.length_map]
    refine List.rel_append ?_ (ih fun F' hF' => hb F' (List.mem_cons_of_mem F hF'))
    rw [List.forall₂_map_left_iff, List.forall₂_map_right_iff, List.forall₂_same]
    exact fun b _ => ⟨rfl, Nat.lt_succ_self _⟩

/-- Nothing is sent to, or taken from, a rank outside the group. -/
lemma sent_outside {schedule : List (Nat → Round)} (hb : ∀ F ∈ schedule, Balanced W F)
    {p q : Nat} (hp : p < W) (hq : W ≤ q) : sentTo q (timed (schedule.map (· p))) = [] := by
  induction schedule with
  | nil => rfl
  | cons F rest ih =>
    have hF := (hb F List.mem_cons_self).inside p hp
    rw [List.map_cons, sentTo_timed_cons, payloads_eq_nil fun m hm => by have := hF m hm; omega]
    exact ih fun F' hF' => hb F' (List.mem_cons_of_mem F hF')

lemma taken_outside {schedule : List (Nat → Round)} (hb : ∀ F ∈ schedule, Balanced W F)
    {p q : Nat} (hp : W ≤ p) (hq : q < W) : takenFrom p (timed (schedule.map (· q))) = [] := by
  induction schedule with
  | nil => rfl
  | cons F rest ih =>
    have hF := (hb F List.mem_cons_self).taken p q hq
    rw [if_neg (by omega)] at hF
    rw [List.map_cons, takenFrom_timed_cons, hF]
    exact ih fun F' hF' => hb F' (List.mem_cons_of_mem F hF')

/-- The moves of each rank in a schedule; a rank outside the group has none. -/
def Lockstep.moves (W : Nat) (schedule : List (Nat → Round)) (r : Nat) : Timed :=
  if r < W then timed (schedule.map (· r)) else []

lemma Lockstep.matched {schedule : List (Nat → Round)} (hb : ∀ F ∈ schedule, Balanced W F) :
    Matched (fun _ _ => []) (Lockstep.moves W schedule) := by
  intro p q
  simp only [Lockstep.moves]
  by_cases hp : p < W <;> by_cases hq : q < W
  · rw [if_pos hp, if_pos hq]
    exact ⟨[], _, rfl, rfl, sent_before_taken hb hp hq⟩
  · rw [if_pos hp, if_neg hq, sent_outside hb hp (by omega)]
    exact delivers_nil
  · rw [if_neg hp, if_pos hq, taken_outside hb (by omega) hq]
    exact delivers_nil
  · rw [if_neg hp, if_neg hq]
    exact delivers_nil

def Crowd.starting (W : Nat) (m : Nat → Act Net σ ε α) (s : Nat → σ) (n : Network) :
    Crowd (Outcome ε α × σ) := ⟨(List.range W).map fun r => m r (s r), n⟩

/-- Participants at the start of balanced rounds are on the script of these rounds. -/
lemma Crowd.onScript_starting {m : Nat → Act Net σ ε α} {s s' : Nat → σ} {a : Nat → α}
    {schedule : List (Nat → Round)} (hb : ∀ F ∈ schedule, Balanced W F)
    (hm : ∀ r < W, Program.Follows g r (m r (s r)) ((schedule.map (· r)).flatMap Round.moves)
      (.ok (a r), s' r)) {n : Network} (hn : n.Formed g) (hq : n.Quiet g) :
    Crowd.OnScript g W (fun r => (Outcome.ok (a r), s' r)) (Lockstep.moves W schedule)
      (Crowd.starting W m s n) := by
  have hbox : n.mailbox g = fun _ _ => [] := funext fun p => funext fun q => hq p q
  refine ⟨by simp [Crowd.starting], hn, fun r p hp => ?_, fun r hr => if_neg (by omega),
    fun r => ?_, ?_⟩
  · obtain ⟨hr, rfl⟩ := List.getElem?_eq_some_iff.1 hp
    have hr' : r < W := by simpa [Crowd.starting] using hr
    simpa [Crowd.starting, Lockstep.moves, hr', map_snd_timed] using hm r hr'
  · unfold Lockstep.moves
    split
    · exact ordered_timed _
    · exact .nil
  · simp only [Crowd.starting, hbox]
    exact Lockstep.matched hb

/-- Acts that can go in lockstep settle, from a network without messages to one without messages,
and at every end the values and states are those of the lockstep. -/
theorem Lockstep.settles {m : Nat → Act Net σ ε α} {s : Nat → σ}
    {Q : (Nat → α) → (Nat → σ) → Prop} (h : Lockstep g W m s Q) {n : Network} (hn : n.Formed g)
    (hq : n.Quiet g) :
    ∃ a s', Q a s' ∧ (Crowd.starting W m s n).Settles fun vs n' =>
      vs = (List.range W).map (fun r => (.ok (a r), s' r)) ∧ n'.Formed g ∧ n'.Quiet g := by
  obtain ⟨schedule, a, s', hb, hm, hQ⟩ := h
  exact ⟨a, s', hQ, (Crowd.onScript_starting hb hm hn hq).settles⟩

/-- Wherever an interleaving of balanced rounds leads, what lies in a mailbox is a message that one
of the rounds takes. -/
lemma Crowd.mem_takes_of_mailbox {m : Nat → Act Net σ ε α} {s : Nat → σ}
    {schedule : List (Nat → Round)} {Q : Nat → α → σ → Prop} {n : Network}
    {d : Crowd (Outcome ε α × σ)} {p q : Nat} {b : Bytes} (hW : 0 < W)
    (hb : ∀ F ∈ schedule, Balanced W F)
    (h : ∀ r < W, (m r).Runs g r (s r) (schedule.map (· r)) (Q r)) (hn : n.Formed g)
    (hq : n.Quiet g) (hd : (Crowd.starting W m s n).Reaches d)
    (hmem : b ∈ d.network.mailbox g p q) : ∃ F ∈ schedule, (p, b) ∈ (F q).takes := by
  have : Nonempty α := (h 0 hW).nonempty
  have : Nonempty σ := ⟨s 0⟩
  choose! a s' hf _ using h
  obtain ⟨ms, hscript, hms⟩ := (Crowd.onScript_starting hb hf hn hq).reaches hd
  obtain ⟨k, htake⟩ := hscript.exists_take hmem
  have htake := (hms q).subset htake
  unfold Lockstep.moves at htake
  split at htake
  · have hmove : Move.take p b ∈ (schedule.map (· q)).flatMap Round.moves := by
      rw [← map_snd_timed]
      exact List.mem_map_of_mem htake
    obtain ⟨R, hR, hmove⟩ := List.mem_flatMap.1 hmove
    obtain ⟨F, hF, rfl⟩ := List.mem_map.1 hR
    refine ⟨F, hF, ?_⟩
    simpa [Round.moves] using hmove
  · cases htake

/-- Some complete run of all participants, from a network without messages, ends with these values
and states. -/
def Crowd.Ends (g : Bytes) (W : Nat) (m : Nat → Act Net σ ε α) (s : Nat → σ) (a : Nat → α)
    (s' : Nat → σ) : Prop :=
  ∃ (n : Network) (d : Crowd (Outcome ε α × σ)), n.Formed g ∧ n.Quiet g ∧
    (Crowd.starting W m s n).Reaches d ∧ d.Ended ((List.range W).map fun r => (.ok (a r), s' r))

namespace Lockstep

variable {m : Nat → Act Net σ ε α} {s s' : Nat → σ} {a : Nat → α}

/-- Acts that can go in lockstep have a complete run that ends like the lockstep. -/
lemma ends {Q : (Nat → α) → (Nat → σ) → Prop} (h : Lockstep g W m s Q) :
    Lockstep g W m s fun a s' => Q a s' ∧ Crowd.Ends g W m s a s' := by
  obtain ⟨schedule, a, s', hb, hm, hQ⟩ := h
  refine ⟨schedule, a, s', hb, hm, hQ, ?_⟩
  have hlockstep : Lockstep g W m s fun b t => b = a ∧ t = s' :=
    ⟨schedule, a, s', hb, hm, rfl, rfl⟩
  have hformed := Network.formed_assembled g W
  have hquiet := Network.quiet_assembled g W
  obtain ⟨_, _, ⟨rfl, rfl⟩, hsettles⟩ := hlockstep.settles hformed hquiet
  obtain ⟨d, vs, hd, hvs⟩ := hsettles.exists_ended
  obtain ⟨rfl, -, -⟩ := hsettles.of_ended hd hvs
  exact ⟨_, d, hformed, hquiet, hd, hvs⟩

/-- Every complete run ends, rank by rank, like the lockstep. -/
lemma of_ends {Q : (Nat → α) → (Nat → σ) → Prop} (h : Lockstep g W m s Q)
    (he : Crowd.Ends g W m s a s') : ∃ b t, Q b t ∧ ∀ r < W, a r = b r ∧ s' r = t r := by
  obtain ⟨n, d, hformed, hquiet, hd, hvs⟩ := he
  obtain ⟨b, t, hQ, hsettles⟩ := h.settles hformed hquiet
  obtain ⟨hvalues, -, -⟩ := hsettles.of_ended hd hvs
  refine ⟨b, t, hQ, ?_⟩
  intro r hr
  have hvalue := List.map_inj_left.1 hvalues r (List.mem_range.2 hr)
  rw [Prod.mk.injEq, Outcome.ok.injEq] at hvalue
  exact hvalue

/-- No interleaving of acts that can go in lockstep gets stuck or leaves a message behind, and all
of them end alike, without failures. -/
theorem orderly {Q : (Nat → α) → (Nat → σ) → Prop} (h : Lockstep g W m s Q) {n : Network}
    (hn : n.Formed g) (hq : n.Quiet g) : (Crowd.starting W m s n).Orderly g ∧
      ∀ d vs, (Crowd.starting W m s n).Reaches d → d.Ended vs → ∀ v ∈ vs, ∃ a, v.1 = .ok a := by
  obtain ⟨a, s', -, hsettles⟩ := h.settles hn hq
  refine ⟨(hsettles.mono fun vs n' hend => ⟨hend.1, hend.2.2⟩).orderly, ?_⟩
  intro d vs hd hvs v hv
  obtain ⟨rfl, -, -⟩ := hsettles.of_ended hd hvs
  obtain ⟨r, -, rfl⟩ := List.mem_map.1 hv
  exact ⟨a r, rfl⟩

end Lockstep

end ExpertExchange
