import ExpertExchange.Group.Network
import ExpertExchange.Proofs.Act.Ends

/-!
# What a participant posts and takes

A participant that always gets the messages it expects behaves like a straight line: it posts and
takes a fixed list of messages and ends with a fixed value. `Follows` is that relation. The lists
of all collectives are made of rounds, in each of which everything is posted before anything is
taken; `Act.Runs` states what an act does to its state while it goes through some rounds.
-/

namespace ExpertExchange

/-- A message that a participant posts to a rank, or takes from one. -/
inductive Move where
  | post (target : Nat) (payload : Bytes)
  | take (source : Nat) (payload : Bytes)

/-- The messages of one round: all that is posted, by target, then all that is taken, by source. -/
structure Round where
  posts : List (Nat × Bytes)
  takes : List (Nat × Bytes)

def Round.moves (R : Round) : List Move :=
  R.posts.map (fun m => .post m.1 m.2) ++ R.takes.map fun m => .take m.1 m.2

namespace Program

variable {α β : Type} {g : Bytes} {r : Nat}

/-- Rank `r` of the group `g` makes these moves, in order, and ends with this value. -/
inductive Follows (g : Bytes) (r : Nat) : Program Net α → List Move → α → Prop where
  | done (a : α) : Follows g r (.done a) [] a
  | post {target : Nat} {payload : Bytes} {next : Unit → Program Net α} {ms : List Move} {a : α}
      (h : Follows g r (next ()) ms a) :
      Follows g r (.ask (.post g ⟨r, target, payload⟩) next) (.post target payload :: ms) a
  | take {source : Nat} {payload : Bytes} {next : Option Bytes → Program Net α} {ms : List Move}
      {a : α} (h : Follows g r (next (some payload)) ms a) :
      Follows g r (.ask (.take g source r) next) (.take source payload :: ms) a

lemma follows_nil_iff {p : Program Net α} {a : α} : p.Follows g r [] a ↔ p = .done a := by
  constructor
  · intro h
    cases h
    rfl
  · rintro rfl
    exact .done a

lemma Follows.bind {p : Program Net α} {f : α → Program Net β} {ms ms' : List Move} {a : α} {b : β}
    (h : p.Follows g r ms a) (h' : (f a).Follows g r ms' b) :
    (p.bind f).Follows g r (ms ++ ms') b := by
  induction h with
  | done a => exact h'
  | post _ ih => exact .post (ih h')
  | take _ ih => exact .take (ih h')

lemma Follows.map {p : Program Net α} {f : α → Program Net β} {ms : List Move} {a : α} {b : β}
    (h : p.Follows g r ms a) (hf : f a = .done b) : (p.bind f).Follows g r ms b := by
  have := h.bind (follows_nil_iff.2 hf)
  rwa [List.append_nil] at this

end Program

namespace Act

variable {σ τ ε ε' α β : Type} {g : Bytes} {r : Nat}

/-- From the state `s` the act goes through these rounds and succeeds, so that `Q` holds of its
value and the state after it. -/
def Runs (g : Bytes) (r : Nat) (m : Act Net σ ε α) (s : σ) (rounds : List Round)
    (Q : α → σ → Prop) : Prop :=
  ∃ a s', (m s).Follows g r (rounds.flatMap Round.moves) (.ok a, s') ∧ Q a s'

variable {m : Act Net σ ε α} {f : α → Act Net σ ε β} {s s' : σ} {a : α}
  {rounds rounds' : List Round} {Q : α → σ → Prop} {R : β → σ → Prop}

lemma follows_bind {ms ms' : List Move} {x : Outcome ε β × σ} (h : (m s).Follows g r ms (.ok a, s'))
    (h' : (f a s').Follows g r ms' x) : (m.bind f s).Follows g r (ms ++ ms') x := h.bind h'

/-- One act for each element, none of which changes the state. -/
lemma follows_forEach {xs : List α} {f : α → Act Net σ ε Unit} {moves : α → List Move}
    (h : ∀ x ∈ xs, (f x s).Follows g r (moves x) (.ok (), s)) :
    (Act.forEach xs f s).Follows g r (xs.flatMap moves) (.ok (), s) := by
  induction xs with
  | nil => exact .done _
  | cons x xs ih =>
    exact follows_bind (h x List.mem_cons_self) (ih fun y hy => h y (List.mem_cons_of_mem x hy))

lemma bind_assoc {γ : Type} (m : Act Net σ ε α) (f : α → Act Net σ ε β) (f' : β → Act Net σ ε γ) :
    (m.bind f).bind f' = m.bind fun a => (f a).bind f' := by
  funext s
  simp only [Act.bind, Program.bind_assoc]
  congr 1
  funext x
  rcases x with ⟨_ | _ | _, _⟩ <;> rfl

lemma forEach_append (xs ys : List α) (f : α → Act Net σ ε Unit) :
    Act.forEach (xs ++ ys) f = (Act.forEach xs f).bind fun _ => Act.forEach ys f := by
  induction xs with
  | nil => rfl
  | cons x xs ih =>
    rw [List.cons_append, Act.forEach, ih, Act.forEach, bind_assoc]

lemma forEach_map {γ : Type} (xs : List γ) (h : γ → α) (f : α → Act Net σ ε Unit) :
    Act.forEach (xs.map h) f = Act.forEach xs fun x => f (h x) := by
  induction xs with
  | nil => rfl
  | cons x xs ih => rw [List.map_cons, Act.forEach, ih, Act.forEach]

lemma forEach_range_succ (n : Nat) (f : Nat → Act Net σ ε Unit) :
    Act.forEach (List.range (n + 1)) f =
      (f 0).bind fun _ => Act.forEach (List.range n) fun i => f (i + 1) := by
  rw [List.range_succ_eq_map, Act.forEach, forEach_map]

lemma Runs.of_done (h : m s = .done (.ok a, s')) (hQ : Q a s') : m.Runs g r s [] Q :=
  ⟨a, s', Program.follows_nil_iff.2 h, hQ⟩

lemma runs_nil_iff : m.Runs g r s [] Q ↔ ∃ a s', m s = .done (.ok a, s') ∧ Q a s' := by
  simp only [Runs, List.flatMap_nil, Program.follows_nil_iff]

lemma Runs.pure (hQ : Q a s) : (pure a : Act Net σ ε α).Runs g r s [] Q := .of_done rfl hQ

lemma Runs.modify {f : σ → σ} {Q : Unit → σ → Prop} (hQ : Q () (f s)) :
    (Act.modify f : Act Net σ ε Unit).Runs g r s [] Q := .of_done rfl hQ

lemma Runs.mono {Q' : α → σ → Prop} (h : m.Runs g r s rounds Q) (hQ : ∀ a s', Q a s' → Q' a s') :
    m.Runs g r s rounds Q' := by
  obtain ⟨a, s', hf, hq⟩ := h
  exact ⟨a, s', hf, hQ a s' hq⟩

lemma Runs.bind (h : m.Runs g r s rounds Q)
    (hf : ∀ a s', Q a s' → (f a).Runs g r s' rounds' R) :
    (m.bind f).Runs g r s (rounds ++ rounds') R := by
  obtain ⟨a, s', hm, hq⟩ := h
  obtain ⟨b, s'', hb, hr⟩ := hf a s' hq
  refine ⟨b, s'', ?_, hr⟩
  rw [List.flatMap_append]
  exact hm.bind hb

/-- What comes first asks for nothing. -/
lemma Runs.after (h : m.Runs g r s [] Q) (hf : ∀ a s', Q a s' → (f a).Runs g r s' rounds R) :
    (m.bind f).Runs g r s rounds R := h.bind hf

/-- What comes first asks for nothing, and all it does is known. -/
lemma Runs.step (h : m s = .done (.ok a, s')) (hf : (f a).Runs g r s' rounds R) :
    (m.bind f).Runs g r s rounds R :=
  Runs.after (Q := fun b t => b = a ∧ t = s') (.of_done h ⟨rfl, rfl⟩) fun _ _ ⟨hb, ht⟩ =>
    hb ▸ ht ▸ hf

/-- What comes last asks for nothing. -/
lemma Runs.before (h : m.Runs g r s rounds Q) (hf : ∀ a s', Q a s' → (f a).Runs g r s' [] R) :
    (m.bind f).Runs g r s rounds R := by
  have := h.bind hf
  rwa [List.append_nil] at this

/-- The rounds of all elements, one after the other; the invariant speaks of the elements that are
done. -/
lemma Runs.forEach {γ : Type} {xs : List γ} {f : γ → Act Net σ ε Unit} {rounds : γ → List Round}
    {I : List γ → σ → Prop} (h₀ : I [] s)
    (hstep : ∀ done x rest, xs = done ++ x :: rest → ∀ s, I done s →
      (f x).Runs g r s (rounds x) fun _ s' => I (done ++ [x]) s') :
    (Act.forEach xs f).Runs g r s (xs.flatMap rounds) fun _ s' => I xs s' := by
  suffices h : ∀ rest done s, xs = done ++ rest → I done s →
      (Act.forEach rest f).Runs g r s (rest.flatMap rounds) fun _ s' => I xs s' from
    h xs [] s rfl h₀
  intro rest
  induction rest with
  | nil =>
    intro done s hxs hI
    rw [List.append_nil] at hxs
    exact .pure (hxs ▸ hI)
  | cons x rest ih =>
    intro done s hxs hI
    refine (hstep done x rest hxs s hI).bind fun _ s' hI' => ?_
    exact ih (done ++ [x]) s' (by rw [hxs, List.append_assoc, List.singleton_append]) hI'

/-- One round for every element. -/
lemma Runs.forEachRound {γ : Type} {xs : List γ} {f : γ → Act Net σ ε Unit} {round : γ → Round}
    {I : List γ → σ → Prop} (h₀ : I [] s)
    (hstep : ∀ done x rest, xs = done ++ x :: rest → ∀ s, I done s →
      (f x).Runs g r s [round x] fun _ s' => I (done ++ [x]) s') :
    (Act.forEach xs f).Runs g r s (xs.map round) fun _ s' => I xs s' := by
  rw [List.map_eq_flatMap]
  exact .forEach h₀ hstep

/-- One round for every index; the invariant speaks of how many are done. -/
lemma Runs.forEachIndex {k : Nat} {f : Nat → Act Net σ ε Unit} {round : Nat → Round}
    {I : Nat → σ → Prop} (h₀ : I 0 s)
    (hstep : ∀ i < k, ∀ s, I i s → (f i).Runs g r s [round i] fun _ s' => I (i + 1) s') :
    (Act.forEach (List.range k) f).Runs g r s ((List.range k).map round) fun _ s' => I k s' := by
  induction k with
  | zero => exact .pure h₀
  | succ k ih =>
    have hfirst := ih fun i hi => hstep i (by omega)
    rw [List.range_succ, forEach_append, List.map_append]
    refine hfirst.bind fun _ s' hI => ?_
    exact (hstep k (Nat.lt_succ_self k) s' hI).before fun _ _ hI' => .pure hI'

lemma Runs.mapError {f : ε → ε'} (h : m.Runs g r s rounds Q) :
    (m.mapError f).Runs g r s rounds Q := by
  obtain ⟨a, s', hm, hq⟩ := h
  exact ⟨a, s', hm.map rfl, hq⟩

lemma Runs.within {p : Part τ σ} {t : τ} {Q : α → τ → Prop}
    (h : m.Runs g r (p.get t) rounds fun a s' => Q a (p.put t s')) :
    (m.within p).Runs g r t rounds Q := by
  obtain ⟨a, s', hm, hq⟩ := h
  exact ⟨a, p.put t s', hm.map rfl, hq⟩

lemma Runs.orElseClean {cleanup : Act Net σ ε Unit} (h : m.Runs g r s rounds Q) :
    (m.orElseClean cleanup).Runs g r s rounds Q := by
  obtain ⟨a, s', hm, hq⟩ := h
  exact ⟨a, s', hm.map rfl, hq⟩

lemma Runs.andFinally {cleanup : Act Net σ ε Unit} {R : α → σ → Prop} (h : m.Runs g r s rounds Q)
    (hc : ∀ a s', Q a s' → cleanup.Runs g r s' [] fun _ => R a) :
    (m.andFinally cleanup).Runs g r s rounds R := by
  obtain ⟨a, s', hm, hq⟩ := h
  obtain ⟨_, s'', hclean, hr⟩ := runs_nil_iff.1 (hc a s' hq)
  refine ⟨a, s'', hm.map ?_, hr⟩
  simp only [hclean, Program.bind]

end Act

end ExpertExchange
