import ExpertExchange.Act
import Mathlib.Tactic.Lemma

/-!
# What an act asks and is told

A conversation is the list of all requests that a program makes, each with the answer it got, so
that it also tells which calls succeeded and what they gave. `Act.Tells` says what holds of every
conversation of an act, of its outcome and of the state after it, whatever the answers.
-/

namespace ExpertExchange

/-- A request with the answer that it got. -/
structure Service.Reply (S : Service) where
  request : S.Request
  answer : S.Answer request

namespace Program

variable {S : Service} {α β : Type}

/-- With these answers the program makes these requests and ends with this value. -/
inductive Converses : List S.Reply → Program S α → α → Prop where
  | done (a : α) : Converses [] (.done a) a
  | ask {r : S.Request} {next : S.Answer r → Program S α} {replies : List S.Reply} {a : α}
      (x : S.Answer r) (h : Converses replies (next x) a) :
      Converses (⟨r, x⟩ :: replies) (.ask r next) a

lemma converses_done_iff {a b : α} {replies : List S.Reply} :
    (done a : Program S α).Converses replies b ↔ replies = [] ∧ b = a := by
  constructor
  · intro h
    cases h
    exact ⟨rfl, rfl⟩
  · rintro ⟨rfl, rfl⟩
    exact .done b

lemma converses_ask_iff {r : S.Request} {next : S.Answer r → Program S α}
    {replies : List S.Reply} {a : α} :
    (ask r next).Converses replies a ↔
      ∃ x rest, replies = ⟨r, x⟩ :: rest ∧ (next x).Converses rest a := by
  constructor
  · intro h
    cases h with
    | ask x h => exact ⟨x, _, rfl, h⟩
  · rintro ⟨x, rest, rfl, h⟩
    exact .ask x h

lemma converses_bind_iff {p : Program S α} {f : α → Program S β} {replies : List S.Reply} {b : β} :
    (p.bind f).Converses replies b ↔
      ∃ a first rest, replies = first ++ rest ∧ p.Converses first a ∧ (f a).Converses rest b := by
  induction p generalizing replies with
  | done a =>
    constructor
    · intro h
      exact ⟨a, [], replies, rfl, .done a, h⟩
    · rintro ⟨a', first, rest, rfl, hfirst, hrest⟩
      obtain ⟨rfl, rfl⟩ := converses_done_iff.1 hfirst
      exact hrest
  | ask r next ih =>
    constructor
    · intro h
      obtain ⟨x, rest, rfl, hnext⟩ := converses_ask_iff.1 h
      obtain ⟨a, first, last, rfl, hfirst, hlast⟩ := (ih x).1 hnext
      exact ⟨a, ⟨r, x⟩ :: first, last, rfl, .ask x hfirst, hlast⟩
    · rintro ⟨a, first, rest, rfl, hfirst, hrest⟩
      obtain ⟨x, others, rfl, hnext⟩ := converses_ask_iff.1 hfirst
      exact .ask x ((ih x).2 ⟨a, others, rest, rfl, hnext, hrest⟩)

/-- Whatever the answers, there is a conversation that consists of them. -/
lemma exists_converses (answer : (r : S.Request) → S.Answer r) (p : Program S α) :
    ∃ replies a, p.Converses replies a ∧ ∀ r ∈ replies, r.answer = answer r.request := by
  induction p with
  | done a => exact ⟨[], a, .done a, by simp⟩
  | ask r next ih =>
    obtain ⟨replies, a, h, hanswers⟩ := ih (answer r)
    exact ⟨⟨r, answer r⟩ :: replies, a, .ask _ h, by simpa using hanswers⟩

end Program

namespace Act

variable {S : Service} {σ τ ε ε' α β : Type}

/-- From the state `s`, whatever the answers, the conversation of the act, its outcome and the
state after it have the property `Q`. -/
def Tells (m : Act S σ ε α) (s : σ) (Q : List S.Reply → Outcome ε α → σ → Prop) : Prop :=
  ∀ replies o s', (m s).Converses replies (o, s') → Q replies o s'

variable {m : Act S σ ε α} {f : α → Act S σ ε β} {s s' : σ} {o : Outcome ε α}
  {Q Q' : List S.Reply → Outcome ε α → σ → Prop} {R : List S.Reply → Outcome ε β → σ → Prop}

lemma Tells.of_done (h : m s = .done (o, s')) (hQ : Q [] o s') : m.Tells s Q := by
  intro replies o' s'' hend
  rw [h, Program.converses_done_iff] at hend
  rcases hend with ⟨rfl, hend⟩
  cases hend
  exact hQ

lemma Tells.mono (h : m.Tells s Q) (hQ : ∀ replies o s', Q replies o s' → Q' replies o s') :
    m.Tells s Q' :=
  fun replies o s' hend => hQ replies o s' (h replies o s' hend)

lemma Tells.request {r : S.Request} {Q : List S.Reply → Outcome ε (S.Answer r) → σ → Prop}
    (h : ∀ x, Q [⟨r, x⟩] (.ok x) s) : (Act.request r : Act S σ ε (S.Answer r)).Tells s Q := by
  intro replies o s' hend
  obtain ⟨x, rest, rfl, hnext⟩ := Program.converses_ask_iff.1 hend
  obtain ⟨rfl, hdone⟩ := Program.converses_done_iff.1 hnext
  cases hdone
  exact h x

/-- What was said during the first act comes before what is said during the second one. -/
lemma Tells.bind (h : m.Tells s Q)
    (ok : ∀ first a s', Q first (.ok a) s' →
      (f a).Tells s' fun rest o s'' => R (first ++ rest) o s'')
    (error : ∀ replies e s', Q replies (.error e) s' → R replies (.error e) s')
    (fault : ∀ replies w s', Q replies (.fault w) s' → R replies (.fault w) s') :
    (m.bind f).Tells s R := by
  intro replies o s' hend
  obtain ⟨⟨o₁, s₁⟩, first, rest, rfl, hfirst, hrest⟩ := Program.converses_bind_iff.1 hend
  have hQ := h first o₁ s₁ hfirst
  cases o₁ with
  | ok a => exact ok first a s₁ hQ rest o s' hrest
  | error e =>
    obtain ⟨rfl, hrest⟩ := Program.converses_done_iff.1 hrest
    cases hrest
    rw [List.append_nil]
    exact error first e _ hQ
  | fault w =>
    obtain ⟨rfl, hrest⟩ := Program.converses_done_iff.1 hrest
    cases hrest
    rw [List.append_nil]
    exact fault first w _ hQ

/-- What comes first says nothing, and all it does is known. -/
lemma Tells.step {a : α} (h : m s = .done (.ok a, s')) (hf : (f a).Tells s' R) :
    (m.bind f).Tells s R := by
  intro replies o s'' hend
  rw [Act.bind, h] at hend
  exact hf replies o s'' hend

/-- A request comes first, and its answer decides what follows. -/
lemma Tells.ask {r : S.Request} {f : S.Answer r → Act S σ ε β}
    (h : ∀ x, (f x).Tells s fun rest o s' => R (⟨r, x⟩ :: rest) o s') :
    ((Act.request r : Act S σ ε (S.Answer r)).bind f).Tells s R := by
  intro replies o s' hend
  obtain ⟨x, rest, rfl, hrest⟩ := Program.converses_ask_iff.1 hend
  exact h x rest o s' hrest

/-- The outcome of the first act is handed on, whatever it is. -/
lemma Tells.attempt_bind {g : Outcome ε' α → Act S σ ε β} {m : Act S σ ε' α}
    {Q : List S.Reply → Outcome ε' α → σ → Prop} (h : m.Tells s Q)
    (hg : ∀ first o s', Q first o s' →
      (g o).Tells s' fun rest o' s'' => R (first ++ rest) o' s'') :
    (m.attempt.bind g).Tells s R := by
  have hattempt : (m.attempt : Act S σ ε (Outcome ε' α)).Tells s fun replies o s' =>
      ∃ o', o = .ok o' ∧ Q replies o' s' := by
    intro replies o s' hend
    obtain ⟨⟨o₁, s₁⟩, first, rest, rfl, hfirst, hrest⟩ := Program.converses_bind_iff.1 hend
    obtain ⟨rfl, hrest⟩ := Program.converses_done_iff.1 hrest
    cases hrest
    rw [List.append_nil]
    exact ⟨o₁, rfl, h first o₁ _ hfirst⟩
  refine hattempt.bind ?_ ?_ ?_
  · rintro first o s' ⟨_, ho, hQ⟩
    cases ho
    exact hg first o s' hQ
  · rintro _ e _ ⟨o, ho, -⟩
    cases ho
  · rintro _ w _ ⟨o, ho, -⟩
    cases ho

/-- What is said during the cleanup comes after what was said before. -/
lemma Tells.orElseClean {cleanup : Act S σ ε Unit} (h : m.Tells s Q)
    (ok : ∀ replies a s', Q replies (.ok a) s' → Q' replies (.ok a) s')
    (clean : ∀ first o s', Q first o s' → (∀ a, o ≠ .ok a) →
      cleanup.Tells s' fun rest _ s'' => Q' (first ++ rest) o s'') :
    (m.orElseClean cleanup).Tells s Q' := by
  intro replies o s' hend
  obtain ⟨⟨o₁, s₁⟩, first, rest, rfl, hfirst, hrest⟩ := Program.converses_bind_iff.1 hend
  have hQ := h first o₁ s₁ hfirst
  have hcleaned : ∀ {o₁}, Q first o₁ s₁ → (∀ a, o₁ ≠ .ok a) →
      ((cleanup s₁).bind fun r => .done (o₁, r.2)).Converses rest (o, s') →
        Q' (first ++ rest) o s' := by
    intro o₁ hQ hfailed hrest
    obtain ⟨⟨o₂, s₂⟩, second, last, rfl, hsecond, hlast⟩ := Program.converses_bind_iff.1 hrest
    obtain ⟨rfl, hlast⟩ := Program.converses_done_iff.1 hlast
    cases hlast
    rw [List.append_nil]
    exact clean first _ s₁ hQ hfailed second o₂ _ hsecond
  cases o₁ with
  | ok a =>
    obtain ⟨rfl, hrest⟩ := Program.converses_done_iff.1 hrest
    cases hrest
    rw [List.append_nil]
    exact ok first a _ hQ
  | error e => exact hcleaned hQ nofun hrest
  | fault w => exact hcleaned hQ nofun hrest

end Act

end ExpertExchange
