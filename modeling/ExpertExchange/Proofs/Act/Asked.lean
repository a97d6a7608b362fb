import ExpertExchange.Proofs.Act.Conversed

/-!
# What an act asks

`Program.EndsAfter` says which requests a program makes before it ends, with some answers. An act
that `Asks` for certain things makes just these of the watched requests, whatever the answers.
-/

namespace ExpertExchange

namespace Program

variable {S : Service} {α β : Type}

/-- With some answers the program makes these requests and ends with this value. -/
inductive EndsAfter : List S.Request → Program S α → α → Prop where
  | done (a : α) : EndsAfter [] (.done a) a
  | ask {r : S.Request} {next : S.Answer r → Program S α} {requests : List S.Request} {a : α}
      (x : S.Answer r) (h : EndsAfter requests (next x) a) :
      EndsAfter (r :: requests) (.ask r next) a

lemma endsAfter_done {a b : α} {requests : List S.Request}
    (h : (done a : Program S α).EndsAfter requests b) : requests = [] ∧ b = a := by
  cases h
  exact ⟨rfl, rfl⟩

lemma endsAfter_bind {p : Program S α} {f : α → Program S β} {requests : List S.Request} {b : β}
    (h : (p.bind f).EndsAfter requests b) :
    ∃ first a rest, requests = first ++ rest ∧ p.EndsAfter first a ∧ (f a).EndsAfter rest b := by
  induction p generalizing requests with
  | done a => exact ⟨[], a, requests, rfl, .done a, h⟩
  | ask r next ih =>
    cases h with
    | ask x h =>
      obtain ⟨first, a, rest, rfl, hfirst, hrest⟩ := ih x h
      exact ⟨r :: first, a, rest, rfl, .ask x hfirst, hrest⟩

/-- The requests of a conversation. -/
lemma Converses.endsAfter {p : Program S α} {replies : List S.Reply} {a : α}
    (h : p.Converses replies a) : p.EndsAfter (replies.map (·.request)) a := by
  induction h with
  | done a => exact .done a
  | ask x _ ih => exact .ask x ih

end Program

namespace Act

variable {S : Service} {σ ε ε' α β γ : Type} {watch : S.Request → Option γ} {m : Act S σ ε α}
  {f : α → Act S σ ε β} {seen : List γ}

/-- Of the watched requests the act makes just these, in this order, whatever the answers. -/
def Asks (watch : S.Request → Option γ) (m : Act S σ ε α) (seen : List γ) : Prop :=
  ∀ s requests r, (m s).EndsAfter requests r → requests.filterMap watch = seen

lemma Asks.of_done (h : ∀ s, ∃ r, m s = .done r) : m.Asks watch [] := by
  intro s requests r hend
  obtain ⟨r', hr'⟩ := h s
  rw [hr'] at hend
  rw [(Program.endsAfter_done hend).1]
  rfl

lemma Asks.request (r : S.Request) :
    (Act.request r : Act S σ ε (S.Answer r)).Asks watch (watch r).toList := by
  intro s requests v hend
  cases hend with
  | ask x hend =>
    rw [(Program.endsAfter_done hend).1]
    cases h : watch r <;> simp [h]

/-- What follows makes no watched request. -/
lemma Asks.bind (hm : m.Asks watch seen) (hf : ∀ a, (f a).Asks watch []) :
    (m.bind f).Asks watch seen := by
  intro s requests r hend
  obtain ⟨first, ⟨o, s'⟩, rest, rfl, hfirst, hrest⟩ := Program.endsAfter_bind hend
  have hrest' : rest.filterMap watch = [] := by
    cases o with
    | ok a => exact hf a _ _ _ hrest
    | error e => rw [(Program.endsAfter_done hrest).1, List.filterMap_nil]
    | fault w => rw [(Program.endsAfter_done hrest).1, List.filterMap_nil]
  rw [List.filterMap_append, hm _ _ _ hfirst, hrest', List.append_nil]

lemma Asks.forEach {xs : List α} {f : α → Act S σ ε Unit}
    (hf : ∀ x ∈ xs, (f x).Asks watch []) : (Act.forEach xs f).Asks watch [] := by
  induction xs with
  | nil => exact .of_done fun s => ⟨_, rfl⟩
  | cons x xs ih =>
    refine .bind (hf x List.mem_cons_self) ?_
    intro _
    exact ih fun y hy => hf y (List.mem_cons_of_mem x hy)

lemma Asks.attempt (hm : m.Asks watch seen) :
    (m.attempt : Act S σ ε' (Outcome ε α)).Asks watch seen := by
  intro s requests r hend
  obtain ⟨first, a, rest, rfl, hfirst, hrest⟩ := Program.endsAfter_bind hend
  rw [(Program.endsAfter_done hrest).1, List.append_nil, hm _ _ _ hfirst]

lemma Asks.within {τ : Type} {p : Part τ σ} (hm : m.Asks watch seen) :
    (m.within p).Asks watch seen := by
  intro s requests r hend
  obtain ⟨first, a, rest, rfl, hfirst, hrest⟩ := Program.endsAfter_bind hend
  rw [(Program.endsAfter_done hrest).1, List.append_nil, hm _ _ _ hfirst]

lemma Asks.andFinally {cleanup : Act S σ ε Unit} (hm : m.Asks watch [])
    (hclean : cleanup.Asks watch seen) : (m.andFinally cleanup).Asks watch seen := by
  intro s requests r hend
  obtain ⟨first, a, rest, rfl, hfirst, hrest⟩ := Program.endsAfter_bind hend
  obtain ⟨clean, b, last, rfl, hcleaned, hlast⟩ := Program.endsAfter_bind hrest
  rw [(Program.endsAfter_done hlast).1, List.filterMap_append, List.append_nil, hm _ _ _ hfirst,
    hclean _ _ _ hcleaned, List.nil_append]

lemma Asks.tells (hm : m.Asks watch seen) (s : σ) :
    m.Tells s fun replies _ _ => replies.filterMap (fun r => watch r.request) = seen := by
  intro replies o s' hend
  rw [← hm s _ _ hend.endsAfter, List.filterMap_map]
  rfl

end Act

end ExpertExchange
