import ExpertExchange.Group.Network

/-!
# Participants at work

Several programs run at once over one network. At any time one of those whose request is ready gets
its answer; which one is left open by `Step`, and every choice is an interleaving. `run` is one of
them: it always advances the first participant that can go on, and lets the first one that waits
give up only when nobody can go on.
-/

namespace ExpertExchange

namespace Program

variable {S : Service} {α : Type}

/-- One program is what is left of another after the answer to its first request. -/
inductive Child : Program S α → Program S α → Prop where
  | answered (r : S.Request) (next : S.Answer r → Program S α) (x : S.Answer r) :
      Child (next x) (.ask r next)

theorem child_accessible (p : Program S α) : Acc Child p := by
  induction p with
  | done a => exact ⟨_, fun q h => nomatch h⟩
  | ask r next ih => exact ⟨_, fun q h => by cases h with | answered _ _ x => exact ih x⟩

/-- One of several programs got an answer. -/
inductive OneChild : List (Program S α) → List (Program S α) → Prop where
  | here {p q : Program S α} {rest : List (Program S α)} (h : Child p q) :
      OneChild (p :: rest) (q :: rest)
  | later {p : Program S α} {ps qs : List (Program S α)} (h : OneChild ps qs) :
      OneChild (p :: ps) (p :: qs)

theorem oneChild_accessible (ps : List (Program S α)) : Acc OneChild ps := by
  induction ps with
  | nil => exact ⟨_, fun q h => nomatch h⟩
  | cons p rest ih =>
    induction child_accessible p generalizing rest with
    | intro p _ ihp =>
      induction ih with
      | intro rest hrest ihr =>
        refine ⟨_, fun q h => ?_⟩
        cases h with
        | here hc => exact ihp _ hc _ ⟨_, hrest⟩
        | later ho => exact ihr _ ho

instance : WellFoundedRelation (List (Program S α)) := ⟨OneChild, ⟨oneChild_accessible⟩⟩

end Program

/-- Programs of several participants, in order, and the network between them. -/
structure Crowd (ρ : Type) where
  programs : List (Program Net ρ)
  network : Network

namespace Crowd

variable {ρ : Type}

/-- A participant whose request is ready gets its answer. -/
inductive Step : Crowd ρ → Crowd ρ → Prop where
  | answered (before after : List (Program Net ρ)) (r : Net.Request)
      (next : Net.Answer r → Program Net ρ) (n : Network) (h : n.ready r = true) :
      Step ⟨before ++ .ask r next :: after, n⟩
        ⟨before ++ next (Network.answer r n).1 :: after, (Network.answer r n).2⟩

/-- Give the first participant whose request passes the test its answer. -/
def advance? (test : Net.Request → Bool) (n : Network) :
    List (Program Net ρ) → Option (List (Program Net ρ) × Network)
  | [] => none
  | .done a :: rest => (advance? test n rest).map fun r => (.done a :: r.1, r.2)
  | .ask r next :: rest =>
    if test r then some (next (Network.answer r n).1 :: rest, (Network.answer r n).2)
    else (advance? test n rest).map fun s => (.ask r next :: s.1, s.2)

theorem oneChild_of_advance? {test : Net.Request → Bool} {n : Network}
    {ps : List (Program Net ρ)} {s : List (Program Net ρ) × Network}
    (h : advance? test n ps = some s) : Program.OneChild s.1 ps := by
  induction ps generalizing s with
  | nil => simp [advance?] at h
  | cons p rest ih =>
    cases p with
    | done a =>
      simp only [advance?, Option.map_eq_some_iff] at h
      obtain ⟨t, ht, rfl⟩ := h
      exact .later (ih ht)
    | ask r next =>
      simp only [advance?] at h
      split at h
      · cases h
        exact .here (.answered r next _)
      · simp only [Option.map_eq_some_iff] at h
        obtain ⟨t, ht, rfl⟩ := h
        exact .later (ih ht)

/-- Advance a participant that need not wait, else let one that waits give up. -/
def next? (ps : List (Program Net ρ)) (n : Network) : Option (List (Program Net ρ) × Network) :=
  match advance? n.ready n ps with
  | some s => some s
  | none => advance? (fun _ => true) n ps

theorem oneChild_of_next? {ps : List (Program Net ρ)} {n : Network}
    {s : List (Program Net ρ) × Network} (h : next? ps n = some s) :
    Program.OneChild s.1 ps := by
  unfold next? at h
  split at h
  · rename_i t ht
    cases h
    exact oneChild_of_advance? ht
  · exact oneChild_of_advance? h

def run (ps : List (Program Net ρ)) (n : Network) : List (Program Net ρ) × Network :=
  match h : next? ps n with
  | some s =>
    have : Program.OneChild s.1 ps := oneChild_of_next? h
    run s.1 s.2
  | none => (ps, n)
termination_by ps
decreasing_by exact this

def values (ps : List (Program Net ρ)) : List ρ :=
  ps.filterMap fun
    | .done a => some a
    | .ask _ _ => none

end Crowd

end ExpertExchange
