import ExpertExchange.Exchange.Scheduler
import ExpertExchange.Proofs.Host.Contents
import ExpertExchange.Proofs.Host.RoundOrder

/-!
# What a process writes down

The journal of a process is its trace and what its log says of slots that were used out of turn.
Acts only append to the trace; what they append is known up to a property of single operations, or
exactly.
-/

namespace ExpertExchange

/-- The record says that a slot was used out of turn. -/
def LogRecord.isMisuse (r : LogRecord) : Bool := decide (r.level = .warn ∧ r.origin = .slots)

/-- The trace, and the records of slots used out of turn. -/
structure Journal where
  trace : Trace
  misuses : List LogRecord

def Journal.write (j : Journal) (seg : Trace) : Journal := { j with trace := j.trace ++ seg }

lemma Journal.write_nil (j : Journal) : j.write [] = j := by
  rw [write, List.append_nil]

lemma Journal.write_write (j : Journal) (seg seg' : Trace) :
    (j.write seg).write seg' = j.write (seg ++ seg') := by
  rw [write, write, write, List.append_assoc]

def Journal.Adds (p : TraceEvent → Prop) (j : Journal) (_ : Ending) (j' : Journal) : Prop :=
  ∃ seg : Trace, (∀ e ∈ seg, p e) ∧ j' = j.write seg

lemma Journal.adds_self (p : TraceEvent → Prop) (j : Journal) (ending : Ending) :
    j.Adds p ending j := ⟨[], nofun, j.write_nil.symm⟩

lemma Journal.chains_adds (p : TraceEvent → Prop) : Chains (Journal.Adds p) := by
  constructor
  · intro j
    exact adds_self p j .ok
  · rintro j j₁ j₂ e ⟨seg, hseg, rfl⟩ ⟨seg', hseg', rfl⟩
    refine ⟨seg ++ seg', ?_, write_write j seg seg'⟩
    intro x hx
    rcases List.mem_append.1 hx with hx | hx
    · exact hseg x hx
    · exact hseg' x hx

/-- Acts that write nothing, and then others. -/
lemma Journal.adds_after {S : Service} {σ ε α β : Type} {watch : σ → Journal}
    {p : TraceEvent → Prop} {m : Act S σ ε α} {f : α → Act S σ ε β} (hm : m.Spares watch)
    (hf : ∀ a, (f a).Changes watch (Journal.Adds p)) :
    (m.bind f).Changes watch (Journal.Adds p) :=
  .bind (chains_adds p) (hm.changes (adds_self p)) hf

namespace HostState

def journal (s : HostState) : Journal := ⟨s.trace, s.log.filter (·.isMisuse)⟩

/-- Moving bytes leaves nothing in the journal. -/
lemma contentless_journal : Contentless journal := fun _ _ _ => rfl

lemma journal_note (s : HostState) (e : TraceEvent) : (s.note e).journal = s.journal.write [e] :=
  rfl

/-- Other records are no part of the journal. -/
lemma journal_report (s : HostState) {r : LogRecord} (hr : r.isMisuse = false) :
    (s.report r).journal = s.journal := by
  simp [journal, report, hr]

end HostState

namespace SimulatedLink

open HostState

variable {b : Buffer} {range : ByteRange} {peer : Nat} {s : HostState × SimulatedLink}
  {p : TraceEvent → Prop}

def linkJournal (s : HostState × SimulatedLink) : Journal := s.1.journal

lemma adds_note {e : TraceEvent} (he : p e) : (note e).Changes linkJournal (Journal.Adds p) := by
  intro s
  refine .of_done rfl ⟨[e], ?_, journal_note s.1 e⟩
  intro x hx
  rw [List.mem_singleton.1 hx]
  exact he

lemma gives_groupStart : groupStart.Gives s fun _ s' =>
    linkJournal s' = (linkJournal s).write [.groupStart] := .of_done rfl rfl

lemma gives_note (e : TraceEvent) : (note e).Gives s fun _ s' =>
    linkJournal s' = (linkJournal s).write [e] := .of_done rfl rfl

lemma gives_groupEnd : groupEnd.Gives s fun _ s' =>
    linkJournal s' = (linkJournal s).write [.groupEnd] := by
  have hlink : link.Gives s fun l s₁ => l = s.2 ∧ s = s₁ := .of_done rfl ⟨rfl, rfl⟩
  refine .bind hlink ?_
  rintro _ _ ⟨rfl, rfl⟩
  have hopened : ∀ f : HostState × SimulatedLink → HostState × SimulatedLink,
      (∀ s, (f s).1 = s.1) → (Act.modify f : LinkAct Unit).Gives s fun _ s₁ =>
        linkJournal s₁ = linkJournal s :=
    fun f hf => .of_done rfl (congrArg HostState.journal (hf s))
  rcases s.2.depth with _ | _ | depth
  · exact .of_failed rfl nofun
  · refine .bind (hopened _ ?_) ?_
    · intro _
      rfl
    intro _ s₁ h₁
    refine .bind (gives_note _) ?_
    intro _ s₂ h₂
    have hspared := contentless_beside contentless_journal
    refine (Act.Spares.gives (.forEach fun t _ => spares_perform hspared t) s₂).mono ?_
    intro _ s₃ h₃
    exact h₃.trans (h₂.trans (by rw [h₁]))
  · refine .bind (hopened _ ?_) ?_
    · intro _
      rfl
    intro _ s₁ h₁
    refine (gives_note _).mono ?_
    intro _ s₂ h₂
    exact h₂.trans (by rw [h₁])

/-- A round that succeeds, in the journal. -/
lemma gives_inRound [TensorLibrary] {transfers : LinkAct Unit} {kind : StreamKind}
    (h : transfers.Changes linkJournal (Journal.Adds (·.IsTransfer kind))) :
    (Communicator.inRound transport transfers).Gives s fun _ s' =>
      ∃ seg : Trace, (∀ e ∈ seg, e.IsTransfer kind) ∧
        linkJournal s' = (linkJournal s).write (.groupStart :: seg ++ [.groupEnd]) := by
  refine .bind gives_groupStart ?_
  intro _ s₁ h₁
  refine .bind (h.gives s₁) ?_
  rintro _ s₂ ⟨seg, hseg, h₂⟩
  refine gives_groupEnd.mono ?_
  intro _ s₃ h₃
  refine ⟨seg, hseg, ?_⟩
  rw [h₃, h₂, h₁, Journal.write_write, Journal.write_write]
  rfl

end SimulatedLink

end ExpertExchange
