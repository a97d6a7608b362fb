import ExpertExchange.Proofs.Exchange.Layout
import ExpertExchange.Proofs.Exchange.Participant
import ExpertExchange.Proofs.Exchange.Turns
import ExpertExchange.Proofs.Group.Checks
import ExpertExchange.Proofs.Host.PhaseOrder
import ExpertExchange.Proofs.Kernel.Launched

/-!
# The choreography of a pipelined exchange

What a scatter and a gather write into the journal when they succeed, and which slots they leave
released. A scatter takes slot 0 and releases the slots of its stages; a gather takes those and
releases slot 0. Neither gives cause for a warning.
-/

namespace ExpertExchange

namespace Scheduler

open HostState SimulatedLink

variable {devices stages index : Nat} {out out' : Nat → Prop} {j : Journal} {seg : Trace}
  {e e' : HostEngine} {α : Type} {p : TraceEvent → Prop} {split : Split} {str : Stream}
  {input output b : Buffer} {inputs outputs : List Buffer}

/-- What a participant has in its journal, which slots of its pool are released, and that its
compilers leave the journal alone. -/
structure Stands (out : Nat → Prop) (j : Journal) (e : HostEngine) : Prop where
  journal : e.1.journal = j
  pool : Slots.Pool out e.2.2.slots
  quiet : ∀ c ∈ e.2.1.compilers, c.Quiet

lemma Stands.congr (h : Stands out j e) (hout : ∀ k, out' k ↔ out k) : Stands out' j e :=
  ⟨h.journal, h.pool.congr hout, h.quiet⟩

/-- After an act on the slots. -/
lemma Stands.slots {m : Act Net (HostState × Slots HostEvent) ExchangeError α}
    (h : Stands out j e)
    (hm : m.Gives (slotsPart.get e) fun _ q' =>
      Slots.slotsJournal q' = (Slots.slotsJournal (slotsPart.get e)).write seg ∧
        Slots.Pool out' q'.2) :
    (onSlots m).Gives e fun _ e' => Stands out' (j.write seg) e' := by
  refine .within (hm.mono ?_)
  rintro _ q' ⟨hjournal, hpool⟩
  refine ⟨?_, hpool, h.quiet⟩
  rw [← h.journal]
  exact hjournal

lemma Stands.release (h : Stands out j e) (hidle : ¬ out index) :
    (onSlots (Slots.release (Host.platform devices) index str)).Gives e fun _ e' =>
      Stands (fun k => k = index ∨ out k) (j.write [.eventRecord index str.kind]) e' :=
  h.slots (Slots.gives_release h.pool hidle)

lemma Stands.acquire (h : Stands out j e) (hreleased : out index) :
    (onSlots (Slots.acquire (Host.platform devices) index str [])).Gives e fun _ e' =>
      Stands (fun k => k ≠ index ∧ out k) (j.write [.eventWait index str.kind]) e' :=
  h.slots (Slots.gives_acquire h.pool hreleased [])

/-- After a round. -/
lemma Stands.round [TensorLibrary] {transfers : LinkAct Unit} {kind : StreamKind}
    (h : Stands out j e)
    (htransfers : transfers.Changes linkJournal (Journal.Adds (·.IsTransfer kind))) :
    (onLink (Communicator.inRound transport transfers)).Gives e fun _ e' =>
      ∃ seg : Trace, (∀ x ∈ seg, x.IsTransfer kind) ∧
        Stands out (j.write (.groupStart :: seg ++ [.groupEnd])) e' := by
  refine .within ((gives_inRound htransfers).mono ?_)
  rintro _ q ⟨seg, hseg, hjournal⟩
  refine ⟨seg, hseg, ?_, h.pool, h.quiet⟩
  rw [← h.journal]
  exact hjournal

/-- The stream of a kind. -/
lemma gives_stream [TensorLibrary] (kind : StreamKind) :
    (stream (Host.platform devices : Platform Net _ _ _) transport kind).Gives e fun str e' =>
      str.kind = kind ∧ e = e' := by
  have hdevice : (Communicator.device transport : Act Net (HostState × Communicator SimulatedLink)
      ExchangeError Nat).Gives (commPart.get e) fun _ q => commPart.get e = q := .of_done rfl rfl
  refine .within (.bind hdevice ?_)
  rintro device _ rfl
  refine .within (.mapError ((Host.gives_stream device kind).mono ?_))
  rintro str s ⟨hkind, rfl⟩
  exact ⟨hkind, rfl⟩

lemma spares_release : ((Host.platform devices : Platform Net _ _ _).release b).Spares journal :=
  .pure ()

variable [TensorLibrary]

end Scheduler

end ExpertExchange
