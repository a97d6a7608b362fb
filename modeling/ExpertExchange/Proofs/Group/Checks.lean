import ExpertExchange.Exchange.Scheduler
import ExpertExchange.Proofs.Act.Watched

/-!
# Checks only look

What collectives and exchanges do before their first transfer is to look at their arguments, at the
group and at the pool: over any transport this asks nothing and changes nothing. A check passes
where what it looks for is there.
-/

namespace ExpertExchange

variable {S : Service} {σ F E T ε α : Type} {X : Transport S σ T} {op : String} {dtype : Dtype}
  {b first : Buffer} {inputs outputs : List Buffer}

namespace Communicator

variable {q : σ × Communicator T}

lemma checkDevice_eq (h : b.device = X.device q.2.link) :
    checkDevice X b q = .done (.ok (), q) :=
  (Act.bind_done rfl).trans (Act.ensure_done h _ q)

lemma checkAlike_eq (h : ∀ b ∈ inputs, b.dtype = dtype ∧ b.device = X.device q.2.link) :
    checkAlike X op dtype inputs q = .done (.ok (), q) := by
  apply Act.forEach_done
  intro b hb
  obtain ⟨htype, hdevice⟩ := h b hb
  exact (Act.bind_done (checkDevice_eq hdevice)).trans (Act.ensure_done htype _ q)

lemma looks_checkDevice : (checkDevice X b).Looks := by
  refine .bind (.view _) ?_
  intro number
  exact .ensure _ _

lemma looks_checkAlike : (checkAlike X op dtype inputs).Looks := by
  refine .forEach ?_
  intro b
  refine .bind looks_checkDevice ?_
  intro _
  exact .ensure _ _

lemma looks_checkCounts :
    (checkCounts op first inputs : Act S (σ × Communicator T) ExchangeError Unit).Looks := by
  refine .forEach ?_
  intro b
  refine .bind (.ofOutcome _) ?_
  intro count
  refine .bind (.ofOutcome _) ?_
  intro expected
  exact .ensure _ _

lemma looks_checkCapacity (needed : Nat) :
    (checkCapacity op needed inputs : Act S (σ × Communicator T) ExchangeError Unit).Looks := by
  refine .forEach ?_
  intro b
  refine .bind (.ofOutcome _) ?_
  intro held
  exact .ensure _ _

lemma looks_checkBatch : (checkBatch X op inputs outputs).Looks := by
  refine .bind (.ensure _ _) ?_
  intro _
  cases inputs with
  | nil => exact .pure none
  | cons first rest =>
    refine .bind looks_checkAlike ?_
    intro _
    refine .bind looks_checkCounts ?_
    intro _
    exact .pure _

end Communicator

namespace Scheduler

lemma onComm_eq {m : Act S (σ × Communicator T) ε α} {e : Engine S σ F E T} {a : α}
    (h : m (commPart.get e) = .done (.ok a, commPart.get e)) : onComm m e = .done (.ok a, e) :=
  Act.within_done h

lemma looks_onComm {m : Act S (σ × Communicator T) ε α} (h : m.Looks) :
    (onComm m : Act S (Engine S σ F E T) ε α).Looks := .within h fun _ => rfl

lemma looks_plan {total stages slices : Nat} {direction : Direction} :
    (plan total stages slices direction : Act S (Engine S σ F E T) ExchangeError Split).Looks := by
  refine .bind (.view _) ?_
  intro s
  exact .ofOutcome _

lemma looks_checkStageBuffers {p : Split} :
    (checkStageBuffers op p dtype inputs : Act S (Engine S σ F E T) ExchangeError Unit).Looks := by
  refine .forEach ?_
  intro b
  refine .bind (.ofOutcome _) ?_
  intro bytes
  refine .ite (.pure ()) (.bind (.ofOutcome _) ?_)
  intro count
  exact .fail _

end Scheduler

end ExpertExchange
