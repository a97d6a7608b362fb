import ExpertExchange.Proofs.Group.Checks
import ExpertExchange.Proofs.Host.Account

/-!
# What collectives touch

A collective touches the buffers it is given, on the compute stream, and registers that stream with
none of them: whether the stream uses a buffer afterwards depends only on whether it did before.
-/

namespace ExpertExchange

namespace SimulatedLink

open Host HostState Transport

variable {α : Type} {A : Touch → Prop} {b input output : Buffer} {range : ByteRange}
  {peer root : Nat} {stream : Stream}

def linkAccount (q : Noted × SimulatedLink) : Account := account q.1

lemma spares_unnoted {m : LinkAct α} (hm : m.Spares (beside roll)) :
    (m.within unnoted).Spares linkAccount :=
  Act.Changes.part hm fun q _ _ h => congrArg (·, q.1.2) h

/-- An operation that leaves the roll alone touches its buffer. -/
lemma touches_touching {m : LinkAct Unit} (hm : m.Spares (beside roll)) (hA : A ⟨b, stream⟩) :
    (touching b stream m).Changes linkAccount (Account.Touches A) := by
  have hnoted : (noteTouches [⟨b, stream⟩] : Act Net Noted ExchangeError Unit).Changes account
      (Account.Touches A) := by
    refine touches_noteTouches ?_
    intro t ht
    rw [List.mem_singleton.1 ht]
    exact hA
  refine .bind (Account.chains_touches A) ?_ ?_
  · exact .within hnoted (fun _ => rfl) fun _ _ => rfl
  · intro _
    exact (spares_unnoted hm).changes (Account.touches_self A)

variable [TensorLibrary]

lemma touches_send (hA : A ⟨b, stream⟩) : (transport.noted.send b range peer stream).Changes
    linkAccount (Account.Touches A) :=
  touches_touching (spares_send contentless_roll traceless_roll _) hA

lemma touches_recv (hA : A ⟨b, stream⟩) : (transport.noted.recv b range peer stream).Changes
    linkAccount (Account.Touches A) :=
  touches_touching (spares_recv contentless_roll traceless_roll _) hA

/-- A round touches what its transfers touch. -/
lemma touches_inRound {transfers : Act Net (Noted × SimulatedLink) ExchangeError Unit}
    (h : transfers.Changes linkAccount (Account.Touches A)) :
    (Communicator.inRound transport.noted transfers).Changes linkAccount (Account.Touches A) := by
  have hchains := Account.chains_touches A
  have hself := Account.touches_self A
  refine .bind hchains ((spares_unnoted (spares_groupStart traceless_roll)).changes hself) ?_
  intro _
  refine .bind hchains h ?_
  intro _
  exact (spares_unnoted (spares_groupEnd contentless_roll traceless_roll)).changes hself

end SimulatedLink

namespace Communicator

open Host HostState SimulatedLink

variable {α β : Type} {A : Touch → Prop} {b input output : Buffer} {stream : Stream}
  {size own devices : Nat} {op : String} {inputs outputs : List Buffer}

def TouchesOn (kind : StreamKind) (buffers : List Buffer) (t : Touch) : Prop :=
  t.stream.kind = kind ∧ t.buffer ∈ buffers

def commAccount (q : Noted × Communicator SimulatedLink) : Account := account q.1

lemma touches_exchangeParts [TensorLibrary] (hinput : A ⟨input, stream⟩)
    (houtput : A ⟨output, stream⟩) (peer sent received : Nat) (sizes : List (Nat × Nat)) :
    (exchangeParts transport.noted stream size input output peer sent received sizes).Changes
      linkAccount (Account.Touches A) := by
  induction sizes generalizing peer sent received with
  | nil => exact .pure (Account.chains_touches A) ()
  | cons part rest ih =>
    refine .bind (Account.chains_touches A) (touches_send hinput) ?_
    intro _
    refine .bind (Account.chains_touches A) (touches_recv houtput) ?_
    intro _
    exact ih _ _ _

lemma touches_ite {p : Prop} [Decidable p]
    {m : Act Net (Noted × SimulatedLink) ExchangeError Unit}
    (h : m.Changes linkAccount (Account.Touches A)) :
    (if p then m else pure ()).Changes linkAccount (Account.Touches A) := by
  by_cases hp : p
  · rw [if_pos hp]
    exact h
  · rw [if_neg hp]
    exact .pure (Account.chains_touches A) ()

lemma touches_gatherParts [TensorLibrary] (hinput : A ⟨input, stream⟩)
    (houtput : A ⟨output, stream⟩) (peer received : Nat) (sizes : List Nat) :
    (gatherParts transport.noted stream size own input output peer received sizes).Changes
      linkAccount (Account.Touches A) := by
  induction sizes generalizing peer received with
  | nil => exact .pure (Account.chains_touches A) ()
  | cons count rest ih =>
    refine .bind (Account.chains_touches A) (touches_ite (touches_send hinput)) ?_
    intro _
    refine .bind (Account.chains_touches A) (touches_ite (touches_recv houtput)) ?_
    intro _
    exact ih _ _

lemma touches_onLink {m : Act Net (Noted × SimulatedLink) ExchangeError Unit}
    (h : m.Changes linkAccount (Account.Touches A)) :
    (onLink m).Changes commAccount (Account.Touches A) :=
  .within h (fun _ => rfl) fun _ _ => rfl

/-- After a look. -/
lemma touches_after {m : Act Net (Noted × Communicator SimulatedLink) ExchangeError α}
    {f : α → Act Net (Noted × Communicator SimulatedLink) ExchangeError β} (hm : m.Looks)
    (hf : ∀ a, (f a).Changes commAccount (Account.Touches A)) :
    (m.bind f).Changes commAccount (Account.Touches A) :=
  .bind (Account.chains_touches A) (hm.spares.changes (Account.touches_self A)) hf

variable [TensorLibrary]

lemma looks_notedStream (kind : StreamKind) :
    (Communicator.stream (Host.platform devices).noted transport.noted kind).Looks := by
  refine .bind (.view _) ?_
  intro number
  exact .within (.mapError (Host.looks_stream number kind)) fun _ => rfl

lemma gives_kind (kind : StreamKind) (q : Noted × Communicator SimulatedLink) :
    (Communicator.stream (Host.platform devices).noted transport.noted kind).Gives q
      fun str _ => str.kind = kind := by
  have hdevice : (Communicator.device transport.noted : Act Net (Noted × Communicator SimulatedLink)
      ExchangeError Nat).Gives q fun _ _ => True := .of_done rfl trivial
  refine .bind hdevice ?_
  intro number q₁ _
  exact .within (.mapError (Host.gives_kind number kind q₁.1))

/-- After a look for the stream of a kind. -/
lemma touches_onStream {kind : StreamKind}
    {f : Stream → Act Net (Noted × Communicator SimulatedLink) ExchangeError β}
    (hf : ∀ str, str.kind = kind → (f str).Changes commAccount (Account.Touches A)) :
    ((Communicator.stream (Host.platform devices).noted transport.noted kind).bind f).Changes
      commAccount (Account.Touches A) := by
  intro q
  refine (looks_notedStream kind).before (Account.touches_self A) ?_
  intro str hend
  exact hf str (gives_kind kind q str q hend) q

/-- A batched all-to-all touches its inputs and outputs on the compute stream. -/
theorem touches_allToAll (inSizes outSizes : List Nat) :
    (allToAll (Host.platform devices).noted transport.noted inputs outputs inSizes
      outSizes).Changes commAccount
        (Account.Touches (TouchesOn .compute (inputs ++ outputs))) := by
  refine touches_after (.view _) ?_
  intro place
  refine touches_after (.ofOutcome _) ?_
  intro _
  refine touches_after (.ofOutcome _) ?_
  intro _
  refine touches_after looks_checkBatch ?_
  intro dtype?
  cases dtype? with
  | none => exact .pure (Account.chains_touches _) ()
  | some dtype =>
    refine touches_after (.ofOutcome _) ?_
    intro sent
    refine touches_after (looks_checkCapacity _) ?_
    intro _
    refine touches_after (.ofOutcome _) ?_
    intro received
    refine touches_after (looks_checkCapacity _) ?_
    intro _
    refine touches_onStream ?_
    intro compute hkind
    refine .forEach (Account.chains_touches _) ?_
    rintro ⟨input, output⟩ hpair
    obtain ⟨hinput, houtput⟩ := List.of_mem_zip hpair
    refine touches_onLink (touches_inRound (touches_exchangeParts ?_ ?_ _ _ _ _))
    · exact ⟨hkind, List.mem_append_left _ hinput⟩
    · exact ⟨hkind, List.mem_append_right _ houtput⟩

/-- A batched all-gather touches its inputs and outputs on the compute stream. -/
theorem touches_allGather (sizes : List Nat) :
    (allGather (Host.platform devices).noted transport.noted inputs outputs sizes).Changes
      commAccount (Account.Touches (TouchesOn .compute (inputs ++ outputs))) := by
  refine touches_after (.view _) ?_
  intro place
  refine touches_after (.ofOutcome _) ?_
  intro _
  refine touches_after looks_checkBatch ?_
  intro dtype?
  cases dtype? with
  | none => exact .pure (Account.chains_touches _) ()
  | some dtype =>
    refine touches_after (.ofOutcome _) ?_
    intro own
    refine touches_after (.ofOutcome _) ?_
    intro received
    refine touches_after (looks_checkCapacity _) ?_
    intro _
    refine touches_after (looks_checkCapacity _) ?_
    intro _
    refine touches_onStream ?_
    intro compute hkind
    refine .forEach (Account.chains_touches _) ?_
    rintro ⟨input, output⟩ hpair
    obtain ⟨hinput, houtput⟩ := List.of_mem_zip hpair
    refine touches_onLink (touches_inRound (touches_gatherParts ?_ ?_ _ _ _))
    · exact ⟨hkind, List.mem_append_left _ hinput⟩
    · exact ⟨hkind, List.mem_append_right _ houtput⟩

/-- A broadcast touches its buffer on the compute stream. -/
theorem touches_broadcast (root : Nat) :
    (broadcast (Host.platform devices).noted transport.noted b root).Changes commAccount
      (Account.Touches (TouchesOn .compute [b])) := by
  refine touches_after (.view _) ?_
  intro place
  refine touches_after (.ensure _ _) ?_
  intro _
  refine touches_after looks_checkDevice ?_
  intro _
  refine touches_onStream ?_
  intro compute hkind
  have hspared := spares_broadcast (b := b) (contentless_beside contentless_roll)
    (traceless_beside traceless_roll) root
  exact touches_onLink (touches_touching hspared ⟨hkind, List.mem_singleton_self b⟩)

/-- A sum touches its buffer on the compute stream. -/
theorem touches_allReduce :
    (allReduce (Host.platform devices).noted transport.noted b).Changes commAccount
      (Account.Touches (TouchesOn .compute [b])) := by
  refine touches_after looks_checkDevice ?_
  intro _
  refine touches_onStream ?_
  intro compute hkind
  have hspared := spares_allReduce (b := b) (contentless_beside contentless_roll)
    (traceless_beside traceless_roll)
  exact touches_onLink (touches_touching hspared ⟨hkind, List.mem_singleton_self b⟩)

end Communicator

end ExpertExchange
