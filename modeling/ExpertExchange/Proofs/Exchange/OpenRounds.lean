import ExpertExchange.Exchange.Scheduler
import ExpertExchange.Nccl.Backend
import ExpertExchange.Proofs.Group.Tallied

/-!
# Rounds that stay open

The exchanges of the scheduler and the batched exchanges of its communicator, over any transport
whose calls may each succeed or fail. A call closes every round it has opened but one: the first
transfer that fails ends the call inside its round, and nothing closes that round.
-/

namespace ExpertExchange

namespace Scheduler

open Communicator Transport

variable {S : Service} {σ F E T α : Type} {P : Platform S σ F E} {X : Transport S σ T}
  {p : Split} {input output : Buffer} {inputs outputs : List Buffer} {str : Stream}
  {stage j : Nat} {h : Hierarchy}

lemma errorless_span (offset len : Nat) :
    (ByteRange.span offset len : Outcome ExchangeError ByteRange).Errorless := by
  refine .bind (.orFault _) ?_
  intro stop
  exact .ok _

lemma errorless_peer : (p.peer j : Outcome ExchangeError Nat).Errorless := by
  refine .bind (.orFault _) ?_
  intro n
  exact .ok _

lemma errorless_fusedRange :
    (p.fusedRange j stage : Outcome ExchangeError ByteRange).Errorless := by
  refine .bind (.orFault _) ?_
  intro before
  refine .bind (.orFault _) ?_
  intro index
  refine .bind (.orFault _) ?_
  intro offset
  exact errorless_span _ _

lemma errorless_stageRange : (p.stageRange j : Outcome ExchangeError ByteRange).Errorless := by
  refine .bind (.orFault _) ?_
  intro offset
  exact errorless_span _ _

lemma errorless_intraPeer (g : Nat) : (h.intraPeer g : Outcome ExchangeError Nat).Errorless := by
  refine .bind (.orFault _) ?_
  intro base
  exact .orFault _

lemma errorless_interPeer (n : Nat) : (h.interPeer n : Outcome ExchangeError Nat).Errorless := by
  refine .bind (.orFault _) ?_
  intro base
  exact .orFault _

lemma errorless_block (count index : Nat) :
    (h.block count index : Outcome ExchangeError ByteRange).Errorless := by
  refine .bind (.orFault _) ?_
  intro len
  refine .bind (.orFault _) ?_
  intro offset
  exact errorless_span _ _

/-- What is computed before a transfer, and is no error. -/
lemma transferred_after {o : Outcome ExchangeError α}
    {f : α → Act S (σ × (T × Tally)) ExchangeError Unit} (ho : o.Errorless)
    (hf : ∀ a, (f a).Changes tally Tally.Transferred) :
    ((Act.ofOutcome o).bind f).Changes tally Tally.Transferred := by
  refine .bind Tally.chains_transferred (.ofOutcome ?_) hf
  intro t
  cases o with
  | ok a => exact Tally.chains_transferred.refl t
  | error e => exact absurd rfl ho
  | fault w => exact ⟨rfl, rfl, Nat.le_succ _⟩

lemma transferred_exchangeRanges {peer : Outcome ExchangeError Nat}
    {sent received : Outcome ExchangeError ByteRange} (hpeer : peer.Errorless)
    (hsent : sent.Errorless) (hreceived : received.Errorless) :
    (exchangeRanges X.tallied input output str peer sent received).Changes tally
      Tally.Transferred := by
  refine transferred_after hpeer ?_
  intro rank
  refine transferred_after hsent ?_
  intro part
  refine .bind Tally.chains_transferred (transferred_transfer _) ?_
  intro _
  refine transferred_after hreceived ?_
  intro part
  exact transferred_transfer _

lemma transferred_exchangeBlock {peer : Outcome ExchangeError Nat}
    {range : Outcome ExchangeError ByteRange} (hpeer : peer.Errorless) (hrange : range.Errorless) :
    (exchangeBlock X.tallied input output str peer range).Changes tally Tally.Transferred := by
  rw [exchangeBlock_eq]
  exact transferred_exchangeRanges hpeer hrange hrange

def engineTally (s : Engine S σ F E (T × Tally)) : Tally := s.2.2.comm.link.2

/-- A call that closes all rounds it opens, except one in which a transfer fails. -/
abbrev ClosesRounds (m : Act S (Engine S σ F E (T × Tally)) ExchangeError α) : Prop :=
  m.Changes engineTally Tally.Settled

lemma closesRounds_of_spares {m : Act S (Engine S σ F E (T × Tally)) ExchangeError α}
    (hm : m.Spares engineTally) : ClosesRounds m := hm.changes Tally.settled_self

lemma closesRounds_after {m : Act S (Engine S σ F E (T × Tally)) ExchangeError α} {β : Type}
    {f : α → Act S (Engine S σ F E (T × Tally)) ExchangeError β} (hm : m.Spares engineTally)
    (hf : ∀ a, ClosesRounds (f a)) : ClosesRounds (m.bind f) :=
  .bind Tally.chains_settled (closesRounds_of_spares hm) hf

lemma spares_onPlatform (m : Act S σ DeviceError α) :
    (onPlatform m : Act S (Engine S σ F E (T × Tally)) ExchangeError α).Spares engineTally :=
  .within _ fun _ _ => rfl

lemma spares_onSlots (m : Act S (σ × Slots E) ExchangeError α) :
    (onSlots m : Act S (Engine S σ F E (T × Tally)) ExchangeError α).Spares engineTally :=
  .within _ fun _ _ => rfl

lemma spares_onComm {m : Act S (σ × Communicator (T × Tally)) ExchangeError α}
    (hm : m.Spares commTally) :
    (onComm m : Act S (Engine S σ F E (T × Tally)) ExchangeError α).Spares engineTally :=
  Act.Changes.within hm (fun _ => rfl) fun _ _ => rfl

lemma closesRounds_onComm {m : Act S (σ × Communicator (T × Tally)) ExchangeError α}
    (hm : m.Changes commTally Tally.Settled) :
    ClosesRounds (onComm m : Act S (Engine S σ F E (T × Tally)) ExchangeError α) :=
  .within hm (fun _ => rfl) fun _ _ => rfl

lemma closesRounds_round {transfers : Act S (σ × (T × Tally)) ExchangeError Unit}
    (h : transfers.Changes tally Tally.Transferred) :
    ClosesRounds (onLink (inRound X.tallied transfers) :
      Act S (Engine S σ F E (T × Tally)) ExchangeError Unit) :=
  .within (settled_inRound h) (fun _ => rfl) fun _ _ => rfl

lemma spares_stream (kind : StreamKind) : (stream P X.tallied kind).Spares engineTally :=
  spares_onComm (Communicator.spares_stream kind)

lemma closesRounds_scatterStage :
    ClosesRounds (scatterStage P X.tallied p input outputs str stage) := by
  refine closesRounds_after (.ofOutcome _) ?_
  intro output
  refine .bind Tally.chains_settled (closesRounds_round ?_) ?_
  · exact .forEach Tally.chains_transferred fun j _ =>
      transferred_exchangeRanges errorless_peer errorless_fusedRange errorless_stageRange
  · intro _
    exact closesRounds_of_spares (spares_onSlots _)

lemma closesRounds_scatter (shape : List Nat) (stages slices : Nat) (direction : Direction) :
    ClosesRounds (scatter P X.tallied input shape stages slices direction) := by
  refine closesRounds_after (looks_onComm looks_checkDevice).spares ?_
  intro _
  refine closesRounds_after (.ofOutcome _) ?_
  intro total
  refine closesRounds_after looks_plan.spares ?_
  intro p
  refine closesRounds_after (.ofOutcome _) ?_
  intro _
  refine closesRounds_after (spares_stream _) ?_
  intro comm
  refine closesRounds_after (spares_stream _) ?_
  intro compute
  refine closesRounds_after (spares_onPlatform _) ?_
  intro _
  refine closesRounds_after (spares_onPlatform _) ?_
  intro outputs
  refine .bind Tally.chains_settled (.orElseClean ?_ (spares_onPlatform _)) ?_
  · refine closesRounds_after (spares_onSlots _) ?_
    intro _
    exact .forEach Tally.chains_settled fun stage _ => closesRounds_scatterStage
  · intro _
    exact .pure Tally.chains_settled _

lemma closesRounds_gatherStage :
    ClosesRounds (gatherStage P X.tallied p inputs output str stage) := by
  refine closesRounds_after (.ofOutcome _) ?_
  intro input
  refine closesRounds_after (spares_onSlots _) ?_
  intro _
  refine closesRounds_round ?_
  exact .forEach Tally.chains_transferred fun j _ =>
    transferred_exchangeRanges errorless_peer errorless_stageRange errorless_fusedRange

lemma closesRounds_gather (shape : List Nat) (stages slices : Nat) (direction : Direction) :
    ClosesRounds (gather P X.tallied inputs shape stages slices direction) := by
  refine closesRounds_after (.ensure _ _) ?_
  intro _
  cases inputs with
  | nil => exact closesRounds_of_spares (.fail _)
  | cons first rest =>
    refine closesRounds_after (looks_onComm looks_checkAlike).spares ?_
    intro _
    refine closesRounds_after (.ofOutcome _) ?_
    intro total
    refine closesRounds_after looks_plan.spares ?_
    intro p
    refine closesRounds_after looks_checkStageBuffers.spares ?_
    intro _
    refine closesRounds_after (spares_stream _) ?_
    intro comm
    refine closesRounds_after (spares_stream _) ?_
    intro compute
    refine closesRounds_after (.forEach fun b _ => spares_onPlatform _) ?_
    intro _
    refine closesRounds_after (spares_onPlatform _) ?_
    intro output
    refine .bind Tally.chains_settled (.orElseClean ?_ (spares_onPlatform _)) ?_
    · refine closesRounds_after (spares_onPlatform _) ?_
      intro _
      refine .bind Tally.chains_settled ?_ ?_
      · exact .forEach Tally.chains_settled fun stage _ => closesRounds_gatherStage
      · intro _
        exact closesRounds_of_spares (spares_onSlots _)
    · intro _
      exact .pure Tally.chains_settled _

lemma spares_noteFlat :
    (noteFlat P h : Act S (Engine S σ F E (T × Tally)) ExchangeError Unit).Spares engineTally := by
  refine .bind (.view _) ?_
  intro fired
  refine .bind (.modify fun _ => rfl) ?_
  intro _
  exact .ite (.within _ fun _ _ => rfl) (.pure ())

lemma spares_regroupChunks (out : Buffer) (chunk height width : Nat) :
    (regroupChunks P str out input chunk height width :
      Act S (Engine S σ F E (T × Tally)) ExchangeError Unit).Spares engineTally := by
  refine .bind (.view _) ?_
  intro kernels
  exact .within _ fun _ _ => rfl

lemma closesRounds_exchangeFlat (comm compute : Stream) :
    ClosesRounds (exchangeFlat P X.tallied h input output comm compute) := by
  refine closesRounds_after spares_noteFlat ?_
  intro _
  refine .bind Tally.chains_settled (closesRounds_round ?_) ?_
  · refine .forEach Tally.chains_transferred ?_
    intro peer _
    exact transferred_exchangeBlock (.ok _) (errorless_block _ _)
  · intro _
    exact closesRounds_of_spares (spares_onPlatform _)

lemma closesRounds_exchangeNested (between : Buffer) (comm compute : Stream) :
    ClosesRounds (exchangeNested P X.tallied h input between comm compute) := by
  refine closesRounds_after (spares_regroupChunks _ _ _ _) ?_
  intro _
  refine .bind Tally.chains_settled (closesRounds_round ?_) ?_
  · refine .forEach Tally.chains_transferred ?_
    intro g _
    exact transferred_exchangeBlock (errorless_intraPeer _) (errorless_block _ _)
  intro _
  refine closesRounds_after (spares_regroupChunks _ _ _ _) ?_
  intro _
  refine .bind Tally.chains_settled (closesRounds_round ?_) ?_
  · refine .forEach Tally.chains_transferred ?_
    intro n _
    exact transferred_exchangeBlock (errorless_interPeer _) (errorless_block _ _)
  intro _
  exact closesRounds_of_spares (spares_onPlatform _)

lemma closesRounds_exchangeAll : ClosesRounds (exchangeAll P X.tallied input) := by
  refine closesRounds_after (looks_onComm looks_checkDevice).spares ?_
  intro _
  refine closesRounds_after (.ofOutcome _) ?_
  intro total
  refine closesRounds_after (.view _) ?_
  intro place
  refine closesRounds_after (.ofOutcome _) ?_
  intro h
  refine closesRounds_after (spares_stream _) ?_
  intro comm
  refine closesRounds_after (spares_stream _) ?_
  intro compute
  refine closesRounds_after (spares_onPlatform _) ?_
  intro _
  refine closesRounds_after (spares_onPlatform _) ?_
  intro between
  by_cases hflat : h.isFlat = true
  · simp only [hflat, if_true]
    refine .bind Tally.chains_settled (.orElseClean ?_ (spares_onPlatform _)) ?_
    · exact closesRounds_exchangeFlat _ _
    · intro _
      exact .pure Tally.chains_settled _
  · simp only [hflat]
    refine .bind Tally.chains_settled (.andFinally ?_ (spares_onPlatform _)) ?_
    · refine .bind Tally.chains_settled (closesRounds_exchangeNested _ _ _) ?_
      intro _
      exact closesRounds_of_spares (spares_onPlatform _)
    · intro _
      exact .pure Tally.chains_settled _

/-- A call that transfers in rounds. -/
inductive RoundCall where
  | scatter (input : Buffer) (shape : List Nat) (stages slices : Nat) (direction : Direction)
  | gather (inputs : List Buffer) (shape : List Nat) (stages slices : Nat) (direction : Direction)
  | exchangeAll (input : Buffer)
  | allToAll (inputs outputs : List Buffer) (ins outs : List Nat)
  | allGather (inputs outputs : List Buffer) (sizes : List Nat)

/-- The call, on any platform and transport, without the buffers that it returns. -/
def RoundCall.run (P : Platform S σ F E) (X : Transport S σ T) :
    RoundCall → Act S (Engine S σ F E T) ExchangeError Unit
  | .scatter input shape stages slices direction =>
    Act.bind (Scheduler.scatter P X input shape stages slices direction) fun _ => pure ()
  | .gather inputs shape stages slices direction =>
    Act.bind (Scheduler.gather P X inputs shape stages slices direction) fun _ => pure ()
  | .exchangeAll input => Act.bind (Scheduler.exchangeAll P X input) fun _ => pure ()
  | .allToAll inputs outputs ins outs =>
    onComm (Communicator.allToAll P X inputs outputs ins outs)
  | .allGather inputs outputs sizes => onComm (Communicator.allGather P X inputs outputs sizes)

/-- Every call that transfers in rounds, over a transport whose calls may each succeed or fail,
closes the rounds it has opened. The one exception is an error of a transfer: it leaves the round
of that transfer open. -/
theorem closesRounds_roundCall (P : Platform S σ F E) (X : Transport S σ T) (call : RoundCall) :
    (call.run P X.tallied).Changes engineTally Tally.Settled := by
  cases call with
  | scatter input shape stages slices direction =>
    refine .bind Tally.chains_settled (closesRounds_scatter _ _ _ _) ?_
    intro _
    exact .pure Tally.chains_settled ()
  | gather inputs shape stages slices direction =>
    refine .bind Tally.chains_settled (closesRounds_gather _ _ _ _) ?_
    intro _
    exact .pure Tally.chains_settled ()
  | exchangeAll input =>
    refine .bind Tally.chains_settled closesRounds_exchangeAll ?_
    intro _
    exact .pure Tally.chains_settled ()
  | allToAll inputs outputs ins outs => exact closesRounds_onComm (settled_allToAll ins outs)
  | allGather inputs outputs sizes => exact closesRounds_onComm settled_allGather

/-- Calls one after another, by a caller that goes on whatever a call ends with. -/
def RoundCall.runAll (P : Platform S σ F E) (X : Transport S σ T) :
    List RoundCall → Act S (Engine S σ F E T) ExchangeError (List Ending)
  | [] => pure []
  | call :: rest =>
    Act.bind (call.run P X).attempt fun o =>
    Act.bind (runAll P X rest) fun endings => pure (o.ending :: endings)

/-- After any calls without a fault, as many rounds are left open as transfers have failed. -/
theorem openRounds_runAll (calls : List RoundCall) (e : Engine S σ F E (T × Tally)) :
    (RoundCall.runAll P X.tallied calls).Gives e fun endings e' =>
      (∀ ending ∈ endings, ending ≠ .fault) →
        (engineTally e').opened + (engineTally e).closed + (engineTally e).failed =
          (engineTally e).opened + (engineTally e').closed + (engineTally e').failed := by
  induction calls generalizing e with
  | nil =>
    refine .of_done rfl ?_
    intro _
    omega
  | cons call rest ih =>
    have hcall : ((call.run P X.tallied).attempt : Act S _ ExchangeError _).Gives e fun o e₁ =>
        (engineTally e).Settled o.ending (engineTally e₁) := by
      refine Act.Ensures.gives (Act.Ensures.attempt ?_)
      refine (closesRounds_roundCall P X call e).mono ?_
      intro o e₁ h o' heq
      cases heq
      exact h
    refine hcall.bind ?_
    intro o e₁ h₁
    refine (ih e₁).bind ?_
    intro endings e₂ h₂
    refine .of_done rfl ?_
    intro hfault
    have hrest := h₂ fun ending h => hfault ending (List.mem_cons_of_mem _ h)
    have hfirst := h₁.openRounds (hfault _ List.mem_cons_self)
    omega

/-- A participant alone in its group of the collective library, with two buffers of four bytes and
a tally. -/
def aloneOnDevice (t : Tally) :
    Engine Machine CudaState CudaFunction CudaEvent (NcclLink × Tally) :=
  let compute : Stream := ⟨0, .compute, 1⟩
  let memory (address : Nat) : Allocation := ⟨.cuda address compute, [compute], 1⟩
  (⟨[memory 4096, memory 8192], [((0, .compute), 1)], []⟩,
    (Invoker.create 1 [] .none,
      { comm := ⟨(⟨1, 0, 1, 0⟩, t), ⟨1, 0, 1, 0⟩⟩
        slots := ⟨0, [], []⟩
        regroup := ⟨⟨0⟩, ⟨1⟩, 1, 1⟩
        notice := .ofPolicy .silent }))

/-- When the vendor's send fails, a batched all-to-all ends with that error, with a round opened and
none closed. -/
theorem allToAll_leaves_round_open :
    ((RoundCall.allToAll [⟨.u8, [4], 0, 0⟩] [⟨.u8, [4], 0, 1⟩] [4] [4]).run (Cuda.platform 1)
      Nccl.transport.tallied (aloneOnDevice ⟨0, 0, 0⟩)).CanEnd
        (.error (.nccl (.call "ncclSend" "internal error")), aloneOnDevice ⟨1, 0, 1⟩) :=
  .ask (0, (0 : Nat)) (.ask (5, (0 : Nat)) (.ask (some "internal error") (.done _)))

end Scheduler

end ExpertExchange
