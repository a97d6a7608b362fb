import ExpertExchange.Proofs.Act.Guarded
import ExpertExchange.Proofs.Act.Watched
import ExpertExchange.Proofs.Group.Exchanged

/-!
# The simulated transport without its checks

The simulated transport checks peers and byte ranges. Where they are right, its operations do what
they would do without these checks, they leave the group as large as it is, and the only errors that
are left to them are those that no check can foresee.
-/

namespace ExpertExchange

namespace ExchangeError

/-- Errors that say what is wrong with the arguments of a collective. -/
def IsRejection : ExchangeError → Prop
  | .invalidSplit _ | .shapeMismatch _ _ _ | .dtypeMismatch _ _ _ | .deviceMismatch _ _
  | .invalidRank _ _ => True
  | _ => False

/-- Errors that come up in the course of a call: the platform or a kernel fails, a peer sends
nothing or not what was expected, or there is no round to close. -/
def IsLate : ExchangeError → Prop
  | .device _ | .kernel _ | .tensor _ | .transport (.silence _ _ _)
  | .transport (.wrongLength _ _ _ _) | .transport .noOpenRound => True
  | _ => False

lemma not_isRejection_of_isLate {e : ExchangeError} (h : e.IsLate) : ¬ e.IsRejection := by
  cases e with
  | device cause => exact id
  | kernel cause => exact id
  | tensor why => exact id
  | transport why => exact id
  | _ => exact h.elim

end ExchangeError

lemma Buffer.byteCount_errorless (b : Buffer) :
    (b.byteCount : Outcome ExchangeError Nat).Errorless := by
  refine .bind (.orFault _) ?_
  intro n
  exact .orFault _

lemma Outcome.Errorless.refuses {ε α : Type} {o : Outcome ε α} {p : ε → Prop} (ho : o.Errorless) :
    o.Refuses p := by
  intro e h
  exact absurd (congrArg Outcome.ending h) ho

namespace SimulatedLink

variable {W peer root : Nat} {b : Buffer} {range : ByteRange} {stream : Stream} {α : Type}
  {may : ExchangeError → Prop}

def sendUnchecked (b : Buffer) (range : ByteRange) (peer : Nat) (stream : Stream) :
    LinkAct Unit := do
  let _ ← Act.ofOutcome b.byteCount
  note (.send peer range stream.kind)
  issue ⟨.send, b, range, peer⟩

def recvUnchecked (b : Buffer) (range : ByteRange) (peer : Nat) (stream : Stream) :
    LinkAct Unit := do
  let _ ← Act.ofOutcome b.byteCount
  note (.recv peer range stream.kind)
  issue ⟨.recv, b, range, peer⟩

/-- Send the whole buffer from the root to everyone else, whatever root. -/
def broadcastUnchecked (b : Buffer) (root : Nat) : LinkAct Unit := do
  note (.broadcast root)
  let size ← Act.ofOutcome b.byteCount
  let l ← link
  if l.rank = root then Act.forEach (others l.worldSize root) (post b ⟨0, size⟩)
  else deliver b ⟨0, size⟩ root

/-- The simulated transport without any check of peers and ranges. -/
def unchecked [TensorLibrary] : Transport Net HostState SimulatedLink :=
  { transport with
    send := sendUnchecked
    recv := recvUnchecked
    broadcast := fun b root _ => broadcastUnchecked b root }

/-- The simulated network without any check of peers and ranges. -/
def uncheckedBackend [TensorLibrary] (patience : Nat) : Backend Net HostState SimulatedLink :=
  { backend patience with transport := unchecked }

/-- The link is one of a group of `W` ranks. -/
def Among (W : Nat) (s : HostState × SimulatedLink) : Prop := s.2.worldSize = W

lemma steady_note (e : TraceEvent) : (note e).Steady (Among W) may := .modify fun _ h => h

section Late

variable (hlate : ∀ e : ExchangeError, e.IsLate → may e)

include hlate

lemma steady_onHeap (m : Act Net Heap DeviceError α) : (onHeap m).Steady (Among W) may :=
  .part m (fun _ _ h => h) fun _ => hlate _ trivial

/-- What fails with errors that come up late. -/
lemma steady_ofOutcome {ε : Type} {f : ε → ExchangeError} (hf : ∀ e, (f e).IsLate)
    (o : Outcome ε α) : (Act.ofOutcome (o.mapError f) : LinkAct α).Steady (Among W) may := by
  have hany : o.Refuses fun _ => True := fun _ _ => trivial
  exact .ofOutcome (hany.mapError fun e _ => hlate _ (hf e))

omit hlate in
lemma steady_postBytes (payload : Bytes) : (postBytes payload peer).Steady (Among W) may := by
  refine .bind (.view _) ?_
  intro l
  exact .request _

omit hlate in
lemma steady_checkBounds (content : Bytes) : (checkBounds content range).Steady (Among W) may := by
  have herrorless : (Outcome.ensureOrFault (range.Within content.length) none :
      Outcome ExchangeError Unit).Errorless := by
    unfold Outcome.ensureOrFault
    split
    · exact nofun
    · exact nofun
  exact .ofOutcome herrorless.refuses

lemma steady_post : (post b range peer).Steady (Among W) may := by
  refine .bind (steady_onHeap hlate _) ?_
  intro content
  refine .bind (steady_checkBounds content) ?_
  intro _
  exact steady_postBytes _

lemma steady_take : (take peer).Steady (Among W) may := by
  refine .bind (.view _) ?_
  intro l
  refine .bind (.request _) ?_
  intro received
  cases received with
  | some payload => exact .pure payload
  | none => exact .fail (hlate _ trivial)

lemma steady_deliver : (deliver b range peer).Steady (Among W) may := by
  refine .bind (steady_take hlate) ?_
  intro payload
  refine .bind (.view _) ?_
  intro l
  refine .bind (.ensure _ fun _ => hlate _ trivial) ?_
  intro _
  refine .bind (steady_onHeap hlate _) ?_
  intro content
  refine .bind (steady_checkBounds content) ?_
  intro _
  exact steady_onHeap hlate _

lemma steady_perform (t : Transfer) : (perform t).Steady (Among W) may := by
  unfold perform
  cases t.kind with
  | send => exact steady_post hlate
  | recv => exact steady_deliver hlate

lemma steady_issue (t : Transfer) : (issue t).Steady (Among W) may := by
  refine .bind (.view _) ?_
  intro l
  refine .ite ?_ ?_
  · intro _
    exact .modify fun _ h => h
  · intro _
    exact steady_perform hlate t

omit hlate in
lemma steady_groupStart : groupStart.Steady (Among W) may := by
  refine .bind (.modify fun _ h => h) ?_
  intro _
  exact steady_note _

lemma steady_groupEnd : groupEnd.Steady (Among W) may := by
  refine .bind (.view _) ?_
  intro l
  rcases l.depth with _ | _ | depth
  · exact .fail (hlate _ trivial)
  · refine .bind (.modify fun _ h => h) ?_
    intro _
    refine .bind (steady_note _) ?_
    intro _
    exact .forEach fun t _ => steady_perform hlate t
  · refine .bind (.modify fun _ h => h) ?_
    intro _
    exact steady_note _

lemma steady_sendUnchecked : (sendUnchecked b range peer stream).Steady (Among W) may := by
  refine .bind (.ofOutcome b.byteCount_errorless.refuses) ?_
  intro _
  refine .bind (steady_note _) ?_
  intro _
  exact steady_issue hlate _

lemma steady_recvUnchecked : (recvUnchecked b range peer stream).Steady (Among W) may := by
  refine .bind (.ofOutcome b.byteCount_errorless.refuses) ?_
  intro _
  refine .bind (steady_note _) ?_
  intro _
  exact steady_issue hlate _

lemma steady_broadcastUnchecked : (broadcastUnchecked b root).Steady (Among W) may := by
  refine .bind (steady_note _) ?_
  intro _
  refine .bind (.ofOutcome b.byteCount_errorless.refuses) ?_
  intro size
  refine .bind (.view _) ?_
  intro l
  refine .ite ?_ ?_
  · intro _
    exact .forEach fun p _ => steady_post hlate
  · intro _
    exact steady_deliver hlate

lemma steady_contribution [TensorLibrary] (own : Bytes) (p : Nat) :
    (contribution b own p).Steady (Among W) may := by
  refine .bind (.view _) ?_
  intro l
  refine .ite ?_ ?_
  · intro _
    refine .bind (.pure own) ?_
    intro payload
    exact steady_ofOutcome hlate (f := .device) (fun _ => trivial) _
  · intro _
    refine .bind (steady_take hlate) ?_
    intro payload
    exact steady_ofOutcome hlate (f := .device) (fun _ => trivial) _

lemma steady_addContributions [TensorLibrary] (own : Bytes) (ranks : List Nat) (sum : Tensor) :
    (addContributions b own ranks sum).Steady (Among W) may := by
  induction ranks generalizing sum with
  | nil => exact .pure sum
  | cons p rest ih =>
    refine .bind (steady_contribution hlate _ _) ?_
    intro part
    refine .bind (steady_ofOutcome hlate (f := .tensor) (fun _ => trivial) _) ?_
    intro sum'
    exact ih sum'

lemma steady_allReduce [TensorLibrary] : (allReduce b).Steady (Among W) may := by
  refine .bind (steady_note _) ?_
  intro _
  refine .bind (steady_onHeap hlate _) ?_
  intro own
  refine .bind (.view _) ?_
  intro l
  refine .bind (.forEach fun p _ => steady_postBytes _) ?_
  intro _
  cases List.range l.worldSize with
  | nil => exact .pure ()
  | cons first rest =>
    refine .bind (steady_contribution hlate _ _) ?_
    intro part
    refine .bind (steady_addContributions hlate _ _ _) ?_
    intro sum
    refine .bind (steady_ofOutcome hlate (f := .device) (fun _ => trivial) _) ?_
    intro content
    exact steady_onHeap hlate _

/-- The peer is a rank of a group of `W` ranks, and the range lies inside the buffer. -/
def Sound (W : Nat) (b : Buffer) (range : ByteRange) (peer : Nat) : Prop :=
  peer < W ∧ ∀ n, b.byteCount = (.ok n : Outcome ExchangeError Nat) → range.Within n

omit hlate in
/-- Without the two checks that pass, only the computation of the size is left. -/
lemma checked_eq {f : Unit → LinkAct Unit} {s : HostState × SimulatedLink}
    (h : Sound W b range peer) (hs : Among W s) :
    ((checkPeer peer).bind fun _ => (checkRange b range).bind f) s =
      ((Act.ofOutcome b.byteCount).bind fun _ => f ()) s := by
  obtain ⟨hpeer, hrange⟩ := h
  refine (Act.bind_done (checkPeer_eq (hs ▸ hpeer))).trans ?_
  have hsize := b.byteCount_errorless
  unfold checkRange
  cases hn : (b.byteCount : Outcome ExchangeError Nat) with
  | ok n => exact Act.bind_done (Act.ensure_done (hrange n hn) _ s)
  | error e => exact absurd (congrArg Outcome.ending hn) hsize
  | fault w => rfl

variable [TensorLibrary]

lemma agrees_send (h : Sound W b range peer) :
    (unchecked.send b range peer stream).Agrees (Among W) may
      (transport.send b range peer stream) :=
  .of_eq (fun _ hs => checked_eq h hs) (steady_sendUnchecked hlate)

lemma agrees_recv (h : Sound W b range peer) :
    (unchecked.recv b range peer stream).Agrees (Among W) may
      (transport.recv b range peer stream) :=
  .of_eq (fun _ hs => checked_eq h hs) (steady_recvUnchecked hlate)

lemma agrees_broadcast (h : root < W) :
    (unchecked.broadcast b root stream).Agrees (Among W) may
      (transport.broadcast b root stream) := by
  refine .of_eq ?_ (steady_broadcastUnchecked hlate)
  intro s hs
  exact Act.bind_done (checkPeer_eq (hs ▸ h))

lemma agrees_inRound {transfers' transfers : LinkAct Unit}
    (h : transfers'.Agrees (Among W) may transfers) :
    (Communicator.inRound unchecked transfers').Agrees (Among W) may
      (Communicator.inRound transport transfers) := by
  refine .bind steady_groupStart ?_
  intro _
  refine .bind h ?_
  intro _
  exact steady_groupEnd hlate

end Late

section Any

variable (hany : ∀ e, may e)

include hany

lemma steady_checks (b : Buffer) (range : ByteRange) (peer : Nat) {f : Unit → LinkAct Unit}
    (hf : (f ()).Steady (Among W) may) :
    ((checkPeer peer).bind fun _ => (checkRange b range).bind f).Steady (Among W) may := by
  refine .bind (.bind (.view _) fun l => .ensure _ fun _ => hany _) ?_
  intro _
  refine .bind (.bind (.ofOutcome fun _ _ => hany _) fun size => .ensure _ fun _ => hany _) ?_
  intro _
  exact hf

lemma steady_send : (send b range peer stream).Steady (Among W) may := by
  refine steady_checks hany b range peer (.bind (steady_note _) ?_)
  intro _
  exact steady_issue (fun e _ => hany e) _

lemma steady_recv : (recv b range peer stream).Steady (Among W) may := by
  refine steady_checks hany b range peer (.bind (steady_note _) ?_)
  intro _
  exact steady_issue (fun e _ => hany e) _

end Any

end SimulatedLink

end ExpertExchange
