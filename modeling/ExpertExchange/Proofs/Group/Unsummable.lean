import ExpertExchange.Proofs.Device.Lawful
import ExpertExchange.Proofs.Group.Mailbox
import ExpertExchange.Proofs.Group.Rejected
import ExpertExchange.StandIn.Tensors

/-!
# Sums of what cannot be added

There are no tensors of some types, and none of some shapes. A sum of a buffer of such a type posts
the buffer to all other ranks, as every sum does, and finds out about the type when it reads the
first contribution. It ends with an error then, and what it has posted stays in the mailboxes of the
others. The same happens with such a shape, but the sum ends with a fault.
-/

namespace ExpertExchange

namespace SimulatedLink

variable [TensorLibrary] {g : Bytes} {W r : Nat} {s : HostState × SimulatedLink} {b : Buffer}
  {d payload : Bytes}

/-- What a rank takes before it reads the contribution of rank 0. -/
def firstMoves (r : Nat) (payload : Bytes) : List Move :=
  if r = 0 then [] else [.take 0 payload]

lemma follows_contribution_unread {o : Outcome DeviceError Tensor} (hl : s.2.Idle g W r)
    (hread : ∀ c : Bytes, c.length = d.length → Tensor.ofBytes b.dtype b.shape c = o)
    (hpayload : payload.length = d.length) :
    Program.Follows g r (contribution b d 0 s) (firstMoves r payload)
      (o.mapError ExchangeError.device, s) := by
  let read (c : Bytes) : LinkAct Tensor :=
    Act.ofOutcome ((Tensor.ofBytes b.dtype b.shape c).mapError ExchangeError.device)
  have hends : ∀ c : Bytes, c.length = d.length →
      read c s = .done (o.mapError ExchangeError.device, s) := by
    intro c hc
    rw [← hread c hc]
    rfl
  change Program.Follows g r ((if 0 = s.2.rank then (pure d : LinkAct Bytes).bind read
    else (take 0).bind read) s) _ _
  rw [hl.rank, firstMoves]
  by_cases hr : r = 0
  · rw [if_pos hr.symm, if_pos hr]
    exact Program.follows_nil_iff.2 (hends d rfl)
  · rw [if_neg (Ne.symm hr), if_neg hr]
    exact (follows_take hl 0 payload).map (hends payload hpayload)

/-- A sum of contributions that are no tensors posts everything that a sum posts, and ends as the
reading of the first one does. -/
lemma follows_allReduce_unread {o : Outcome DeviceError Tensor} (hl : s.2.Idle g W r) (hr : r < W)
    (hread : ∀ c : Bytes, c.length = d.length → Tensor.ofBytes b.dtype b.shape c = o)
    (hends : ∀ x, o ≠ .ok x) (hb : s.1.heap.Holds b d) (hpayload : payload.length = d.length) :
    Program.Follows g r (allReduce b s)
      ((others W r).map (fun p => .post p d) ++ firstMoves r payload)
      ((o.mapError ExchangeError.device).bind fun _ => .ok (), noted s .allReduce) := by
  have hranks := Number.range_eq_cons (Nat.lt_of_le_of_lt (Nat.zero_le r) hr)
  have hlink : (noted s .allReduce).2.Idle g W r := hl
  have hheld : (noted s .allReduce).1.heap.Holds b d := hb
  have hposts : Program.Follows g r (Act.forEach (others W r) (postBytes d)
      (noted s .allReduce)) _ _ :=
    Act.follows_forEach fun p _ => follows_postBytes hlink d p
  rw [← List.map_eq_flatMap] at hposts
  unfold allReduce
  change Program.Follows g r (Act.bind (note .allReduce) _ s) _ _
  rw [Act.bind_done (note_eq .allReduce)]
  change Program.Follows g r (Act.bind (onHeap (Heap.bytes b)) _ (noted s .allReduce)) _ _
  rw [Act.bind_done (onHeap_eq hheld.bytes)]
  change Program.Follows g r (Act.bind link _ (noted s .allReduce)) _ _
  rw [Act.bind_done link_eq, hlink.worldSize, hlink.rank, hranks]
  refine Act.follows_bind hposts ?_
  refine (follows_contribution_unread hlink hread hpayload).map ?_
  cases o with
  | ok x => exact absurd rfl (hends x)
  | error e => rfl
  | fault w => rfl

end SimulatedLink

namespace Communicator

open SimulatedLink

section

variable [TensorLibrary] {devices : Nat} {q : HostState × Communicator SimulatedLink}

lemma follows_allReduce_unread {o : Outcome DeviceError Tensor} {g payload d : Bytes} {W r : Nat}
    {b : Buffer} (hm : Member devices g W r q) (hr : r < W) (hdevice : b.device = q.2.link.device)
    (hread : ∀ c : Bytes, c.length = d.length → Tensor.ofBytes b.dtype b.shape c = o)
    (hends : ∀ x, o ≠ .ok x) (hb : q.1.heap.Holds b d) (hpayload : payload.length = d.length) :
    Program.Follows g r (allReduce (Host.platform devices) transport b q)
      ((others W r).map (fun p => .post p d) ++ firstMoves r payload)
      ((o.mapError ExchangeError.device).bind fun _ => .ok (), (q.1.note .allReduce, q.2)) := by
  have hsum := SimulatedLink.follows_allReduce_unread (s := linkPart.get q) hm.link hr hread hends
    hb hpayload
  unfold allReduce
  change Program.Follows g r (Act.bind (checkDevice transport b) _ q) _ _
  rw [Act.bind_done (checkDevice_eq hdevice)]
  change Program.Follows g r (Act.bind (stream (Host.platform devices) transport .compute) _ q) _ _
  rw [Act.bind_done (stream_eq hm)]
  exact hsum.map rfl

/-- What rejected calls leave behind. An error about the arguments that is found by looking at them
comes before anything else, also where a round is open. But a sum of a type that cannot be added
posts its buffer to all other ranks, and where it is not rank 0 takes a message of rank 0, before it
ends with an error about the type. -/
theorem rejections (hW : q.2.link.worldSize = q.2.topology.worldSize) :
    (∀ call e q', ((Call.run devices call) q).CanEnd (.error e, q') → e.IsRejection →
      Call.run devices call q = .done (.error e, q)) ∧
    ∀ g W r b d payload, Member devices g W r q → r < W → b.device = q.2.link.device →
      b.dtype.hasTensor = false → q.1.heap.Holds b d → payload.length = d.length →
      Program.Follows g r (Call.run devices (.allReduce b) q)
        ((others W r).map (fun p => .post p d) ++ if r = 0 then [] else [.take 0 payload])
        (.error (.device (.unsupported (.bufferType b.dtype))), (q.1.note .allReduce, q.2)) := by
  constructor
  · exact rejectsFirst_call hW
  · intro g W r b d payload hm hr hdevice ht hb hpayload
    exact follows_allReduce_unread hm hr hdevice
      (fun c hc => Tensor.ofBytes_unsupported (hc ▸ hb.size) ht) (by simp) hb hpayload

end

open StandIn

/-- Rank 0 of two, with a buffer of one signed number of 32 bits, which is `7`. -/
def signedSeven (trace : Trace) : HostState × Communicator SimulatedLink :=
  (⟨[⟨.host [7, 0, 0, 0], [], 1⟩], [], trace, []⟩, ⟨⟨[], 2, 0, 0, 0, 0, []⟩, ⟨2, 0, 1, 0⟩⟩)

theorem rejections_signed_seven :
    Call.run 1 (.broadcast ⟨.i32, [1], 0, 0⟩ 5) (signedSeven []) =
        .done (.error (.invalidRank 5 2), signedSeven []) ∧
      Program.Follows [] 0 (Call.run 1 (.allReduce ⟨.i32, [1], 0, 0⟩) (signedSeven []))
        [.post 1 [7, 0, 0, 0]]
        (.error (.device (.unsupported (.bufferType .i32))), signedSeven [.allReduce]) := by
  have hm : Member 1 [] 2 0 (signedSeven []) := ⟨⟨rfl, rfl, rfl, rfl, rfl⟩, by decide, rfl, rfl⟩
  have hheld : (signedSeven []).1.heap.Holds ⟨.i32, [1], 0, 0⟩ [7, 0, 0, 0] :=
    ⟨⟨[], 1, rfl⟩, by decide, by decide⟩
  obtain ⟨hrejected, hposted⟩ := rejections (q := signedSeven []) rfl
  constructor
  · exact hrejected _ _ _ (.done _) trivial
  · exact hposted _ _ _ _ _ [7, 0, 0, 0] hm (by decide) rfl rfl hheld rfl

/-- A sum that is refused leaves a message behind where there was none. -/
theorem allReduce_leaves_message :
    let ended := (Call.run 1 (.allReduce ⟨.i32, [1], 0, 0⟩) (signedSeven [])).runWith Network.answer
      (.assembled [] 2)
    ended.1.1 = .error (.device (.unsupported (.bufferType .i32))) ∧
      (Network.assembled [] 2).mailbox [] 0 1 = [] ∧
      ended.2.mailbox [] 0 1 = [[7, 0, 0, 0]] := by
  refine ⟨rfl, ?_, ?_⟩
  · rfl
  · rfl

end Communicator

end ExpertExchange
