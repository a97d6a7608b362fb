import ExpertExchange.Proofs.Exchange.AllExchanged
import ExpertExchange.Proofs.Exchange.Gathered
import ExpertExchange.Proofs.Group.Agreed
import ExpertExchange.Proofs.Group.Batched
import ExpertExchange.StandIn.Tensors

/-!
# Courses of collectives

All ranks of a group call one collective after another, in the same order and with arguments that
match. Each collective goes in lockstep and leaves participants behind, so the whole course does,
and no interleaving of it can go wrong, although some ranks may be collectives ahead of others.
-/

namespace ExpertExchange

namespace Scheduler

open SimulatedLink

inductive Collective where
  | scatter (input : Buffer) (shape : List Nat) (stages slices : Nat) (direction : Direction)
  | gather (inputs : List Buffer) (shape : List Nat) (stages slices : Nat) (direction : Direction)
  | exchangeAll (input : Buffer)
  | allToAll (inputs outputs : List Buffer) (ins outs : List Nat)
  | allGather (inputs outputs : List Buffer) (sizes : List Nat)
  | broadcast (b : Buffer) (root : Nat)
  | allReduce (b : Buffer)

/-- The call of a collective, which gives the buffers that it returns. -/
def Collective.run [TensorLibrary] (devices : Nat) :
    Collective → Act Net HostEngine ExchangeError (List Buffer)
  | .scatter input shape stages slices direction =>
    Scheduler.scatter (Host.platform devices) transport input shape stages slices direction
  | .gather inputs shape stages slices direction => do
    let out ← Scheduler.gather (Host.platform devices) transport inputs shape stages slices
      direction
    return [out]
  | .exchangeAll input => do
    let out ← Scheduler.exchangeAll (Host.platform devices) transport input
    return [out]
  | .allToAll inputs outputs ins outs => do
    onComm (Communicator.allToAll (Host.platform devices) transport inputs outputs ins outs)
    return []
  | .allGather inputs outputs sizes => do
    onComm (Communicator.allGather (Host.platform devices) transport inputs outputs sizes)
    return []
  | .broadcast b root => do
    onComm (Communicator.broadcast (Host.platform devices) transport b root)
    return []
  | .allReduce b => do
    onComm (Communicator.allReduce (Host.platform devices) transport b)
    return []

/-- What one rank calls, one collective after another, each with arguments that may depend on what
the collectives before have returned. -/
inductive Course where
  | done
  | call (c : Collective) (next : List Buffer → Course)

def Course.run [TensorLibrary] (devices : Nat) : Course → Act Net HostEngine ExchangeError Unit
  | .done => pure ()
  | .call c next => do
    let outs ← c.run devices
    (next outs).run devices

variable {plus : Addition} {devices W L : Nat} {g : Bytes} {es es' : Nat → HostEngine}
  {calls : Nat → Collective} {courses : Nat → Course} {n : Network}

/-- All ranks call the same collective, with arguments that match and that each of them accepts.
Sums by `plus` do not overflow, and neither do the strides of what is summed. -/
inductive Matching (plus : Addition) (W L : Nat) (es : Nat → HostEngine)
    (calls : Nat → Collective) : Prop where
  | scatter {stages m size : Nat} {direction : Direction} {inputs : Nat → Buffer}
      {shapes : Nat → List Nat} {fused : Nat → Bytes}
      (call : ∀ r < W, calls r = .scatter (inputs r) (shapes r) stages (W * m) direction)
      (feasible : Split.Feasible W stages m)
      (accepted : ∀ r < W, Splittable W stages m size (es r) (inputs r) (shapes r) (fused r))
  | gather {stages m size : Nat} {direction : Direction} {inputs : Nat → List Buffer}
      {shapes : Nat → List Nat} {types : Nat → Dtype} {stage : Nat → Nat → Bytes}
      (call : ∀ r < W, calls r = .gather (inputs r) (shapes r) stages (W * m) direction)
      (feasible : Split.Feasible W stages m)
      (accepted : ∀ r < W, Joinable W stages m size (es r) (types r) (inputs r) (shapes r)
        (stage r))
  | exchangeAll {N size : Nat} {inputs : Nat → Buffer} {data : Nat → Bytes}
      (call : ∀ r < W, calls r = .exchangeAll (inputs r)) (nodes : W = N * L)
      (accepted : ∀ r < W, Exchangeable W size (es r) (inputs r) (data r))
  | allToAll {t : Dtype} {k : Nat} {inputs outputs : Nat → List Buffer} {ins outs : Nat → List Nat}
      (call : ∀ r < W, calls r = .allToAll (inputs r) (outputs r) (ins r) (outs r))
      (accepted : ∀ r < W, Communicator.Batch t k (ins r).sum (outs r).sum (commPart.get (es r))
        (inputs r) (outputs r))
      (entries : ∀ r < W, (ins r).length = W ∧ (outs r).length = W)
      (agree : ∀ p < W, ∀ r < W, (ins p)[r]? = (outs r)[p]?)
  | allGather {t : Dtype} {k : Nat} {inputs outputs : Nat → List Buffer} {sizes : List Nat}
      (call : ∀ r < W, calls r = .allGather (inputs r) (outputs r) sizes)
      (accepted : ∀ r < W, Communicator.Batch t k (sizes.getD r 0) sizes.sum (commPart.get (es r))
        (inputs r) (outputs r))
      (entries : sizes.length = W)
  | broadcast {root : Nat} {bs : Nat → Buffer} {ds : Nat → Bytes}
      (call : ∀ r < W, calls r = .broadcast (bs r) root) (inside : root < W)
      (accepted : ∀ r < W, (bs r).device = ownDevice (es r) ∧ (es r).1.heap.Holds (bs r) (ds r) ∧
        (ds r).length = (ds root).length)
  | allReduce {t : Dtype} {bs : Nat → Buffer} {ds : Nat → Bytes} {zs : List Nat}
      (call : ∀ r < W, calls r = .allReduce (bs r)) (tensor : t.hasTensor = true)
      (accepted : ∀ r < W, (bs r).device = ownDevice (es r) ∧ (bs r).dtype = t ∧
        Strided (bs r).shape ∧ (es r).1.heap.Holds (bs r) (ds r) ∧ (ds r).length = (ds 0).length)
      (sum : Number.sumAll? plus t (fun p => Bytes.decodeWords t.size (ds p))
        (List.range' 1 (W - 1)) (Bytes.decodeWords t.size (ds 0)) = some zs)

lemma Participant.member {r : Nat} {e : HostEngine} (hp : Participant devices g W L r e) :
    Communicator.Member devices g W r (commPart.get e) where
  link := hp.link
  device_lt := hp.device_lt
  worldSize := congrArg Topology.worldSize hp.topology
  rank := congrArg Topology.rank hp.topology

lemma Leaves.of_comm {touched : Nat → Prop} {e : HostEngine}
    {q : HostState × Communicator SimulatedLink}
    (h : Communicator.Kept touched (commPart.get e) q) : Leaves touched e (commPart.put e q) where
  comm := h.comm
  events := rfl
  slots := rfl
  regroup := rfl
  provides := stillProvides_platform h.kernels
  heap := h.heap

/-- A collective of the communicator alone. -/
lemma lockstep_onComm
    {m : Nat → Act Net (HostState × Communicator SimulatedLink) ExchangeError Unit}
    (hp : ∀ r < W, Participant devices g W L r (es r))
    (h : Lockstep g W m (fun r => commPart.get (es r)) fun _ qs =>
      ∀ r < W, Communicator.Kept (fun _ => True) (commPart.get (es r)) (qs r)) :
    Lockstep g W (fun r => Act.bind (onComm (m r)) fun _ => pure ([] : List Buffer)) es
      fun _ es' => ∀ r < W, Participant devices g W L r (es' r) := by
  have hcall : Lockstep g W (fun r => onComm (m r)) es fun _ es' =>
      ∀ r < W, Participant devices g W L r (es' r) := by
    refine Lockstep.within (h.mono ?_)
    intro _ qs hkept r hr
    exact (hp r hr).of_leaves (.of_comm (hkept r hr))
  refine hcall.bind ?_
  intro _ es' hp'
  exact .pure (a := fun _ => []) hp'

/-- A collective that returns one buffer. -/
lemma lockstep_single {m : Nat → Act Net HostEngine ExchangeError Buffer}
    (h : Lockstep g W m es fun _ es' => ∀ r < W, Participant devices g W L r (es' r)) :
    Lockstep g W (fun r => Act.bind (m r) fun out => pure [out]) es fun _ es' =>
      ∀ r < W, Participant devices g W L r (es' r) := by
  refine h.bind ?_
  intro outs es' hp'
  exact .pure (a := fun r => [outs r]) hp'

/-- The call of one collective by all ranks. -/
theorem lockstep_run [TensorLibrary] (laws : TensorLaws plus) (hpos : 0 < W)
    (hW : W < 0x80000000) (hp : ∀ r < W, Participant devices g W L r (es r))
    (h : Matching plus W L es calls) :
    Lockstep g W (fun r => (calls r).run devices) es fun _ es' =>
      ∀ r < W, Participant devices g W L r (es' r) := by
  have hm : ∀ r < W, Communicator.Member devices g W r (commPart.get (es r)) :=
    fun r hr => (hp r hr).member
  cases h with
  | @scatter _ _ _ direction _ _ _ call feasible accepted =>
    have hcall := (lockstep_scatter direction hp feasible accepted).mono fun _ _ hends r hr =>
      (hp r hr).of_leaves (hends r hr).1
    refine hcall.congr fun r hr => ?_
    rw [call r hr]
    rfl
  | @gather _ _ _ direction _ _ _ _ call feasible accepted =>
    have hcall := (lockstep_gather direction hp feasible accepted).mono fun _ _ hends r hr =>
      (hp r hr).of_leaves (hends r hr).1
    refine (lockstep_single hcall).congr fun r hr => ?_
    rw [call r hr]
    rfl
  | @exchangeAll N _ inputs _ call nodes accepted =>
    subst nodes
    have hcall : Lockstep g (N * L) (fun r => exchangeAll (Host.platform devices) transport
        (inputs r)) es fun _ es' => ∀ r < N * L, Participant devices g (N * L) L r (es' r) := by
      refine (lockstep_exchangeAll hW hpos hp accepted).mono ?_
      intro _ es' hends r hr
      have hwhere := (hends r hr).2
      split at hwhere
      · exact (hp r hr).of_leaves hwhere.1
      · exact (hp r hr).of_leaves hwhere.1
    refine (lockstep_single hcall).congr fun r hr => ?_
    rw [call r hr]
    rfl
  | allToAll call accepted entries agree =>
    refine (lockstep_onComm hp (Communicator.lockstep_allToAll hpos hm accepted
      (fun r hr => (entries r hr).1) (fun r hr => (entries r hr).2) agree)).congr fun r hr => ?_
    rw [call r hr]
    rfl
  | allGather call accepted entries =>
    refine (lockstep_onComm hp (Communicator.lockstep_allGather hpos hm accepted entries)).congr
      fun r hr => ?_
    rw [call r hr]
    rfl
  | broadcast call inside accepted =>
    refine (lockstep_onComm hp (Communicator.lockstep_broadcast hpos inside hm accepted)).congr
      fun r hr => ?_
    rw [call r hr]
    rfl
  | allReduce call tensor accepted sum =>
    have hcall := Communicator.lockstep_allReduce laws hpos tensor hm accepted sum
    refine (lockstep_onComm hp hcall).congr fun r hr => ?_
    rw [call r hr]
    rfl

/-- All ranks call the same collectives in the same order, and the calls match whenever all ranks
have come to the end of the calls before. -/
inductive Accepted [TensorLibrary] (plus : Addition) (devices : Nat) (g : Bytes) (W L : Nat) :
    (Nat → HostEngine) → (Nat → Course) → Prop where
  | done {es : Nat → HostEngine} {courses : Nat → Course} (none : ∀ r < W, courses r = .done) :
      Accepted plus devices g W L es courses
  | call {es : Nat → HostEngine} {courses : Nat → Course} {calls : Nat → Collective}
      {next : Nat → List Buffer → Course} (first : ∀ r < W, courses r = .call (calls r) (next r))
      (matching : Matching plus W L es calls)
      (rest : ∀ outs es', Crowd.Ends g W (fun r => (calls r).run devices) es outs es' →
        Accepted plus devices g W L es' fun r => next r (outs r)) :
      Accepted plus devices g W L es courses

lemma lockstep_courses [TensorLibrary] (laws : TensorLaws plus) (hpos : 0 < W)
    (hW : W < 0x80000000) (hp : ∀ r < W, Participant devices g W L r (es r))
    (h : Accepted plus devices g W L es courses) :
    Lockstep g W (fun r => (courses r).run devices) es fun _ es' =>
      ∀ r < W, Participant devices g W L r (es' r) := by
  induction h with
  | done none =>
    refine (Lockstep.pure (a := fun _ => ()) hp).congr fun r hr => ?_
    rw [none r hr]
    rfl
  | @call es courses calls next first matching _ ih =>
    -- The rest is accepted from the end of every complete run of these calls, so from this one.
    have hfirst := (lockstep_run laws hpos hW hp matching).ends
    have hall : Lockstep g W (fun r => Act.bind ((calls r).run devices) fun outs =>
        (next r outs).run devices) es fun _ es' =>
          ∀ r < W, Participant devices g W L r (es' r) := by
      refine hfirst.bind ?_
      rintro outs es' ⟨hp', hends⟩
      exact ih outs es' hends hp'
    refine hall.congr fun r hr => ?_
    rw [first r hr]
    rfl

/-- Any course of collectives that all ranks call in the same order, with arguments that match and
are accepted. However the ranks are interleaved, some rank can go on until all are done; all
complete runs end with the same states of all ranks, so with the same bytes in all their buffers,
and without failures; and no complete run leaves a message in any mailbox of the group. -/
theorem courses_orderly [TensorLibrary] (laws : TensorLaws plus) (hpos : 0 < W)
    (hW : W < 0x80000000) (hp : ∀ r < W, Participant devices g W L r (es r))
    (h : Accepted plus devices g W L es courses) (hn : n.Formed g) (hq : n.Quiet g) :
    let crowd := Crowd.starting W (fun r => (courses r).run devices) es n
    crowd.Orderly g ∧ ∀ d vs, crowd.Reaches d → d.Ended vs → ∀ v ∈ vs, v.1 = .ok () := by
  obtain ⟨horderly, hok⟩ := (lockstep_courses laws hpos hW hp h).orderly hn hq
  refine ⟨horderly, ?_⟩
  intro d vs hd hvs v hv
  obtain ⟨a, ha⟩ := hok d vs hd hvs v hv
  exact ha

/-- A scatter, a gather of what comes out of it, and a sum of what comes out of that. -/
def threeCalls (r : Nat) : Course :=
  .call (.scatter ⟨.u8, [4], r, 0⟩ [2] 2 2 .forward) fun split =>
  .call (.gather split [4] 2 2 .backward) fun
    | [b] => .call (.allReduce b) fun _ => .done
    | _ => .done

open StandIn in
lemma accepted_threeCalls (hp : ∀ r < 2, Participant 2 [] 2 1 r (es r))
    (h : ∀ r < 2, Splittable 2 2 1 1 (es r) ⟨.u8, [4], r, 0⟩ [2] (fourSlices r)) :
    Accepted Number.add? 2 [] 2 1 es threeCalls := by
  have hlength : ∀ p < 2, (fourSlices p).length = Split.fusedLength 2 2 1 1 := fun p hp =>
    (h p hp).length
  refine .call (fun r _ => rfl) (.scatter (fun r _ => rfl) feasible_two h) ?_
  intro outs es₁ hends
  obtain ⟨outs', es₁', hscattered, hsame⟩ :=
    Lockstep.of_ends (lockstep_scatter .forward hp feasible_two h) hends
  have hp₁ : ∀ r < 2, Participant 2 [] 2 1 r (es₁ r) := by
    intro r hr
    rw [(hsame r hr).2]
    exact (hp r hr).of_leaves (hscattered r hr).1
  have hjoinable : ∀ r < 2, Joinable 2 2 1 1 (es₁ r) .u8 (outs r) [4]
      (Split.scattered 2 2 1 1 fourSlices r) := by
    intro r hr
    rw [(hsame r hr).1, (hsame r hr).2]
    obtain ⟨hleaves, houts, hheld⟩ := hscattered r hr
    exact joinable_of_scatter hr (h r hr) hlength hleaves houts hheld
  refine .call (fun r _ => rfl) (.gather (fun r _ => rfl) feasible_two hjoinable) ?_
  intro fused es₂ hends
  have hgather : Lockstep [] 2 (fun r => (Collective.gather (outs r) [4] 2 2 .backward).run 2) es₁
      fun fused es₂ => ∀ r < 2, fused r = [fusedBuffer (es₁ r) .u8 [4]] ∧
        ownDevice (es₂ r) = ownDevice (es₁ r) ∧
        (es₂ r).1.heap.Holds (fusedBuffer (es₁ r) .u8 [4]) (fourSlices r) := by
    refine (lockstep_gather .backward hp₁ feasible_two hjoinable).bind ?_
    intro fused es₂ hgathered
    refine .pure (a := fun r => [fused r]) ?_
    intro r hr
    obtain ⟨hleaves, hout, hheld⟩ := hgathered r hr
    rw [Split.gathered_scattered hr (by decide) hlength, hout] at hheld
    exact ⟨congrArg (fun b => [b]) hout, hleaves.ownDevice_eq, hheld⟩
  obtain ⟨fused', es₂', hgathered, hsame⟩ := hgather.of_ends hends
  have hlast : ∀ r < 2, (match fused r with
      | [b] => Course.call (.allReduce b) fun _ => .done
      | _ => .done) = .call (.allReduce (fusedBuffer (es₁ r) .u8 [4])) fun _ => .done := by
    intro r hr
    rw [(hsame r hr).1, (hgathered r hr).1]
  have haccepted : ∀ r < 2, (fusedBuffer (es₁ r) .u8 [4]).device = ownDevice (es₂ r) ∧
      (fusedBuffer (es₁ r) .u8 [4]).dtype = .u8 ∧ Strided (fusedBuffer (es₁ r) .u8 [4]).shape ∧
      (es₂ r).1.heap.Holds (fusedBuffer (es₁ r) .u8 [4]) (fourSlices r) ∧
      (fourSlices r).length = (fourSlices 0).length := by
    intro r hr
    obtain ⟨-, hdevice, hheld⟩ := hgathered r hr
    rw [(hsame r hr).2]
    exact ⟨hdevice.symm, rfl, rfl, hheld, (hlength r hr).trans (hlength 0 (by decide)).symm⟩
  have hsum : Number.sumAll? Number.add? .u8 (fun p => Bytes.decodeWords 1 (fourSlices p))
      (List.range' 1 1) (Bytes.decodeWords 1 (fourSlices 0)) = some [6, 8, 10, 12] := by decide
  refine .call hlast (.allReduce (fun r _ => rfl) rfl haccepted hsum) ?_
  intro _ _ _
  exact .done fun _ _ => rfl

open StandIn in
theorem courses_orderly_three_calls :
    ∃ es : Nat → HostEngine,
      (∀ r < 2, joined 2 .none [] 2 1 r r 0 [⟨.host (fourSlices r), [], 1⟩] = some (es r)) ∧
      let crowd := Crowd.starting 2 (fun r => (threeCalls r).run 2) es (.assembled [] 2)
      crowd.Orderly [] ∧ ∀ d vs, crowd.Reaches d → d.Ended vs → ∀ v ∈ vs, v.1 = .ok () := by
  obtain ⟨es, hes⟩ := exists_splittable
  have hp : ∀ r < 2, Participant 2 [] 2 1 r (es r) := fun r hr => (hes r hr).2.1
  refine ⟨es, fun r hr => (hes r hr).1, ?_⟩
  exact courses_orderly (RowMajor.laws _) (by decide) (by decide) hp
    (accepted_threeCalls hp fun r hr => (hes r hr).2.2) (Network.formed_assembled [] 2)
    (Network.quiet_assembled [] 2)

end Scheduler

end ExpertExchange
