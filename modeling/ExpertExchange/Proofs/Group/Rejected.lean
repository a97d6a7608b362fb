import ExpertExchange.Proofs.Group.Agreed
import ExpertExchange.Proofs.Group.Unchecked
import Mathlib.Algebra.BigOperators.Group.List.Basic
import Mathlib.Algebra.GroupWithZero.Nat

/-!
# Rejected calls

A collective of a simulated group that finds something wrong with its arguments has done nothing
yet: it has asked the network for nothing and changed nothing. And what its checks let through never
sends to a rank outside the group or from outside a buffer, so that the transport's own checks make
no difference to it.

One thing is not checked in time. A sum finds out that the type of its buffer cannot be added only
after the buffer has been posted to all other ranks, where those messages stay.
-/

namespace ExpertExchange

namespace Act

variable {S : Service} {σ ε α : Type} {m' m : Act S σ ExchangeError α} {s : σ}
  {I : σ → Prop}

/-- From the state `s`, an error of this kind ends the act before it has asked or changed
anything. -/
def RejectsFirst (bad : ε → Prop) (m : Act S σ ε α) (s : σ) : Prop :=
  ∀ e s', (m s).CanEnd (.error e, s') → bad e → m s = .done (.error e, s)

/-- A check of arguments, which fails with a rejection, or because the platform does. -/
abbrev Verifies (Q : α → Prop) (m : Act S σ ExchangeError α) (s : σ) : Prop :=
  m.Checks (fun e => e.IsRejection ∨ e.IsLate) Q s

abbrev Vetted (I : σ → Prop) (m' m : Act S σ ExchangeError α) (s : σ) : Prop :=
  m'.Guarded ExchangeError.IsRejection ExchangeError.IsLate I m s

lemma rejectsFirst_of_vetted (h : m'.Vetted I m s) :
    m.RejectsFirst ExchangeError.IsRejection s := by
  intro e s' hend hrejected
  obtain ⟨-, he⟩ := h.2 _ s' hend
  rcases he e rfl with ⟨-, hdone⟩ | hlate
  · exact hdone
  · exact absurd hrejected (ExchangeError.not_isRejection_of_isLate hlate)

end Act

namespace Word

variable {a b n : Nat} {ε : Type}

lemma add_eq_ok (h : (add a b : Outcome ε Nat) = .ok n) : n = a + b := by
  unfold add at h
  cases hsum : add? a b with
  | none => rw [hsum] at h; cases h
  | some k =>
    rw [hsum] at h
    cases h
    exact (add?_eq_some hsum).1

lemma mul_eq_ok (h : (mul a b : Outcome ε Nat) = .ok n) : n = a * b := by
  unfold mul at h
  cases hproduct : mul? a b with
  | none => rw [hproduct] at h; cases h
  | some k =>
    rw [hproduct] at h
    cases h
    exact (mul?_eq_some hproduct).1

lemma foldlM_add?_eq_some {ns : List Nat} (h : ns.foldlM add? a = some n) : n = a + ns.sum := by
  induction ns generalizing a with
  | nil =>
    cases h
    rfl
  | cons k ns ih =>
    obtain ⟨m, hm, hrest⟩ := Option.bind_eq_some_iff.1 h
    rw [ih hrest, (add?_eq_some hm).1, List.sum_cons, Nat.add_assoc]

end Word

namespace Buffer

variable {b : Buffer} {k n : Nat} {ε ε' : Type}

/-- A buffer has as many bytes as its elements have. -/
lemma byteCount_eq_mul (hcount : (b.count : Outcome ε Nat) = .ok k)
    (hn : (b.byteCount : Outcome ε' Nat) = .ok n) : n = k * b.dtype.size := by
  obtain ⟨k', hk', hmul⟩ := Outcome.bind_eq_ok_iff.1 hn
  unfold count Word.product at hcount
  unfold Word.product at hk'
  cases hshape : Word.product? b.shape with
  | none => rw [hshape] at hcount; cases hcount
  | some p =>
    rw [hshape] at hcount hk'
    cases hcount
    cases hk'
    exact Word.mul_eq_ok hmul

end Buffer

namespace Communicator

open SimulatedLink

variable {devices W : Nat} {op : String} {t : Dtype} {b first : Buffer} {place : Topology}
  {q : HostState × Communicator SimulatedLink} {inputs outputs : List Buffer} {sizes : List Nat}
  {may : ExchangeError → Prop}

lemma verifies_topology :
    (topology? : Act Net (HostState × Communicator SimulatedLink) ExchangeError Topology).Verifies
      (fun place => place = q.2.topology) q := .view rfl

lemma verifies_entries (op list : String) :
    (Act.ofOutcome (checkEntries op list W sizes) :
      Act Net (HostState × Communicator SimulatedLink) ExchangeError Unit).Verifies
      (fun _ => sizes.length = W) q := by
  unfold checkEntries Outcome.ensure
  by_cases h : sizes.length = W
  · rw [if_pos h]
    exact .pure h
  · rw [if_neg h]
    exact .fail (.inl trivial)

lemma verifies_checkDevice [TensorLibrary] :
    (checkDevice transport b).Verifies (fun _ => b.device = q.2.link.device) q := by
  refine .bind (.view rfl) ?_
  rintro _ rfl
  exact .ensure _ (.inl trivial)

lemma verifies_checkAlike [TensorLibrary] :
    (checkAlike transport op t inputs).Verifies (fun _ => ∀ b ∈ inputs, b.dtype = t) q := by
  refine .forEach ?_
  intro b
  refine .bind verifies_checkDevice ?_
  intro _ _
  exact .ensure _ (.inl trivial)

lemma verifies_count :
    (Act.ofOutcome b.count :
      Act Net (HostState × Communicator SimulatedLink) ExchangeError Nat).Verifies
      (fun k => (b.count : Outcome ExchangeError Nat) = .ok k) q :=
  .ofOutcome (fun _ h => h) (Outcome.Errorless.refuses (.orFault _))

lemma verifies_checkCounts :
    (checkCounts op first inputs :
      Act Net (HostState × Communicator SimulatedLink) ExchangeError Unit).Verifies
      (fun _ => ∀ b ∈ inputs, True) q := by
  refine .forEach ?_
  intro b
  refine .bind verifies_count ?_
  intro count _
  refine .bind verifies_count ?_
  intro expected _
  exact (Act.Checks.ensure _ (.inl trivial)).mono fun _ _ => trivial

/-- All buffers of a batch are of its type. -/
lemma verifies_checkBatch [TensorLibrary] :
    (checkBatch transport op inputs outputs).Verifies
      (fun t? => ∀ t, t? = some t → ∀ b ∈ inputs ++ outputs, b.dtype = t) q := by
  refine .bind (.ensure _ (.inl trivial)) ?_
  intro _ _
  cases inputs with
  | nil => exact .pure nofun
  | cons first rest =>
    refine .bind verifies_checkAlike ?_
    intro _ halike
    refine .bind verifies_checkCounts ?_
    intro _ _
    refine .pure ?_
    rintro _ ⟨⟩
    exact halike

lemma verifies_total (op : String) (size : Nat) :
    (Act.ofOutcome (total op sizes size) :
      Act Net (HostState × Communicator SimulatedLink) ExchangeError Nat).Verifies
      (fun n => n = sizes.sum) q := by
  unfold total
  cases htotal : total? sizes size with
  | none => exact .fail (.inl trivial)
  | some n =>
    refine .pure ?_
    obtain ⟨m, hm, hrest⟩ := Option.bind_eq_some_iff.1 htotal
    obtain ⟨bytes, -, hn⟩ := Option.bind_eq_some_iff.1 hrest
    cases hn
    rw [Word.foldlM_add?_eq_some hm, Nat.zero_add]

/-- The buffer has at least so many elements. -/
def HasRoom (needed : Nat) (b : Buffer) : Prop :=
  ∃ k, (b.count : Outcome ExchangeError Nat) = .ok k ∧ needed ≤ k

lemma HasRoom.bytes {needed n : Nat} (h : HasRoom needed b)
    (hn : b.byteCount = (.ok n : Outcome ExchangeError Nat)) : needed * b.dtype.size ≤ n := by
  obtain ⟨k, hk, hle⟩ := h
  rw [Buffer.byteCount_eq_mul hk hn]
  exact Nat.mul_le_mul_right _ hle

lemma verifies_checkCapacity (needed : Nat) :
    (checkCapacity op needed inputs :
      Act Net (HostState × Communicator SimulatedLink) ExchangeError Unit).Verifies
      (fun _ => ∀ b ∈ inputs, HasRoom needed b) q := by
  refine .forEach ?_
  intro b
  refine .bind verifies_count ?_
  intro k hk
  refine (Act.Checks.ensure _ (.inl trivial)).mono ?_
  intro _ hle
  exact ⟨k, hk, hle⟩

lemma verifies_stream {X : Transport Net HostState SimulatedLink} (kind : StreamKind) :
    (stream (Host.platform devices) X kind).Verifies (fun _ => True) q := by
  refine .bind (.view rfl) ?_
  rintro number -
  have hdevice : (Host.checkDevice devices number :
      Act Net HostState DeviceError Unit).Checks (fun _ => True) (fun _ => True) q.1 :=
    (Act.Checks.ensure _ trivial).mono fun _ _ => trivial
  refine .within (.mapError (.bind hdevice fun _ _ => .pure trivial) ?_) rfl
  intro cause _
  exact .inr trivial

lemma agrees_exchangeParts [TensorLibrary] {str : Stream} {size peer sent received : Nat}
    {input output : Buffer} {sizes : List (Nat × Nat)} (hpeer : peer + sizes.length ≤ W)
    (hinput : ∀ n, input.byteCount = (.ok n : Outcome ExchangeError Nat) →
      sent + (sizes.map (·.1)).sum * size ≤ n)
    (houtput : ∀ n, output.byteCount = (.ok n : Outcome ExchangeError Nat) →
      received + (sizes.map (·.2)).sum * size ≤ n) :
    (exchangeParts unchecked str size input output peer sent received sizes).Agrees (Among W)
      ExchangeError.IsLate
      (exchangeParts transport str size input output peer sent received sizes) := by
  induction sizes generalizing peer sent received with
  | nil => exact .pure ()
  | cons part rest ih =>
    obtain ⟨out, back⟩ := part
    simp only [List.map_cons, List.sum_cons, Nat.add_mul, ← Nat.add_assoc] at hinput houtput
    rw [List.length_cons] at hpeer
    refine .bind (agrees_send (fun _ h => h) ⟨by omega, ?_⟩) ?_
    · intro n hn
      exact ⟨Nat.le_add_right _ _, Nat.le_trans (Nat.le_add_right _ _) (hinput n hn)⟩
    intro _
    refine .bind (agrees_recv (fun _ h => h) ⟨by omega, ?_⟩) ?_
    · intro n hn
      exact ⟨Nat.le_add_right _ _, Nat.le_trans (Nat.le_add_right _ _) (houtput n hn)⟩
    intro _
    exact ih (by omega) hinput houtput

lemma agrees_gatherParts [TensorLibrary] {str : Stream} {size own peer received : Nat}
    {input output : Buffer} {sizes : List Nat} (hpeer : peer + sizes.length ≤ W)
    (hinput : ∀ n, input.byteCount = (.ok n : Outcome ExchangeError Nat) → own * size ≤ n)
    (houtput : ∀ n, output.byteCount = (.ok n : Outcome ExchangeError Nat) →
      received + sizes.sum * size ≤ n) :
    (gatherParts unchecked str size own input output peer received sizes).Agrees (Among W)
      ExchangeError.IsLate
      (gatherParts transport str size own input output peer received sizes) := by
  induction sizes generalizing peer received with
  | nil => exact .pure ()
  | cons count rest ih =>
    simp only [List.sum_cons, Nat.add_mul, ← Nat.add_assoc] at houtput
    rw [List.length_cons] at hpeer
    refine .bind (.ite (fun _ => agrees_send (fun _ h => h) ⟨by omega, ?_⟩) fun _ => .pure ()) ?_
    · intro n hn
      exact ⟨Nat.zero_le _, hinput n hn⟩
    intro _
    refine .bind (.ite (fun _ => agrees_recv (fun _ h => h) ⟨by omega, ?_⟩) fun _ => .pure ()) ?_
    · intro n hn
      exact ⟨Nat.le_add_right _ _, Nat.le_trans (Nat.le_add_right _ _) (houtput n hn)⟩
    intro _
    exact ih (by omega) houtput

structure Seated (place : Topology) (q : HostState × Communicator SimulatedLink) : Prop where
  worldSize : q.2.link.worldSize = place.worldSize
  topology : q.2.topology = place

lemma agrees_onLink {m' m : LinkAct Unit} (h : m'.Agrees (Among place.worldSize) may m) :
    (onLink m').Agrees (Seated place) may (onLink m) :=
  h.within (fun _ hq => hq.worldSize) fun _ _ hq hl => ⟨hl, hq.topology⟩

variable [TensorLibrary]

lemma agrees_rounds {α : Type} {pairs : List α} {transfers' transfers : α → LinkAct Unit}
    (h : ∀ pair ∈ pairs, (transfers' pair).Agrees (Among place.worldSize) ExchangeError.IsLate
      (transfers pair)) :
    (Act.forEach pairs fun pair => onLink (inRound unchecked (transfers' pair))).Agrees
      (Seated place) ExchangeError.IsLate
      (Act.forEach pairs fun pair => onLink (inRound transport (transfers pair))) :=
  .forEach fun pair hpair => agrees_onLink (agrees_inRound (fun _ h => h) (h pair hpair))

lemma vetted_allToAll {ins outs : List Nat} (hq : Seated place q) :
    (allToAll (Host.platform devices) unchecked inputs outputs ins outs).Vetted
      (Seated place)
      (allToAll (Host.platform devices) transport inputs outputs ins outs) q := by
  unfold Communicator.allToAll
  refine .check hq verifies_topology ?_
  rintro _ rfl
  rw [hq.topology]
  refine .check hq (verifies_entries _ _) ?_
  intro _ hins
  refine .check hq (verifies_entries _ _) ?_
  intro _ houts
  refine .check hq verifies_checkBatch ?_
  rintro (_ | t) htype
  · exact .of_agrees (.pure ()) hq
  have hdtype := htype t rfl
  refine .check hq (verifies_total _ _) ?_
  rintro _ rfl
  refine .check hq (verifies_checkCapacity _) ?_
  intro _ hinputs
  refine .check hq (verifies_total _ _) ?_
  rintro _ rfl
  refine .check hq (verifies_checkCapacity _) ?_
  intro _ houtputs
  refine .check hq (verifies_stream _) ?_
  intro compute _
  refine .of_agrees (agrees_rounds ?_) hq
  rintro ⟨input, output⟩ hpair
  obtain ⟨hinput, houtput⟩ := List.of_mem_zip hpair
  have hlength : ins.length = outs.length := hins.trans houts.symm
  refine agrees_exchangeParts ?_ ?_ ?_
  · rw [List.length_zip, hins, houts]
    omega
  · intro n hn
    rw [List.map_fst_zip (Nat.le_of_eq hlength), Nat.zero_add,
      ← hdtype input (List.mem_append_left _ hinput)]
    exact (hinputs input hinput).bytes hn
  · intro n hn
    rw [List.map_snd_zip (Nat.le_of_eq hlength.symm), Nat.zero_add,
      ← hdtype output (List.mem_append_right _ houtput)]
    exact (houtputs output houtput).bytes hn

lemma vetted_allGather (hq : Seated place q) :
    (allGather (Host.platform devices) unchecked inputs outputs sizes).Vetted
      (Seated place)
      (allGather (Host.platform devices) transport inputs outputs sizes) q := by
  unfold Communicator.allGather
  refine .check hq verifies_topology ?_
  rintro _ rfl
  rw [hq.topology]
  refine .check hq (verifies_entries _ _) ?_
  intro _ hsizes
  refine .check hq verifies_checkBatch ?_
  rintro (_ | t) htype
  · exact .of_agrees (.pure ()) hq
  have hdtype := htype t rfl
  refine .check hq (.ofOutcome (fun _ _ => trivial) (Outcome.Errorless.refuses (.orFault _))) ?_
  intro own _
  refine .check hq (verifies_total _ _) ?_
  rintro _ rfl
  refine .check hq (verifies_checkCapacity _) ?_
  intro _ houtputs
  refine .check hq (verifies_checkCapacity _) ?_
  intro _ hinputs
  refine .check hq (verifies_stream _) ?_
  intro compute _
  refine .of_agrees (agrees_rounds ?_) hq
  rintro ⟨input, output⟩ hpair
  obtain ⟨hinput, houtput⟩ := List.of_mem_zip hpair
  refine agrees_gatherParts ?_ ?_ ?_
  · omega
  · intro n hn
    rw [← hdtype input (List.mem_append_left _ hinput)]
    exact (hinputs input hinput).bytes hn
  · intro n hn
    rw [Nat.zero_add, ← hdtype output (List.mem_append_right _ houtput)]
    exact (houtputs output houtput).bytes hn

lemma vetted_broadcast {root : Nat} (hq : Seated place q) :
    (broadcast (Host.platform devices) unchecked b root).Vetted (Seated place)
      (broadcast (Host.platform devices) transport b root) q := by
  unfold Communicator.broadcast
  refine .check hq verifies_topology ?_
  rintro _ rfl
  rw [hq.topology]
  refine .check hq (.ensure _ (.inl trivial)) ?_
  intro _ hroot
  refine .check hq verifies_checkDevice ?_
  intro _ _
  refine .check hq (verifies_stream _) ?_
  intro compute _
  exact .of_agrees (agrees_onLink (agrees_broadcast (fun _ h => h) hroot)) hq

lemma vetted_allReduce (hq : Seated place q) :
    (allReduce (Host.platform devices) unchecked b).Vetted (Seated place)
      (allReduce (Host.platform devices) transport b) q := by
  refine .check hq verifies_checkDevice ?_
  intro _ _
  refine .check hq (verifies_stream _) ?_
  intro compute _
  exact .of_agrees (agrees_onLink (steady_allReduce fun _ h => h)) hq

/-- A collective of a communicator. -/
inductive Call where
  | allToAll (inputs outputs : List Buffer) (ins outs : List Nat)
  | allGather (inputs outputs : List Buffer) (sizes : List Nat)
  | broadcast (b : Buffer) (root : Nat)
  | allReduce (b : Buffer)

def Call.run (devices : Nat) :
    Call → Act Net (HostState × Communicator SimulatedLink) ExchangeError Unit
  | .allToAll inputs outputs ins outs =>
    Communicator.allToAll (Host.platform devices) transport inputs outputs ins outs
  | .allGather inputs outputs sizes =>
    Communicator.allGather (Host.platform devices) transport inputs outputs sizes
  | .broadcast b root => Communicator.broadcast (Host.platform devices) transport b root
  | .allReduce b => Communicator.allReduce (Host.platform devices) transport b

/-- A collective that rejects its arguments has asked the network for nothing and has changed
nothing. -/
theorem rejectsFirst_call (hW : q.2.link.worldSize = q.2.topology.worldSize) (call : Call) :
    (call.run devices).RejectsFirst ExchangeError.IsRejection q := by
  have hq : Seated q.2.topology q := ⟨hW, rfl⟩
  cases call with
  | allToAll inputs outputs ins outs => exact Act.rejectsFirst_of_vetted (vetted_allToAll hq)
  | allGather inputs outputs sizes => exact Act.rejectsFirst_of_vetted (vetted_allGather hq)
  | broadcast b root => exact Act.rejectsFirst_of_vetted (vetted_broadcast hq)
  | allReduce b => exact Act.rejectsFirst_of_vetted (vetted_allReduce hq)

end Communicator

end ExpertExchange
