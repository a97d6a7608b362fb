import ExpertExchange.Exchange.Scheduler
import ExpertExchange.Group.Simulated
import ExpertExchange.Proofs.Exchange.Planned
import ExpertExchange.Proofs.Group.Checks
import ExpertExchange.StandIn.Tensors

/-!
# Exchanges whose counts do not suit

A scatter or gather computes its layout before it asks or changes anything. So counts that a layout
refuses end the call with an error and leave everything as it was, over any transport and on any
platform. What ends it with a fault is only a number of slices that a word cannot count.
-/

namespace ExpertExchange

variable {S : Service} {σ τ F E T α β : Type}

namespace Act

variable {m : Act S σ ExchangeError α} {f : α → Act S σ ExchangeError β} {s : σ} {a : α}

/-- From the state `s` the act asks nothing, changes nothing and ends with a rejection. -/
def Declines (m : Act S σ ExchangeError α) (s : σ) : Prop :=
  ∃ e, e.IsRejection ∧ m s = .done (.error e, s)

/-- From the state `s` the act asks nothing, changes nothing and ends with a value or a
rejection. -/
def Screens (m : Act S σ ExchangeError α) (s : σ) : Prop :=
  (∃ a, m s = .done (.ok a, s)) ∨ m.Declines s

namespace Declines

lemma fail {e : ExchangeError} (he : e.IsRejection) :
    (Act.fail e : Act S σ ExchangeError α).Declines s := ⟨e, he, rfl⟩

lemma bind (hm : m.Declines s) : (m.bind f).Declines s := by
  obtain ⟨e, he, hend⟩ := hm
  exact ⟨e, he, bind_error hend⟩

lemma after (hm : m s = .done (.ok a, s)) (hf : (f a).Declines s) : (m.bind f).Declines s := by
  obtain ⟨e, he, hend⟩ := hf
  exact ⟨e, he, (bind_done hm).trans hend⟩

end Declines

namespace Screens

lemma view {g : σ → α} : (Act.view g : Act S σ ExchangeError α).Screens s := .inl ⟨g s, rfl⟩

lemma ensure (p : Prop) [Decidable p] {e : ExchangeError} (he : e.IsRejection) :
    (Act.ensure p e : Act S σ ExchangeError Unit).Screens s := by
  by_cases hp : p
  · exact .inl ⟨(), ensure_done hp e s⟩
  · rw [Act.ensure, if_neg hp]
    exact .inr (.fail he)

/-- Behind a screen an act declines if it declines whatever the screen gives. -/
lemma declines (hm : m.Screens s) (hf : ∀ a, (f a).Declines s) : (m.bind f).Declines s := by
  rcases hm with ⟨a, ha⟩ | hm
  · exact .after ha (hf a)
  · exact hm.bind

lemma bind (hm : m.Screens s) (hf : ∀ a, (f a).Screens s) : (m.bind f).Screens s := by
  rcases hm with ⟨a, ha⟩ | hm
  · rcases hf a with ⟨b, hb⟩ | hdeclines
    · exact .inl ⟨b, (bind_done ha).trans hb⟩
    · exact .inr (.after ha hdeclines)
  · exact .inr hm.bind

lemma forEach {xs : List β} {f : β → Act S σ ExchangeError Unit} (hf : ∀ x, (f x).Screens s) :
    (Act.forEach xs f).Screens s := by
  induction xs with
  | nil => exact .inl ⟨(), rfl⟩
  | cons x xs ih => exact bind (hf x) fun _ => ih

lemma within {p : Part τ σ} {t : τ} (hm : m.Screens (p.get t)) (hp : p.put t (p.get t) = t) :
    (m.within p).Screens t := by
  rcases hm with ⟨a, ha⟩ | ⟨e, he, hend⟩
  · exact .inl ⟨a, by rw [Act.within, ha, Program.bind, hp]⟩
  · exact .inr ⟨e, he, by rw [Act.within, hend, Program.bind, hp]⟩

end Screens

end Act

namespace Communicator

variable {X : Transport S σ T} {b : Buffer} {inputs : List Buffer} {op : String} {t : Dtype}
  {q : σ × Communicator T}

lemma screens_checkDevice : (checkDevice X b).Screens q := by
  refine .bind .view ?_
  intro number
  apply Act.Screens.ensure
  trivial

lemma screens_checkAlike : (checkAlike X op t inputs).Screens q := by
  apply Act.Screens.forEach
  intro b
  apply Act.Screens.bind screens_checkDevice
  intro _
  apply Act.Screens.ensure
  trivial

end Communicator

namespace Scheduler

open Split

variable {P : Platform S σ F E} {X : Transport S σ T} {e : Engine S σ F E T} {input : Buffer}
  {inputs : List Buffer} {shape : List Nat} {total stages slices W capacity : Nat}
  {direction : Direction}

/-- The engine belongs to a group of `W` ranks and has a pool of `capacity` slots. -/
def Sized (W capacity : Nat) (e : Engine S σ F E T) : Prop :=
  e.2.2.comm.topology.worldSize = W ∧ e.2.2.slots.capacity = capacity

lemma plan_sized (he : Sized W capacity e) :
    (plan total stages slices direction : Act S (Engine S σ F E T) ExchangeError Split) e =
      .done (Split.create total stages slices W capacity direction, e) := by
  obtain ⟨rfl, rfl⟩ := he
  rfl

/-- What the counts make of a call that computes a layout of `total` bytes; the other checks
before it are `passed`. -/
structure Screened (total stages slices W capacity : Nat) (passed : Prop)
    (m : Act S (Engine S σ F E T) ExchangeError α) (e : Engine S σ F E T) : Prop where
  /-- Counts that do not suit are an error, whether or not the other checks pass. -/
  declined : ¬ Admissible total stages slices W capacity →
    ¬ Uncountable stages slices W capacity → m.Declines e
  /-- Too many slices are a fault. -/
  breaks : passed → Uncountable stages slices W capacity → m e = .done (.fault none, e)

lemma Screened.after {passed : Prop} {m : Act S (Engine S σ F E T) ExchangeError β} {b : β}
    {f : β → Act S (Engine S σ F E T) ExchangeError α} (hm : m e = .done (.ok b, e))
    (hf : Screened total stages slices W capacity passed (f b) e) :
    Screened total stages slices W capacity passed (m.bind f) e := by
  constructor
  · intro hbad hcountable
    exact .after hm (hf.declined hbad hcountable)
  · intro hpassed huncountable
    exact (Act.bind_done hm).trans (hf.breaks hpassed huncountable)

/-- A call that is screened and then computes a layout. -/
lemma Screened.of_plan (hworld : 0 < W) (he : Sized W capacity e) {passed : Prop}
    {screen : Act S (Engine S σ F E T) ExchangeError Unit}
    {size : Outcome ExchangeError Nat} (hsize : size = .ok total)
    {later : Split → Act S (Engine S σ F E T) ExchangeError α}
    (hscreen : screen.Screens e) (hpassed : passed → screen e = .done (.ok (), e)) :
    Screened total stages slices W capacity passed
      (screen.bind fun _ => (Act.ofOutcome size).bind fun n =>
        (plan n stages slices direction).bind later) e := by
  subst hsize
  constructor
  · intro hbad hcountable
    -- The screen may already have declined, with an error of its own.
    apply hscreen.declines
    intro _
    obtain ⟨why, hwhy⟩ := create_of_not_admissible hworld hbad hcountable direction
    apply Act.Declines.after rfl
    apply Act.Declines.bind
    exact ⟨.invalidSplit why, trivial, by rw [plan_sized he, hwhy]⟩
  · intro hok huncountable
    have hfault : (plan total stages slices direction : Act S (Engine S σ F E T) _ _) e =
        .done (.fault none, e) := by
      rw [plan_sized he, create_of_uncountable hworld huncountable]
    exact (Act.bind_done (hpassed hok)).trans ((Act.bind_done rfl).trans (Act.bind_fault hfault))

lemma screened_scatter (hworld : 0 < W) (he : Sized W capacity e)
    (hsize : (input.byteCount : Outcome ExchangeError Nat) = .ok total) :
    Screened total stages slices W capacity (input.device = X.device e.2.2.comm.link)
      (scatter P X input shape stages slices direction) e := by
  apply Screened.of_plan hworld he hsize
  · exact .within Communicator.screens_checkDevice rfl
  · intro hdevice
    exact onComm_eq (Communicator.checkDevice_eq hdevice)

/-- The stage buffers are as many as the stages, on the right device and of one type. -/
structure Alike (X : Transport S σ T) (stages : Nat) (inputs : List Buffer)
    (e : Engine S σ F E T) : Prop where
  length : inputs.length = stages
  device : ∀ b ∈ inputs, b.device = X.device e.2.2.comm.link
  dtype : ∀ b ∈ inputs, ∀ b' ∈ inputs, b.dtype = b'.dtype

lemma screened_gather (hworld : 0 < W) (he : Sized W capacity e)
    (hsize : ∀ first ∈ inputs.head?,
      (Buffer.sizeOf first.dtype shape : Outcome ExchangeError Nat) = .ok total) :
    Screened total stages slices W capacity (Alike X stages inputs e)
      (gather P X inputs shape stages slices direction) e := by
  by_cases hlength : inputs.length = stages
  · have hensure : (Act.ensure (inputs.length = stages)
        (.invalidSplit (.stageBuffers "gather_async" inputs.length stages)) :
        Act S (Engine S σ F E T) ExchangeError Unit) e = .done (.ok (), e) :=
      Act.ensure_done hlength _ e
    cases inputs with
    | nil =>
      -- Without stage buffers no layout is computed, as there are no stages.
      constructor
      · intro _ _
        exact .after hensure (.fail trivial)
      · intro _ huncountable
        have := huncountable.stages_pos
        simp at hlength
        omega
    | cons first rest =>
      apply Screened.after hensure
      apply Screened.of_plan hworld he (hsize first rfl)
      · exact .within Communicator.screens_checkAlike rfl
      · intro halike
        apply onComm_eq
        apply Communicator.checkAlike_eq
        intro b hb
        exact ⟨halike.dtype b hb first List.mem_cons_self, halike.device b hb⟩
  · constructor
    · intro _ _
      apply Act.Declines.bind
      rw [Act.ensure, if_neg hlength]
      exact .fail trivial
    · intro halike _
      exact absurd halike.length hlength

/-- Which counts give a layout, which are refused, and which break the computation; a scatter and a
gather of `total` bytes follow suit, in any group of the right size. -/
theorem counts_screened (hworld : 0 < W) (total stages slices capacity : Nat)
    (direction : Direction) (P : Platform S σ F E) (X : Transport S σ T) :
    Split.Verdict total stages slices W capacity direction ∧
    ∀ e : Engine S σ F E T, Sized W capacity e →
      (∀ input shape, (input.byteCount : Outcome ExchangeError Nat) = .ok total →
        Screened total stages slices W capacity (input.device = X.device e.2.2.comm.link)
          (scatter P X input shape stages slices direction) e) ∧
      ∀ inputs shape, (∀ first ∈ inputs.head?,
          (Buffer.sizeOf first.dtype shape : Outcome ExchangeError Nat) = .ok total) →
        Screened total stages slices W capacity (Alike X stages inputs e)
          (gather P X inputs shape stages slices direction) e := by
  constructor
  · exact Split.verdict hworld total stages slices capacity direction
  · intro e he
    constructor
    · intro input shape hsize
      exact screened_scatter hworld he hsize
    · intro inputs shape hsize
      exact screened_gather hworld he hsize

def twoSlots : Engine Net HostState HostFunction HostEvent SimulatedLink :=
  (⟨[], [], [], []⟩, .create 1 [] .none,
    ⟨⟨⟨[], 1, 0, 0, 0, 0, []⟩, ⟨1, 0, 1, 0⟩⟩, ⟨0, [⟨0, 0⟩, ⟨0, 1⟩], [.fresh, .fresh]⟩,
      ⟨⟨0⟩, ⟨1⟩, 1, 1⟩, .ofPolicy .silent⟩)

open StandIn in
/-- Thirteen bytes do not divide into six slices, and twelve do. -/
theorem counts_screened_six_slices :
    0 < 1 ∧ Split.create 12 2 3 1 2 .forward = .ok ⟨2, 3, 1, 2, .forward⟩ ∧
      (∃ why, Split.create 13 2 3 1 2 .forward = .error (.invalidSplit why)) ∧
      (scatter (Host.platform 1) SimulatedLink.transport ⟨.u8, [13], 0, 0⟩ [6] 2 3
        .forward).Declines twoSlots := by
  have huneven : ¬ Admissible 13 2 3 1 2 := fun h => absurd h.slices_dvd (by decide)
  have hfew : ¬ Uncountable 2 3 1 2 := fun h => absurd h.bound_le (by decide)
  have htwelve := counts_screened Nat.zero_lt_one 12 2 3 2 .forward
    (Host.platform 1 : Platform Net _ _ _) SimulatedLink.transport
  have hthirteen := counts_screened Nat.zero_lt_one 13 2 3 2 .forward
    (Host.platform 1 : Platform Net _ _ _) SimulatedLink.transport
  have heven : Admissible 12 2 3 1 2 :=
    ⟨⟨by decide, by decide, by decide, by decide⟩, by decide⟩
  constructor
  · exact Nat.zero_lt_one
  constructor
  · exact (htwelve.1.accepted _).2 ⟨heven, by decide, rfl⟩
  constructor
  · exact hthirteen.1.refused.2 ⟨huneven, hfew⟩
  · exact ((hthirteen.2 twoSlots ⟨rfl, rfl⟩).1 _ _ rfl).declined huneven hfew

open StandIn in
/-- Two stages of so many slices that a word cannot count them all do not divide one byte, but are
no error. -/
theorem countless_slices_break :
    ¬ 2 * 0x8000000000000000 ∣ 1 ∧
      Split.create 1 2 0x8000000000000000 1 2 .forward = .fault none ∧
      scatter (Host.platform 1) SimulatedLink.transport ⟨.u8, [1], 0, 0⟩ [1] 2 0x8000000000000000
        .forward twoSlots = .done (.fault none, twoSlots) := by
  have hcountless : Uncountable 2 0x8000000000000000 1 2 :=
    ⟨⟨by decide, by decide, by decide, Nat.one_dvd _⟩, by decide⟩
  constructor
  · decide
  constructor
  · exact create_of_uncountable Nat.zero_lt_one hcountless _
  · exact (screened_scatter Nat.zero_lt_one ⟨rfl, rfl⟩ rfl).breaks rfl hcountless

end Scheduler

end ExpertExchange
