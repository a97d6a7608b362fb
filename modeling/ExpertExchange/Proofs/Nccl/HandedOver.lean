import ExpertExchange.Nccl.Backend
import ExpertExchange.Proofs.Act.Asked
import Mathlib.Tactic.Lemma

/-!
# A communicator that is handed over

Whatever the order in which the thread makes and sends its result and the caller receives it, or
gives up and drops the channel: what was made is in one place at any time. In the end it is with the
caller, or it was dropped once, on the thread or with the channel, and the caller has timed out.
-/

namespace ExpertExchange

variable {ε α : Type}

def Handover.values (results : List (Outcome ε α)) : List α := results.flatMap (·.toOption.toList)

def MakerState.held : MakerState ε α → List α
  | .made result => Handover.values [result]
  | _ => []

def CallerState.held : CallerState ε α → List α
  | .received result => Handover.values [result]
  | _ => []

namespace Handover

/-- The events, in this order, lead from the start to the handover. -/
inductive Run : List (Event ε α) → Handover ε α → Prop where
  | nil : Run [] start
  | snoc {events : List (Event ε α)} {h h' : Handover ε α} {e : Event ε α} (hrun : Run events h)
      (hstep : h.next? e = some h') : Run (events ++ [e]) h'

/-- Nothing can happen any more. -/
def Complete (h : Handover ε α) : Prop := ∀ e, h.next? e = none

def Event.made? : Event ε α → Option (Outcome ε α)
  | .make result => some result
  | _ => none

/-- Whether the caller's time is up. -/
def Event.isGiveUp : Event ε α → Bool
  | .giveUp => true
  | _ => false

def made (events : List (Event ε α)) : List (Outcome ε α) := events.filterMap Event.made?

/-- Whether the caller has given up. -/
def late (events : List (Event ε α)) : Bool := events.any Event.isGiveUp

/-- All values that were made and where they are: with the thread, in the channel, with the caller,
or dropped. -/
def owners (h : Handover ε α) : List α :=
  h.maker.held ++ values h.channel.toList ++ h.caller.held ++ h.dropped

/-- The caller has heard nothing of the thread; whether it has given up. -/
inductive Unheard : Bool → CallerState ε α → Prop where
  | waiting : Unheard false .waiting
  | givenUp : Unheard true .givenUp
  | gone : Unheard true .gone

/-- Where a handover stands, with the results that were made and whether the caller has given up. -/
inductive Stands : List (Outcome ε α) → Bool → Handover ε α → Prop where
  | working {late : Bool} {c : CallerState ε α} (hc : Unheard late c) :
      Stands [] late ⟨c, .working, none, []⟩
  | made {result : Outcome ε α} {late : Bool} {c : CallerState ε α} (hc : Unheard late c) :
      Stands [result] late ⟨c, .made result, none, []⟩
  | broken {w : Option String} {late : Bool} {c : CallerState ε α} (hc : Unheard late c) :
      Stands [.fault w] late ⟨c, .finished, none, []⟩
  | disconnected {w : Option String} :
      Stands [.fault w] false ⟨.disconnected, .finished, none, []⟩
  | queued {result : Outcome ε α} (hsent : ∀ w, result ≠ .fault w) :
      Stands [result] false ⟨.waiting, .finished, some result, []⟩
  | abandoned {result : Outcome ε α} (hsent : ∀ w, result ≠ .fault w) :
      Stands [result] true ⟨.givenUp, .finished, some result, []⟩
  | received {result : Outcome ε α} (hsent : ∀ w, result ≠ .fault w) :
      Stands [result] false ⟨.received result, .finished, none, []⟩
  | dropped {result : Outcome ε α} (hsent : ∀ w, result ≠ .fault w) :
      Stands [result] true ⟨.gone, .finished, none, values [result]⟩

variable {results : List (Outcome ε α)} {gaveUp : Bool} {h h' : Handover ε α} {e : Event ε α}
  {events : List (Event ε α)}

/-- As long as nothing is in the channel, the caller's clock changes nothing but the caller. -/
lemma Unheard.step {c : CallerState ε α} {m : MakerState ε α} (hc : Unheard gaveUp c)
    (he : e = .giveUp ∨ e = .dropChannel)
    (hstep : (⟨c, m, none, []⟩ : Handover ε α).next? e = some h') :
    ∃ c', h' = ⟨c', m, none, []⟩ ∧ Unheard (gaveUp || e.isGiveUp) c' := by
  rcases he with rfl | rfl
  · cases hc with
    | waiting =>
      cases hstep
      exact ⟨_, rfl, .givenUp⟩
    | givenUp => cases hstep
    | gone => cases hstep
  · cases hc with
    | waiting => cases hstep
    | givenUp =>
      cases hstep
      exact ⟨_, rfl, .gone⟩
    | gone => cases hstep

/-- A result that the thread sends is queued, unless there is no channel any more. -/
lemma next?_send {c : CallerState ε α} {result : Outcome ε α} (hsent : ∀ w, result ≠ .fault w) :
    (⟨c, .made result, none, []⟩ : Handover ε α).next? .send =
      match c with
      | .gone => some ⟨.gone, .finished, none, values [result]⟩
      | _ => some ⟨c, .finished, some result, []⟩ := by
  cases result with
  | fault w => exact absurd rfl (hsent w)
  | ok a => cases c <;> rfl
  | error cause => cases c <;> rfl

/-- What one event makes of a handover. -/
lemma Stands.step (hs : Stands results gaveUp h) (hstep : h.next? e = some h') :
    Stands (results ++ e.made?.toList) (gaveUp || e.isGiveUp) h' := by
  cases hs with
  | working hc =>
    cases e with
    | make result =>
      cases hstep
      rw [show (gaveUp || (Event.make result).isGiveUp) = gaveUp from Bool.or_false gaveUp]
      exact .made hc
    | send => cases hstep
    | receive => cases hc <;> cases hstep
    | giveUp =>
      obtain ⟨c', rfl, hc'⟩ := hc.step (.inl rfl) hstep
      exact .working hc'
    | dropChannel =>
      obtain ⟨c', rfl, hc'⟩ := hc.step (.inr rfl) hstep
      exact .working hc'
  | @made result _ _ hc =>
    cases e with
    | make _ => cases hstep
    | send =>
      by_cases hfault : ∃ w, result = .fault w
      · obtain ⟨w, rfl⟩ := hfault
        cases hstep
        rw [show (gaveUp || (Event.send : Event ε α).isGiveUp) = gaveUp from Bool.or_false gaveUp]
        exact .broken hc
      · have hsent : ∀ w, result ≠ .fault w := fun w hw => hfault ⟨w, hw⟩
        rw [next?_send hsent] at hstep
        cases hc with
        | waiting =>
          cases hstep
          exact .queued hsent
        | givenUp =>
          cases hstep
          exact .abandoned hsent
        | gone =>
          cases hstep
          exact .dropped hsent
    | receive => cases hc <;> cases hstep
    | giveUp =>
      obtain ⟨c', rfl, hc'⟩ := hc.step (.inl rfl) hstep
      exact .made hc'
    | dropChannel =>
      obtain ⟨c', rfl, hc'⟩ := hc.step (.inr rfl) hstep
      exact .made hc'
  | broken hc =>
    cases e with
    | make _ => cases hstep
    | send => cases hstep
    | receive =>
      cases hc with
      | waiting =>
        cases hstep
        exact .disconnected
      | givenUp => cases hstep
      | gone => cases hstep
    | giveUp =>
      obtain ⟨c', rfl, hc'⟩ := hc.step (.inl rfl) hstep
      exact .broken hc'
    | dropChannel =>
      obtain ⟨c', rfl, hc'⟩ := hc.step (.inr rfl) hstep
      exact .broken hc'
  | disconnected => cases e <;> cases hstep
  | @queued result hsent =>
    cases e with
    | make _ => cases hstep
    | send => cases hstep
    | receive =>
      cases hstep
      exact .received hsent
    | giveUp =>
      cases hstep
      exact .abandoned hsent
    | dropChannel => cases hstep
  | @abandoned result hsent =>
    cases e with
    | make _ => cases hstep
    | send => cases hstep
    | receive => cases hstep
    | giveUp => cases hstep
    | dropChannel =>
      cases hstep
      have hvalues : [] ++ result.toOption.toList = values [result] := by simp [values]
      rw [dropResult, hvalues]
      exact .dropped hsent
  | received hsent => cases e <;> cases hstep
  | dropped hsent => cases e <;> cases hstep

/-- Every order of events leads to one of these places. -/
lemma Run.stands (hrun : Run events h) : Stands (made events) (late events) h := by
  induction hrun with
  | nil => exact .working .waiting
  | @snoc events h h' e _ hstep ih =>
    have hmade : made (events ++ [e]) = made events ++ e.made?.toList := by
      rw [made, List.filterMap_append, made]
      cases hm : e.made? <;> simp [hm]
    have hlate : late (events ++ [e]) = (late events || e.isGiveUp) := by simp [late]
    rw [hmade, hlate]
    exact ih.step hstep

/-- Each value that was made is in one place, and no other value is anywhere. -/
lemma Stands.owners_eq (hs : Stands results gaveUp h) : h.owners = values results := by
  cases hs with
  | working hc => cases hc <;> rfl
  | made hc => cases hc <;> simp [owners, MakerState.held, CallerState.held, values]
  | broken hc => cases hc <;> rfl
  | disconnected => rfl
  | queued _ => simp [owners, MakerState.held, CallerState.held, values]
  | abandoned _ => simp [owners, MakerState.held, CallerState.held, values]
  | received _ => simp [owners, MakerState.held, CallerState.held, values]
  | dropped _ => simp [owners, MakerState.held, CallerState.held, values]

lemma Stands.length_le (hs : Stands results gaveUp h) : results.length ≤ 1 := by
  cases hs <;> simp

/-- Where a handover can end. -/
inductive Ends : Outcome ε α → Bool → Handover ε α → Prop where
  | received {result : Outcome ε α} (hsent : ∀ w, result ≠ .fault w) :
      Ends result false ⟨.received result, .finished, none, []⟩
  | disconnected {w : Option String} : Ends (.fault w) false ⟨.disconnected, .finished, none, []⟩
  | dropped {result : Outcome ε α} : Ends result true ⟨.gone, .finished, none, values [result]⟩

lemma Stands.ends (hs : Stands results gaveUp h) (hcomplete : h.Complete) :
    ∃ result, results = [result] ∧ Ends result gaveUp h := by
  cases hs with
  | working hc => cases hcomplete (.make (.fault none))
  | @made result _ _ hc =>
    have hstuck := hcomplete .send
    by_cases hfault : ∃ w, result = .fault w
    · obtain ⟨w, rfl⟩ := hfault
      cases hstuck
    · rw [next?_send fun w hw => hfault ⟨w, hw⟩] at hstuck
      cases hc <;> cases hstuck
  | broken hc =>
    cases hc with
    | waiting => cases hcomplete .receive
    | givenUp => cases hcomplete .dropChannel
    | gone => exact ⟨_, rfl, .dropped⟩
  | disconnected => exact ⟨_, rfl, .disconnected⟩
  | queued _ => cases hcomplete .receive
  | abandoned _ => cases hcomplete .dropChannel
  | received hsent => exact ⟨_, rfl, .received hsent⟩
  | dropped _ => exact ⟨_, rfl, .dropped⟩

/-- What the caller has received is nowhere else. -/
lemma Ends.owners_in_time {result : Outcome ε α} (hend : Ends result false h) :
    h.owners = h.caller.held := by
  cases hend with
  | received _ => simp [owners, MakerState.held, values]
  | disconnected => rfl

/-- What came too late is dropped, and nowhere else. -/
lemma Ends.owners_late {result : Outcome ε α} (hend : Ends result true h) :
    h.owners = h.dropped := by
  cases hend
  rfl

/-- How many events are left at most. -/
def left (h : Handover ε α) : Nat :=
  (match h.maker with
    | .working => 2
    | .made _ => 1
    | .finished => 0) +
  match h.caller with
    | .waiting => 2
    | .givenUp => 1
    | _ => 0

lemma left_lt (hstep : h.next? e = some h') : h'.left < h.left := by
  obtain ⟨caller, maker, channel, dropped⟩ := h
  cases e with
  | make result =>
    cases maker <;> cases hstep
    simp [left]
  | send =>
    cases maker with
    | working => cases hstep
    | made result => cases result <;> cases caller <;> cases hstep <;> simp [left, dropResult]
    | finished => cases hstep
  | receive =>
    cases caller <;> cases channel <;> cases maker <;> cases hstep <;> simp [left]
  | giveUp =>
    cases caller <;> cases hstep
    simp [left]
  | dropChannel =>
    cases caller <;> cases channel <;> cases hstep <;> simp [left, dropResult]

lemma Run.length_le (hrun : Run events h) : events.length + h.left ≤ 4 := by
  induction hrun with
  | nil => exact Nat.le_refl 4
  | snoc _ hstep ih =>
    have hlt := left_lt hstep
    rw [List.length_append, List.length_singleton]
    omega

/-- Whatever has happened, the rest can happen, too. -/
lemma Run.completes (hrun : Run events h) : ∃ more h', Run (events ++ more) h' ∧ h'.Complete := by
  induction hleft : h.left using Nat.strongRecOn generalizing events h with
  | ind n ih =>
    by_cases hcomplete : h.Complete
    · refine ⟨[], h, ?_, hcomplete⟩
      rwa [List.append_nil]
    · obtain ⟨e, he⟩ := Classical.not_forall.1 hcomplete
      obtain ⟨h', hstep⟩ := Option.ne_none_iff_exists'.1 he
      obtain ⟨more, h'', hmore, hend⟩ := ih h'.left (hleft ▸ left_lt hstep) (hrun.snoc hstep) rfl
      refine ⟨e :: more, h'', ?_, hend⟩
      rwa [List.append_assoc] at hmore

end Handover

namespace Nccl

open Handover (Run Stands Ends made late values)

variable {σ : Type} {link : NcclLink} {rank worldSize timeout : Nat}
  {h : Handover ExchangeError NcclLink} {result : Outcome ExchangeError NcclLink}
  {events : List (Handover.Event ExchangeError NcclLink)}

def destroyed? : Machine.Request → Option Nat
  | .call (.ncclDestroy comm) => some comm
  | _ => none

lemma asks_check (op : String) (code : Int) :
    (check op code : Act Machine σ ExchangeError Unit).Asks destroyed? [] := by
  unfold check
  by_cases hcode : code = 0
  · rw [if_pos hcode]
    exact .of_done fun s => ⟨_, rfl⟩
  · rw [if_neg hcode]
    apply Act.Asks.bind (Act.Asks.request _)
    intro text
    exact .of_done fun s => ⟨_, rfl⟩

/-- A communicator is destroyed by one call. -/
lemma asks_destroy (link : NcclLink) : (destroy link).Asks destroyed? [link.comm] := by
  have hrun : (run "ncclCommDestroy" (.ncclDestroy link.comm) : NcclAct Nat).Asks destroyed?
      [link.comm] := by
    apply Act.Asks.bind (Act.Asks.request _)
    intro answer
    apply Act.Asks.bind (asks_check _ _)
    intro _
    exact .of_done fun s => ⟨_, rfl⟩
  apply Act.Asks.bind hrun.attempt
  intro outcome
  cases outcome <;> exact .of_done fun s => ⟨_, rfl⟩

lemma asks_onThread {α : Type} {m : NcclAct α} {seen : List Nat} (hm : m.Asks destroyed? seen) :
    (onThread m).Asks destroyed? seen := by
  intro s requests r hend
  obtain ⟨first, a, rest, rfl, hfirst, hrest⟩ := Program.endsAfter_bind hend
  rw [(Program.endsAfter_done hrest).1, List.append_nil, hm _ _ _ hfirst]

/-- What was dropped is destroyed, once. -/
lemma asks_cleanup (result : Outcome ExchangeError NcclLink) :
    (onThread (Act.forEach (values [result]) destroy)).Asks destroyed?
      ((values [result]).map NcclLink.comm) := by
  apply asks_onThread
  cases result with
  | ok link => exact Act.Asks.bind (asks_destroy link) fun _ => .of_done fun s => ⟨_, rfl⟩
  | error e => exact .of_done fun s => ⟨_, rfl⟩
  | fault w => exact .of_done fun s => ⟨_, rfl⟩

/-- A participant that leaves destroys its communicator, by one call. -/
lemma asks_close (s : CudaState × NcclLink) {requests : List Machine.Request}
    {r : Outcome ExchangeError Unit × (CudaState × NcclLink)}
    (hend : (transport.close s).EndsAfter requests r) :
    requests.filterMap destroyed? = [s.2.comm] :=
  (asks_destroy s.2).within s requests r hend

/-- A caller that has not given up gets the result as it was made, and nothing is destroyed. -/
lemma conclude_in_time (rank worldSize timeout : Nat) (hend : Ends result false h)
    (hmade : ∀ w, result ≠ .fault w) (s : CudaState) :
    conclude rank worldSize timeout h s = .done (result, s) := by
  cases hend with
  | received _ => rfl
  | disconnected => exact absurd rfl (hmade _)

/-- A caller that has not given up sees that the thread broke down. -/
lemma conclude_disconnected (rank worldSize timeout : Nat) {w : Option String}
    (hend : Ends (.fault w) false h) (s : CudaState) :
    conclude rank worldSize timeout h s =
      .done (.error (.nccl (.other "communicator init thread exited without a result")), s) := by
  cases hend with
  | received hsent => exact absurd rfl (hsent w)
  | disconnected => rfl

/-- A caller that has given up has timed out, and what was made is destroyed, once. -/
lemma conclude_late (rank worldSize timeout : Nat) (hend : Ends result true h) {s : CudaState}
    {requests : List Machine.Request} {r : Outcome ExchangeError NcclLink × CudaState}
    (hrun : (conclude rank worldSize timeout h s).EndsAfter requests r) :
    r.1 = .error (.rendezvousTimeout (reportedTimeout timeout)) ∧
      requests.filterMap destroyed? = (values [result]).map NcclLink.comm := by
  cases hend
  constructor
  · obtain ⟨first, a, rest, rfl, hfirst, hrest⟩ := Program.endsAfter_bind hrun
    obtain ⟨clean, b, last, rfl, -, hlast⟩ := Program.endsAfter_bind hrest
    rw [(Program.endsAfter_done hlast).2, (Program.endsAfter_done hfirst).2]
  · have hquiet : (answer rank worldSize timeout .gone).Asks destroyed? [] :=
      .of_done fun s => ⟨_, rfl⟩
    exact hquiet.andFinally (asks_cleanup result) s requests r hrun

/-- A communicator is never leaked and never destroyed twice, in any order of what the thread and
the caller do. At any time what was made is in one place. Every order comes to an end after a few
events. There the caller, and nobody else, has the result as it was made, and destroys it by one
call when it leaves; or the caller has given up and timed out, and what was made is destroyed by
one call. -/
theorem handover_settles (hrun : Run events h) (rank worldSize timeout : Nat) :
    h.owners = values (made events) ∧ (made events).length ≤ 1 ∧ events.length ≤ 4 ∧
    (∃ more h', Run (events ++ more) h' ∧ h'.Complete) ∧
    (h.Complete → ∃ result, made events = [result] ∧
      (late events = false → h.owners = h.caller.held ∧
        ((∀ w, result ≠ .fault w) → ∀ s, conclude rank worldSize timeout h s = .done (result, s)) ∧
        (∀ w, result = .fault w → ∀ s, conclude rank worldSize timeout h s =
          .done (.error (.nccl (.other "communicator init thread exited without a result")), s)) ∧
        ∀ link, result = .ok link → ∀ s requests r,
          (transport.close (s, link)).EndsAfter requests r →
            requests.filterMap destroyed? = [link.comm]) ∧
      (late events = true → h.owners = h.dropped ∧ ∀ s requests r,
        (conclude rank worldSize timeout h s).EndsAfter requests r →
          r.1 = .error (.rendezvousTimeout (reportedTimeout timeout)) ∧
          requests.filterMap destroyed? = (values [result]).map NcclLink.comm)) := by
  have hstands := hrun.stands
  have hlength := hrun.length_le
  refine ⟨hstands.owners_eq, hstands.length_le, by omega, hrun.completes, ?_⟩
  intro hcomplete
  obtain ⟨result, hmade, hend⟩ := hstands.ends hcomplete
  refine ⟨result, hmade, ?_, ?_⟩
  · intro hlate
    rw [hlate] at hend
    refine ⟨hend.owners_in_time, conclude_in_time rank worldSize timeout hend, ?_, ?_⟩
    · rintro w rfl
      exact conclude_disconnected rank worldSize timeout hend
    · intro link _ s requests r hclose
      exact asks_close (s, link) hclose
  · intro hlate
    rw [hlate] at hend
    exact ⟨hend.owners_late, fun s requests r => conclude_late rank worldSize timeout hend⟩

/-- The caller gives up while the communicator is in the channel, and the channel is dropped. -/
theorem handover_settles_abandoned :
    ∃ events, ∃ h : Handover ExchangeError NcclLink, Run events h ∧ h.Complete ∧
      made events = [.ok ⟨7, 0, 2, 0⟩] ∧ late events = true ∧ h.owners = [⟨7, 0, 2, 0⟩] ∧
      h.owners = h.dropped ∧ ∀ s requests r, (conclude 0 2 5 h s).EndsAfter requests r →
        r.1 = .error (.rendezvousTimeout 5) ∧ requests.filterMap destroyed? = [7] := by
  let link : NcclLink := ⟨7, 0, 2, 0⟩
  have hrun : Run [.make (.ok link), .giveUp, .send, .dropChannel]
      (⟨.gone, .finished, none, [link]⟩ : Handover ExchangeError NcclLink) :=
    .snoc (.snoc (.snoc (.snoc .nil rfl) rfl) rfl) rfl
  have hcomplete : (⟨.gone, .finished, none, [link]⟩ : Handover ExchangeError NcclLink).Complete :=
    by rintro (_ | _ | _ | _ | _) <;> rfl
  obtain ⟨howners, -, -, -, hend⟩ := handover_settles hrun 0 2 5
  obtain ⟨result, hmade, -, hlate⟩ := hend hcomplete
  cases hmade
  exact ⟨_, _, hrun, hcomplete, rfl, rfl, howners, hlate rfl⟩

lemma run_play (gaveUp : Bool) (result : Outcome ExchangeError NcclLink) :
    Run (Handover.schedule gaveUp result) (Handover.play gaveUp result) := by
  cases gaveUp with
  | true => cases result <;> exact .snoc (.snoc (.snoc (.snoc .nil rfl) rfl) rfl) rfl
  | false => cases result <;> exact .snoc (.snoc (.snoc .nil rfl) rfl) rfl

lemma ends_play (gaveUp : Bool) (result : Outcome ExchangeError NcclLink) :
    Ends result gaveUp (Handover.play gaveUp result) := by
  have hcomplete : (Handover.play gaveUp result).Complete := by
    cases gaveUp <;> cases result <;> rintro (_ | _ | _ | _ | _) <;> rfl
  have hevents : made (Handover.schedule gaveUp result) = [result] ∧
      late (Handover.schedule gaveUp result) = gaveUp := by
    cases gaveUp <;> exact ⟨rfl, rfl⟩
  obtain ⟨result', hmade, hend⟩ := (run_play gaveUp result).stands.ends hcomplete
  cases hevents.1.symm.trans hmade
  rwa [hevents.2] at hend

lemma makeOnThread_settles {devices device : Nat} {id : Bytes} {s : CudaState}
    {requests : List Machine.Request} {r : Outcome ExchangeError NcclLink × CudaState}
    (hrun : (makeOnThread devices id worldSize rank device timeout s).EndsAfter requests r) :
    ∃ making rest result after waited, requests = making ++ rest ∧
      (makeLink devices id worldSize rank device (s, 0)).EndsAfter making
        (result, (after, waited)) ∧
      (waited < timeout → (∀ w, result ≠ .fault w) → r.1 = result ∧ rest = []) ∧
      (timeout ≤ waited → r.1 = .error (.rendezvousTimeout (reportedTimeout timeout)) ∧
        rest.filterMap destroyed? = (values [result]).map NcclLink.comm) := by
  obtain ⟨making, ⟨result, after, waited⟩, rest, hrequests, hmaking, hrest⟩ :=
    Program.endsAfter_bind hrun
  refine ⟨making, rest, result, after, waited, hrequests, hmaking, ?_, ?_⟩
  · intro hwaited hmade
    have hend := ends_play (decide (timeout ≤ waited)) result
    rw [decide_eq_false (Nat.not_le_of_lt hwaited)] at hend hrest
    rw [conclude_in_time rank worldSize timeout hend hmade] at hrest
    obtain ⟨hnone, rfl⟩ := Program.endsAfter_done hrest
    exact ⟨rfl, hnone⟩
  · intro hwaited
    have hend := ends_play (decide (timeout ≤ waited)) result
    rw [decide_eq_true hwaited] at hend hrest
    exact conclude_late rank worldSize timeout hend hrest

/-- Making a communicator with a time limit: the thread is started first, and where it cannot be,
nothing is made. Else what is made within the limit is returned as it is, and nothing is destroyed;
what is made later is destroyed by one call, and the caller has timed out. -/
theorem makeInTime_settles {devices device : Nat} {id : Bytes} {s : CudaState}
    {requests : List Machine.Request} {r : Outcome ExchangeError NcclLink × CudaState}
    (hrun : (makeInTime devices id worldSize rank device timeout s).EndsAfter requests r) :
    ∃ later, requests = .startThread s!"nccl-init-{rank}" :: later ∧
      ((∃ reason, r = (.error (.nccl (.other ("spawn init thread: " ++ reason))), s) ∧
          later = []) ∨
        ∃ making rest result after waited, later = making ++ rest ∧
          (makeLink devices id worldSize rank device (s, 0)).EndsAfter making
            (result, (after, waited)) ∧
          (waited < timeout → (∀ w, result ≠ .fault w) → r.1 = result ∧ rest = []) ∧
          (timeout ≤ waited → r.1 = .error (.rendezvousTimeout (reportedTimeout timeout)) ∧
            rest.filterMap destroyed? = (values [result]).map NcclLink.comm)) := by
  obtain ⟨_, ⟨started, s'⟩, rest, rfl, hstart, hrest⟩ := Program.endsAfter_bind hrun
  cases hstart with
  | ask failure hstart =>
    obtain ⟨rfl, hstarted⟩ := Program.endsAfter_done hstart
    cases hstarted
    refine ⟨rest, rfl, ?_⟩
    cases failure with
    | none => exact .inr (makeOnThread_settles hrest)
    | some reason =>
      obtain ⟨hnone, rfl⟩ := Program.endsAfter_done hrest
      exact .inl ⟨reason, rfl, hnone⟩

end Nccl

end ExpertExchange
