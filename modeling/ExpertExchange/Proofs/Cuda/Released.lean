import ExpertExchange.Cuda.Basic
import ExpertExchange.Proofs.Act.Conversed

/-!
# Device memory that is released

Memory is freed on its owner after the owner was made to wait, by an event of its own, for every
other stream that uses the memory. All events that this makes are destroyed again, but for one: when
an event cannot be recorded, or the owner cannot be made to wait for it, the release ends there and
the event stays.
-/

namespace ExpertExchange

namespace Cuda

def call? : Machine.Reply → Option VendorCall
  | ⟨.call c, _⟩ => some c
  | _ => none

def created? : Machine.Reply → Option Nat
  | ⟨.call (.eventCreate _), (code, event)⟩ => if code = 0 then some event else none
  | _ => none

def destroyed? : Machine.Reply → Option Nat
  | ⟨.call (.eventDestroy event), _⟩ => some event
  | _ => none

/-- The event that could not be recorded, or that a stream could not be made to wait for. -/
def missed? : Machine.Reply → Option Nat
  | ⟨.call (.eventRecord event _), (code, _)⟩ => if code = 0 then none else some event
  | ⟨.call (.streamWaitEvent _ event _), (code, _)⟩ => if code = 0 then none else some event
  | _ => none

/-- A call, if it is one, returned the code of success. -/
def Succeeded : Machine.Reply → Prop
  | ⟨.call _, answer⟩ => answer.1 = 0
  | _ => True

def calls (replies : List Machine.Reply) : List VendorCall := replies.filterMap call?

def created (replies : List Machine.Reply) : List Nat := replies.filterMap created?

def destroyed (replies : List Machine.Reply) : List Nat := replies.filterMap destroyed?

/-- The events that could not be recorded or waited for, in order. -/
def missed (replies : List Machine.Reply) : List Nat := replies.filterMap missed?

variable {α β : Type} {replies first rest : List Machine.Reply}

/-- How a call goes that has to succeed: with its value, or with the error that describes its
code. -/
inductive Goes (space : CodeSpace) (op : String) (c : VendorCall) :
    List Machine.Reply → Outcome DeviceError c.Value → Prop where
  | done (v : c.Value) : Goes space op c [⟨.call c, ((0 : Int), v)⟩] (.ok v)
  | failed {code : Int} (h : code ≠ 0) (v : c.Value) (text : Option String) :
      Goes space op c [⟨.call c, (code, v)⟩, ⟨.errorText space code, text⟩]
        (.error (.driver op code (text.getD (undescribed space))))

lemma tells_check (space : CodeSpace) (op : String) (code : Int) (s : CudaState) :
    (check space op code).Tells s fun replies o _ =>
      (code = 0 ∧ replies = [] ∧ o = .ok ()) ∨
        (code ≠ 0 ∧ ∃ text, replies = [⟨.errorText space code, text⟩] ∧
          o = .error (.driver op code (text.getD (undescribed space)))) := by
  by_cases hcode : code = 0
  · have hdone : check space op code s = .done (.ok (), s) := by
      rw [check, if_pos hcode]
      rfl
    exact .of_done hdone (.inl ⟨hcode, rfl, rfl⟩)
  · have hcheck : check space op code = (Machine.errorText space code).bind fun text =>
        Act.fail (.driver op code (text.getD (undescribed space))) := if_neg hcode
    rw [hcheck]
    intro replies o s' hend
    obtain ⟨text, rest, rfl, hrest⟩ := Program.converses_ask_iff.1 hend
    obtain ⟨rfl, hdone⟩ := Program.converses_done_iff.1 hrest
    cases hdone
    exact .inr ⟨hcode, text, rfl, rfl⟩

lemma tells_run (space : CodeSpace) (op : String) (c : VendorCall) (s : CudaState) :
    (run space op c).Tells s fun replies o _ => Goes space op c replies o := by
  refine Act.Tells.ask ?_
  rintro ⟨code, v⟩
  refine Act.Tells.bind (tells_check space op code s) ?_ ?_ ?_
  · rintro _ _ s' (⟨rfl, rfl, -⟩ | ⟨-, text, -, ho⟩)
    · exact .of_done rfl (.done v)
    · cases ho
  · rintro _ e _ (⟨-, -, ho⟩ | ⟨hcode, text, rfl, ho⟩)
    · cases ho
    · cases ho
      exact .failed hcode v text
  · rintro _ w _ (⟨-, -, ho⟩ | ⟨-, text, -, ho⟩)
    · cases ho
    · cases ho

/-- A call has to succeed before anything follows. -/
lemma tells_run_bind {space : CodeSpace} {op : String} {c : VendorCall} {s : CudaState}
    {f : c.Value → CudaAct α} {R : List Machine.Reply → Outcome DeviceError α → CudaState → Prop}
    (done : ∀ v s', (f v).Tells s' fun rest o s'' => R (⟨.call c, ((0 : Int), v)⟩ :: rest) o s'')
    (failed : ∀ (code : Int) (v : c.Value) (text : Option String) (s' : CudaState), code ≠ 0 →
      R [⟨.call c, (code, v)⟩, ⟨.errorText space code, text⟩]
        (.error (.driver op code (text.getD (undescribed space)))) s') :
    ((run space op c).bind f).Tells s R := by
  refine Act.Tells.bind (tells_run space op c s) ?_ ?_ ?_
  · intro first v s' h
    cases h
    exact done v s'
  · intro replies e s' h
    cases h with
    | failed hcode v text => exact failed _ v text s' hcode
  · intro replies w s' h
    cases h

/-- A call that has to succeed, and whose value is of no interest. -/
lemma tells_order (space : CodeSpace) (op : String) (c : VendorCall) (s : CudaState) :
    (do let _ ← run space op c; pure () : CudaAct Unit).Tells s fun replies o _ =>
      ∃ o', Goes space op c replies o' ∧ o = o'.bind fun _ => .ok () := by
  refine tells_run_bind ?_ ?_
  · intro v s'
    exact .of_done rfl ⟨.ok v, .done v, rfl⟩
  · intro code v text s' hcode
    exact ⟨.error _, .failed hcode v text, rfl⟩

/-- The events that were made and destroyed, and those that were missed. -/
structure Ledger (made gone lost : List Nat) (replies : List Machine.Reply) : Prop where
  created_eq : created replies = made
  destroyed_eq : destroyed replies = gone
  missed_eq : missed replies = lost

lemma Ledger.append {made gone lost made' gone' lost' : List Nat} (h : Ledger made gone lost first)
    (h' : Ledger made' gone' lost' rest) :
    Ledger (made ++ made') (gone ++ gone') (lost ++ lost') (first ++ rest) := by
  constructor
  · rw [← h.created_eq, ← h'.created_eq, created, List.filterMap_append]
    rfl
  · rw [← h.destroyed_eq, ← h'.destroyed_eq, destroyed, List.filterMap_append]
    rfl
  · rw [← h.missed_eq, ← h'.missed_eq, missed, List.filterMap_append]
    rfl

/-- Every event that was made was destroyed, but for the one that ended the act because it was
missed. -/
structure Accounted (replies : List Machine.Reply) (o : Outcome DeviceError α) : Prop where
  created_eq : created replies = destroyed replies ++ missed replies
  length_missed : (missed replies).length ≤ 1
  missed_of_ok : ∀ a, o = .ok a → missed replies = []

lemma Accounted.of_settled {events : List Nat} {o : Outcome DeviceError α}
    (h : Ledger events events [] replies) : Accounted replies o := by
  constructor
  · rw [h.created_eq, h.destroyed_eq, h.missed_eq, List.append_nil]
  · simp [h.missed_eq]
  · intro _ _
    exact h.missed_eq

lemma Accounted.of_missed {event : Nat} {e : DeviceError} (h : Ledger [event] [] [event] replies) :
    Accounted replies (.error e : Outcome DeviceError α) := by
  constructor
  · rw [h.created_eq, h.destroyed_eq, h.missed_eq, List.nil_append]
  · simp [h.missed_eq]
  · intro _ ho
    cases ho

lemma Accounted.append {a : α} {o : Outcome DeviceError β}
    (h : Accounted first (.ok a : Outcome DeviceError α)) (h' : Accounted rest o) :
    Accounted (first ++ rest) o := by
  have hmissed : missed (first ++ rest) = missed rest := by
    rw [missed, List.filterMap_append]
    exact congrArg (· ++ missed rest) (h.missed_of_ok a rfl)
  constructor
  · calc created (first ++ rest)
        = created first ++ created rest := List.filterMap_append
      _ = destroyed first ++ (destroyed rest ++ missed rest) := by
        rw [h.created_eq, h'.created_eq, h.missed_of_ok a rfl, List.append_nil]
      _ = destroyed (first ++ rest) ++ missed (first ++ rest) := by
        rw [hmissed, destroyed, destroyed, destroyed, List.filterMap_append, List.append_assoc]
  · rw [hmissed]
    exact h'.length_missed
  · intro b ho
    rw [hmissed]
    exact h'.missed_of_ok b ho

/-- Whatever the vendor answers, the act accounts for its events. -/
def Accounts (m : CudaAct α) : Prop := ∀ s, m.Tells s fun replies o _ => Accounted replies o

lemma Accounts.pure (a : α) : Accounts (Pure.pure a : CudaAct α) :=
  fun _ => .of_done rfl (.of_settled ⟨rfl, rfl, rfl⟩)

lemma Accounts.bind {m : CudaAct α} {f : α → CudaAct β} (hm : Accounts m)
    (hf : ∀ a, Accounts (f a)) : Accounts (m.bind f) := by
  intro s
  refine Act.Tells.bind (hm s) ?_ ?_ ?_
  · intro first a s' hfirst
    exact (hf a s').mono fun rest o _ hrest => hfirst.append hrest
  · intro replies e _ h
    exact ⟨h.created_eq, h.length_missed, nofun⟩
  · intro replies w _ h
    exact ⟨h.created_eq, h.length_missed, nofun⟩

lemma Accounts.forEach {xs : List α} {f : α → CudaAct Unit} (hf : ∀ x ∈ xs, Accounts (f x)) :
    Accounts (Act.forEach xs f) := by
  induction xs with
  | nil => exact .pure ()
  | cons x xs ih =>
    refine .bind (hf x List.mem_cons_self) ?_
    intro _
    exact ih fun y hy => hf y (List.mem_cons_of_mem x hy)

/-- A call that has nothing to do with events. -/
lemma accounts_order {space : CodeSpace} {op : String} {c : VendorCall}
    (hc : ∀ replies o, Goes space op c replies o → Ledger [] [] [] replies) :
    Accounts (do let _ ← run space op c; pure ()) := by
  intro s
  refine (tells_order space op c s).mono ?_
  rintro replies o _ ⟨o', h, -⟩
  exact .of_settled (hc replies o' h)

/-- Once this event was made, the act accounts for it. -/
def Settles (event : Nat) (m : CudaAct α) : Prop :=
  ∀ s, m.Tells s fun replies o _ =>
    ∀ first, Ledger [event] [] [] first → Accounted (first ++ replies) o

/-- The event is destroyed, whether that succeeds or not. -/
lemma settles_destroy (event : Nat) :
    Settles event (do
      let _ ← run .runtime "cudaEventDestroy" (.eventDestroy event)
      pure ()) := by
  intro s
  refine (tells_order _ _ _ s).mono ?_
  rintro replies o _ ⟨o', h, -⟩ first hfirst
  have hgone : Ledger [] [event] [] replies := by
    cases h <;> exact ⟨rfl, rfl, rfl⟩
  exact .of_settled (hfirst.append hgone)

/-- A call that succeeds or misses the event; after the latter nothing follows. -/
lemma Settles.after {event : Nat} {space : CodeSpace} {op : String} {c : VendorCall}
    {f : Unit → CudaAct α}
    (done : ∀ v : c.Value, Ledger [] [] [] [⟨.call c, ((0 : Int), v)⟩])
    (failed : ∀ (code : Int) (v : c.Value) (text : Option String), code ≠ 0 →
      Ledger [] [] [event] [⟨.call c, (code, v)⟩, ⟨.errorText space code, text⟩])
    (hf : Settles event (f ())) :
    Settles event ((do let _ ← run space op c; pure () : CudaAct Unit).bind f) := by
  intro s
  refine Act.Tells.bind (tells_order space op c s) ?_ ?_ ?_
  · rintro replies _ s' ⟨o', h, ho⟩
    cases h with
    | done v =>
      refine (hf s').mono ?_
      intro rest o _ hrest first hfirst
      rw [← List.append_assoc]
      exact hrest _ (hfirst.append (done v))
    | failed _ v text => cases ho
  · rintro replies e _ ⟨o', h, ho⟩ first hfirst
    cases h with
    | done v => cases ho
    | failed hcode v text => exact .of_missed (hfirst.append (failed _ v text hcode))
  · rintro replies w _ ⟨o', h, ho⟩
    cases h <;> cases ho

/-- The owner waits for a user by an event that is destroyed after that, or missed. -/
lemma accounts_awaitUser (owner user : Stream) : Accounts (awaitUser owner user) := by
  have hevent : ∀ event, Settles event (do
      recordEvent event user.handle
      waitEvent owner.handle event
      let _ ← run .runtime "cudaEventDestroy" (.eventDestroy event)
      pure ()) := by
    intro event
    refine .after (fun _ => ⟨rfl, rfl, rfl⟩) ?_ ?_
    · intro code v text hcode
      exact ⟨rfl, rfl, by simp [missed, missed?, hcode]⟩
    refine .after (fun _ => ⟨rfl, rfl, rfl⟩) ?_ (settles_destroy event)
    intro code v text hcode
    exact ⟨rfl, rfl, by simp [missed, missed?, hcode]⟩
  intro s
  refine tells_run_bind ?_ ?_
  · intro event s'
    refine (hevent event s').mono ?_
    intro rest o _ hrest
    exact hrest [_] ⟨rfl, rfl, rfl⟩
  · intro code v text _ hcode
    have hnone : created [⟨.call (.eventCreate eventFlags), (code, v)⟩,
        ⟨.errorText .runtime code, text⟩] = [] := by simp [created, created?, hcode]
    exact .of_settled ⟨hnone, rfl, rfl⟩

lemma accounts_setDevice (device : Nat) : Accounts (setDevice device) := by
  refine accounts_order ?_
  intro replies o h
  cases h <;> exact ⟨rfl, rfl, rfl⟩

lemma accounts_freeMemory (address : Nat) (owner : Stream) (users : List Stream) :
    Accounts (freeMemory address owner users) := by
  refine .bind (accounts_setDevice _) fun _ => ?_
  refine .bind (.forEach fun user _ => accounts_awaitUser owner user) fun _ => ?_
  refine accounts_order ?_
  intro replies o h
  cases h <;> exact ⟨rfl, rfl, rfl⟩

/-- The owner is made to wait for a user by an event, which is destroyed after that. -/
def awaiting (owner user : Stream) (event : Nat) : List VendorCall :=
  [.eventCreate eventFlags, .eventRecord event user.handle,
    .streamWaitEvent owner.handle event 0, .eventDestroy event]

/-- If the vendor refuses nothing, the act succeeds, and its calls have the property `P`. -/
def Performs (m : CudaAct α) (P : α → List VendorCall → Prop) : Prop :=
  ∀ s, m.Tells s fun replies o _ =>
    (∀ r ∈ replies, Succeeded r) → ∃ a, o = .ok a ∧ P a (calls replies)

lemma calls_append (first rest : List Machine.Reply) :
    calls (first ++ rest) = calls first ++ calls rest := List.filterMap_append

lemma Performs.pure {P : α → List VendorCall → Prop} {a : α} (h : P a []) :
    Performs (Pure.pure a) P :=
  fun _ => .of_done rfl fun _ => ⟨a, rfl, h⟩

lemma performs_run (space : CodeSpace) (op : String) (c : VendorCall) :
    Performs (run space op c) fun _ cs => cs = [c] := by
  intro s
  refine (tells_run space op c s).mono ?_
  intro replies o _ h hall
  cases h with
  | done v => exact ⟨v, rfl, rfl⟩
  | failed hcode v text => exact absurd (hall _ List.mem_cons_self) hcode

lemma Performs.bind {m : CudaAct α} {f : α → CudaAct β} {P : α → List VendorCall → Prop}
    {Q : α → β → List VendorCall → Prop} {R : β → List VendorCall → Prop} (hm : Performs m P)
    (hf : ∀ a, Performs (f a) (Q a))
    (hR : ∀ a b first rest, P a first → Q a b rest → R b (first ++ rest)) :
    Performs (m.bind f) R := by
  intro s
  refine Act.Tells.bind (hm s) ?_ ?_ ?_
  · intro first a s' hfirst
    refine (hf a s').mono ?_
    intro rest o _ hrest hall
    obtain ⟨a', ha', hP⟩ := hfirst fun r hr => hall r (List.mem_append_left rest hr)
    cases ha'
    obtain ⟨b, hb, hQ⟩ := hrest fun r hr => hall r (List.mem_append_right first hr)
    refine ⟨b, hb, ?_⟩
    rw [calls_append]
    exact hR a b _ _ hP hQ
  · intro replies e _ h hall
    obtain ⟨a, ha, -⟩ := h hall
    cases ha
  · intro replies w _ h hall
    obtain ⟨a, ha, -⟩ := h hall
    cases ha

lemma performs_order (space : CodeSpace) (op : String) (c : VendorCall) :
    Performs (do let _ ← run space op c; pure ()) fun _ cs => cs = [c] := by
  refine .bind (performs_run space op c) (fun _ => .pure (P := fun _ cs => cs = []) rfl) ?_
  rintro a b first rest rfl rfl
  rfl

lemma performs_awaitUser (owner user : Stream) :
    Performs (awaitUser owner user) fun _ cs => ∃ event, cs = awaiting owner user event := by
  refine .bind (performs_run .runtime "cudaEventCreateWithFlags" (.eventCreate eventFlags))
    (Q := fun event _ cs => cs = (awaiting owner user event).tail) ?_ ?_
  · intro event
    refine .bind (performs_order _ _ _)
      (Q := fun _ _ cs => cs = (awaiting owner user event).tail.tail) ?_ ?_
    · intro _
      refine .bind (performs_order _ _ _) (fun _ => performs_order _ _ _) ?_
      rintro _ _ first rest rfl rfl
      rfl
    · rintro _ _ first rest rfl rfl
      rfl
  · rintro event _ first rest rfl rfl
    exact ⟨event, rfl⟩

/-- An event for each of the users, one after the other. -/
lemma performs_awaitUsers (owner : Stream) (users : List Stream) :
    Performs (Act.forEach users (awaitUser owner)) fun _ cs =>
      ∃ events : List Nat, events.length = users.length ∧
        cs = (users.zip events).flatMap fun p => awaiting owner p.1 p.2 := by
  induction users with
  | nil => exact .pure ⟨[], rfl, rfl⟩
  | cons user users ih =>
    refine .bind (performs_awaitUser owner user) (fun _ => ih) ?_
    rintro _ _ first rest ⟨event, rfl⟩ ⟨events, hlength, rfl⟩
    refine ⟨event :: events, ?_, rfl⟩
    rw [List.length_cons, hlength, List.length_cons]

/-- Calls that make the owner wait for other streams and then free the memory on it. -/
def Frees (address : Nat) (owner : Stream) (others : List Stream) (cs : List VendorCall) : Prop :=
  ∃ events : List Nat, events.length = others.length ∧
    cs = .setDevice (Word.toSigned32 owner.device) ::
      ((others.zip events).flatMap (fun p => awaiting owner p.1 p.2) ++
        [.freeAsync address owner.handle])

lemma performs_freeMemory (address : Nat) (owner : Stream) (users : List Stream) :
    Performs (freeMemory address owner users) fun _ cs =>
      Frees address owner (users.filter (· ≠ owner)) cs := by
  have hrest : Performs (do
      Act.forEach (users.filter (· ≠ owner)) (awaitUser owner)
      let _ ← run .runtime "cudaFreeAsync" (.freeAsync address owner.handle)
      pure ()) fun _ cs => ∃ events : List Nat,
        events.length = (users.filter (· ≠ owner)).length ∧
          cs = ((users.filter (· ≠ owner)).zip events).flatMap
            (fun p => awaiting owner p.1 p.2) ++ [.freeAsync address owner.handle] := by
    refine .bind (performs_awaitUsers owner _) (fun _ => performs_order _ _ _) ?_
    rintro _ _ first rest ⟨events, hlength, rfl⟩ rfl
    exact ⟨events, hlength, rfl⟩
  refine .bind (performs_order _ _ _) (fun _ => hrest) ?_
  rintro _ _ first rest rfl ⟨events, hlength, rfl⟩
  exact ⟨events, hlength, rfl⟩

/-- The last handle to device memory frees it, and that ends well for the caller. -/
lemma tells_release {s : CudaState} {b : Buffer} {address : Nat} {owner : Stream}
    {users : List Stream} {Q : List Machine.Reply → Outcome DeviceError Unit → Prop}
    (hb : s.heap.allocation? b = some ⟨.cuda address owner, users, 1⟩)
    (hfree : ∀ s', (freeMemory address owner users).Tells s' fun replies o _ => Q replies o) :
    (release b).Tells s fun replies o _ => o = .ok () ∧ ∃ o', Q replies o' := by
  let left : Heap := s.heap.modify b.cell fun a => { a with handles := a.handles - 1 }
  have hleft : left.allocation? b = some ⟨.cuda address owner, users, 0⟩ := by
    rw [Heap.allocation?] at hb ⊢
    rw [List.getElem?_modify_eq, hb]
    rfl
  have hsteps : setHandles b (· - 1) s = .done (.ok (), { s with heap := left }) := rfl
  refine .step hsteps ?_
  refine .step (a := left) rfl ?_
  simp only [hleft]
  refine Act.Tells.attempt_bind (hfree _) ?_
  intro first o s' hQ
  -- whatever the outcome, at most a record is written, and nothing is asked
  cases o with
  | ok u => exact .of_done rfl ⟨rfl, .ok u, by rwa [List.append_nil]⟩
  | error e => exact .of_done rfl ⟨rfl, .error e, by rwa [List.append_nil]⟩
  | fault w => exact .of_done rfl ⟨rfl, .fault w, by rwa [List.append_nil]⟩

/-- What a release comes to, by its conversation with the vendor. -/
structure Released (address : Nat) (owner : Stream) (users : List Stream)
    (replies : List Machine.Reply) (o : Outcome DeviceError Unit) : Prop where
  ends : o = .ok ()
  /-- Every event that was made is destroyed once, or there is one that was missed: then all
  but this one are. -/
  events : missed replies = [] ∧ created replies = destroyed replies ∨
    ∃ event, missed replies = [event] ∧ created replies = destroyed replies ++ [event]
  /-- Without a failure the owner waits for every other user, for each of them once, and then the
  memory is freed on the owner. -/
  frees : (∀ r ∈ replies, Succeeded r) → ∃ others : List Stream,
    others.Nodup ∧ (∀ user, user ∈ others ↔ user ∈ users ∧ user ≠ owner) ∧
      Frees address owner others (calls replies)

/-- Whatever the vendor answers, the release of the last handle to device memory accounts for all
events that it makes: the only one that it ever leaves is an event that could not be recorded, or
that the owner could not be made to wait for. -/
theorem release_accounted {s : CudaState} {b : Buffer} {address : Nat} {owner : Stream}
    {users : List Stream} (hb : s.heap.allocation? b = some ⟨.cuda address owner, users, 1⟩)
    (husers : users.Nodup) :
    (release b).Tells s fun replies o _ => Released address owner users replies o := by
  have hfree : ∀ s', (freeMemory address owner users).Tells s' fun replies o _ =>
      Accounted replies o ∧ ((∀ r ∈ replies, Succeeded r) →
        Frees address owner (users.filter (· ≠ owner)) (calls replies)) := by
    intro s' replies o s'' hend
    refine ⟨accounts_freeMemory address owner users s' _ _ _ hend, ?_⟩
    intro hall
    obtain ⟨_, _, hfrees⟩ := performs_freeMemory address owner users s' _ _ _ hend hall
    exact hfrees
  refine (tells_release hb hfree).mono ?_
  rintro replies o _ ⟨ho, o', hevents, hfrees⟩
  refine ⟨ho, ?_, ?_⟩
  · cases hmissed : missed replies with
    | nil =>
      left
      have := hevents.created_eq
      rw [hmissed, List.append_nil] at this
      exact ⟨rfl, this⟩
    | cons event others =>
      right
      have hlength := hevents.length_missed
      have hcreated := hevents.created_eq
      rw [hmissed] at hlength hcreated
      obtain rfl : others = [] := by simpa using hlength
      exact ⟨event, rfl, hcreated⟩
  · intro hall
    refine ⟨users.filter (· ≠ owner), husers.filter _, ?_, hfrees hall⟩
    intro user
    simp [List.mem_filter]

/-- One buffer in device memory, used by the compute and by the communication stream. -/
def sharedMemory : CudaState :=
  { CudaState.empty with
    heap := [⟨.cuda 1 ⟨0, .compute, 1⟩, [⟨0, .compute, 1⟩, ⟨0, .comm, 2⟩], 1⟩] }

def sharedBuffer : Buffer := ⟨.u8, [4], 0, 0⟩

/-- Where all calls succeed, the compute stream waits for the communication stream, and then the
memory is freed on it. -/
theorem release_accounted_two_users :
    sharedMemory.heap.allocation? sharedBuffer =
        some ⟨.cuda 1 ⟨0, .compute, 1⟩, [⟨0, .compute, 1⟩, ⟨0, .comm, 2⟩], 1⟩ ∧
      [(⟨0, .compute, 1⟩ : Stream), ⟨0, .comm, 2⟩].Nodup ∧
      ∃ replies s', (release sharedBuffer sharedMemory).Converses replies (.ok (), s') ∧
        calls replies = [.setDevice 0, .eventCreate 2, .eventRecord 1 2, .streamWaitEvent 1 1 0,
          .eventDestroy 1, .freeAsync 1 1] ∧
        created replies = [1] ∧ destroyed replies = [1] ∧
        s'.heap.map (·.handles) = [0] ∧
        Released 1 ⟨0, .compute, 1⟩ [⟨0, .compute, 1⟩, ⟨0, .comm, 2⟩] replies (.ok ()) := by
  have hb : sharedMemory.heap.allocation? sharedBuffer =
      some ⟨.cuda 1 ⟨0, .compute, 1⟩, [⟨0, .compute, 1⟩, ⟨0, .comm, 2⟩], 1⟩ := rfl
  have husers : [(⟨0, .compute, 1⟩ : Stream), ⟨0, .comm, 2⟩].Nodup := by decide
  let replies : List Machine.Reply := [⟨.call (.setDevice 0), ((0 : Int), (0 : Nat))⟩,
    ⟨.call (.eventCreate 2), ((0 : Int), (1 : Nat))⟩,
    ⟨.call (.eventRecord 1 2), ((0 : Int), (0 : Nat))⟩,
    ⟨.call (.streamWaitEvent 1 1 0), ((0 : Int), (0 : Nat))⟩,
    ⟨.call (.eventDestroy 1), ((0 : Int), (0 : Nat))⟩,
    ⟨.call (.freeAsync 1 1), ((0 : Int), (0 : Nat))⟩]
  let left : Heap := sharedMemory.heap.map fun a => { a with handles := 0 }
  have hend : (release sharedBuffer sharedMemory).Converses replies
      (.ok (), { sharedMemory with heap := left }) :=
    .ask _ (.ask _ (.ask _ (.ask _ (.ask _ (.ask _ (.done _))))))
  exact ⟨hb, husers, replies, _, hend, rfl, rfl, rfl, rfl,
    release_accounted hb husers _ _ _ hend⟩

/-- When the event cannot be recorded, it is not destroyed. -/
theorem release_leaves_event :
    ∃ replies s', (release sharedBuffer sharedMemory).Converses replies (.ok (), s') ∧
      created replies = [1] ∧ destroyed replies = [] := by
  exact ⟨[⟨.call (.setDevice 0), ((0 : Int), (0 : Nat))⟩,
    ⟨.call (.eventCreate 2), ((0 : Int), (1 : Nat))⟩,
    ⟨.call (.eventRecord 1 2), ((1 : Int), (0 : Nat))⟩,
    ⟨.errorText .runtime 1, (none : Option String)⟩], _,
    .ask _ (.ask _ (.ask _ (.ask _ (.done _)))), rfl, rfl⟩

end Cuda

end ExpertExchange
