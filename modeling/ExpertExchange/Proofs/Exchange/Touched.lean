import ExpertExchange.Proofs.Group.Touched

/-!
# Exchanges register what they touch

The exchanges of the scheduler register the communication stream with every buffer before they
enqueue anything on it that touches the buffer, so that their accounts are always settled.
-/

namespace ExpertExchange

open Host HostState

def Roll.Serves (stream : Stream) (buffers : List Buffer) (r : Roll) : Prop :=
  ∀ b ∈ buffers, stream ∈ r.usedBy b

lemma Roll.Serves.keep {stream : Stream} {buffers : List Buffer} {r r' : Roll} {ending : Ending}
    (h : r.Serves stream buffers) (hkeeps : r.Keeps ending r') : r'.Serves stream buffers :=
  fun b hb => hkeeps.2.subset _ (h b hb)

namespace Slots

variable {α : Type} {devices index : Nat} {stream : Stream} {kind : StreamKind} {A : Touch → Prop}

def slotsAccount (q : Noted × Slots HostEvent) : Account := account q.1

lemma spares_onPlatform {m : Act Net HostState DeviceError α} (hm : m.Spares roll) :
    (Slots.onPlatform (m.within Part.first) :
      Act Net (Noted × Slots HostEvent) ExchangeError α).Spares slotsAccount :=
  Act.Changes.within (.mapError (spares_account hm)) (fun _ => rfl) fun _ _ => rfl

lemma spares_event : (event index : Act Net (Noted × Slots HostEvent) ExchangeError
    HostEvent).Spares slotsAccount := by
  intro q
  exact .of_done rfl rfl

lemma spares_transition (next : SlotState) :
    (transition (Host.platform devices).noted index next :
      Act Net (Noted × Slots HostEvent) ExchangeError Unit).Spares slotsAccount := by
  refine .bind (.view _) ?_
  intro slot?
  cases slot? with
  | none => exact .ofOutcome (.fault none)
  | some slot =>
    dsimp only
    cases slot.warning? index next with
    | none => exact .modify fun _ => rfl
    | some warning =>
      have hlog : ((Host.platform devices : Platform Net _ _ HostEvent).noted.log .warn .slots
          warning.1 warning.2 : Act Net Noted ExchangeError Unit).Spares account :=
        .modify fun _ => rfl
      refine .bind (Act.Changes.within hlog (fun _ => rfl) fun _ _ => rfl) ?_
      intro _
      exact .modify fun _ => rfl

lemma spares_release :
    (release (Host.platform devices).noted index stream :
      Act Net (Noted × Slots HostEvent) ExchangeError Unit).Spares slotsAccount := by
  refine .bind spares_event ?_
  intro e
  refine .bind (spares_onPlatform (spares_note _)) ?_
  intro _
  exact spares_transition _

/-- Taking a slot over registers the stream with the buffers that come with it. -/
lemma settles_acquire (buffers : List Buffer) :
    (acquire (Host.platform devices).noted index stream buffers :
      Act Net (Noted × Slots HostEvent) ExchangeError Unit).Changes slotsAccount
        (Account.Settles kind A) := by
  have hchains := Account.chains_settles kind A
  have hself := Account.settles_self kind A
  refine .bind hchains (spares_event.changes hself) ?_
  intro e
  refine .bind hchains ((spares_onPlatform (spares_note _)).changes hself) ?_
  intro _
  refine .bind hchains ((spares_transition _).changes hself) ?_
  intro _
  refine .bind hchains (.forEach hchains ?_) ?_
  · intro b _
    exact .within (.mapError (settles_within keeps_recordStream)) (fun _ => rfl) fun _ _ => rfl
  · intro _
    exact (spares_transition _).changes hself

lemma spares_stream (of : StreamKind) :
    (Slots.stream (Host.platform devices).noted of :
      Act Net (Noted × Slots HostEvent) ExchangeError Stream).Spares slotsAccount := by
  refine .bind (.view _) ?_
  intro device
  refine spares_onPlatform (.bind (.ensure _ _) ?_)
  intro _
  exact .pure _

/-- A buffer is handed over: nothing is registered by the stream that lets go of it. -/
lemma settles_releaseOn (of : StreamKind) {b : Buffer} :
    (releaseOn (Host.platform devices).noted of b index :
      Act Net (Noted × Slots HostEvent) ExchangeError Buffer).Changes slotsAccount
        (Account.Settles kind A) := by
  refine Act.Spares.changes ?_ (Account.settles_self kind A)
  refine .bind (spares_stream of) ?_
  intro stream
  refine .bind spares_release ?_
  intro _
  refine .bind (spares_onPlatform (.pure ())) ?_
  intro _
  exact .pure b

/-- A buffer is taken over: the stream that takes it is registered. -/
lemma settles_acquireOn (of : StreamKind) {b : Buffer} :
    (acquireOn (Host.platform devices).noted of b index :
      Act Net (Noted × Slots HostEvent) ExchangeError Buffer).Changes slotsAccount
        (Account.Settles kind A) := by
  have hchains := Account.chains_settles kind A
  have hself := Account.settles_self kind A
  refine .bind hchains ((spares_stream of).changes hself) ?_
  intro stream
  refine .bind hchains (settles_acquire [b]) ?_
  intro _
  refine .bind hchains ((spares_onPlatform (.pure ())).changes hself) ?_
  intro _
  exact .pure hchains b

end Slots

namespace Scheduler

open Communicator SimulatedLink

/-- A participant on the host platform in a simulated group, with touches noted. -/
abbrev NotedEngine := Engine Net Noted HostFunction HostEvent SimulatedLink

/-- What is watched of a participant: its account, its compilers and its cache. -/
def workshop (e : NotedEngine) : Workshop := workshopOf (e.1, e.2.1)

variable {α β : Type} {devices : Nat} {kind : StreamKind} {A B : Touch → Prop}
  {p : Split} {input output between b : Buffer} {inputs outputs : List Buffer} {str : Stream}
  {e : NotedEngine} {ending : Ending}

/-- A step that changes neither compilers nor cache. -/
lemma settling_of_account {e' : NotedEngine} (htools : e'.2.1 = e.2.1)
    (h : (account e.1).Settles kind A ending (account e'.1)) :
    Settling kind A (workshop e) ending (workshop e') :=
  Settling.of_account (congrArg Invoker.compilers htools) (congrArg Invoker.cache htools) h

lemma settling_onPlatform {m : Act Net Noted DeviceError α}
    (hm : m.Changes account (Account.Settles kind A)) :
    (onPlatform m : Act Net NotedEngine ExchangeError α).Changes workshop (Settling kind A) :=
  .part (.mapError hm) fun _ _ _ h => settling_of_account rfl h

lemma workshop_onPlatform {m : Act Net Noted DeviceError α} (hm : m.Spares account) :
    (onPlatform m : Act Net NotedEngine ExchangeError α).Spares workshop :=
  Act.Changes.part (.mapError hm) fun e _ _ h =>
    congrArg (Workbench.mk · e.2.1.compilers e.2.1.cache) h

lemma settling_onSlots {m : Act Net (Noted × Slots HostEvent) ExchangeError α}
    (hm : m.Changes Slots.slotsAccount (Account.Settles kind A)) :
    (onSlots m : Act Net NotedEngine ExchangeError α).Changes workshop (Settling kind A) :=
  .part hm fun _ _ _ h => settling_of_account rfl h

lemma settling_onComm {m : Act Net (Noted × Communicator SimulatedLink) ExchangeError α}
    (hm : m.Changes commAccount (Account.Settles kind A)) :
    (onComm m : Act Net NotedEngine ExchangeError α).Changes workshop (Settling kind A) :=
  .part hm fun _ _ _ h => settling_of_account rfl h

lemma settling_onInvoker {m : Act Net (Noted × Invoker Net Noted HostFunction) ExchangeError α}
    (hm : m.Changes workshopOf (Settling kind A)) :
    (m.within invokerPart : Act Net NotedEngine ExchangeError α).Changes workshop
      (Settling kind A) :=
  .within hm (fun _ => rfl) fun _ _ => rfl

/-- A round of transfers on one stream. -/
lemma settling_round [TensorLibrary]
    {transfers : Act Net (Noted × SimulatedLink) ExchangeError Unit} {buffers : List Buffer}
    (hkind : str.kind = kind)
    (h : transfers.Changes linkAccount (Account.Touches (Touch.On str buffers))) :
    (onLink (Communicator.inRound transport.noted transfers) :
      Act Net NotedEngine ExchangeError Unit).Changes workshop
        (Settling kind (Touch.On str buffers)) := by
  refine .part (touches_inRound h) ?_
  intro e ending q htouches
  refine settling_of_account rfl (htouches.settles ?_)
  rintro t ⟨hstream, hb⟩
  exact ⟨hstream ▸ hkind, hstream, hb⟩

/-- Where the stream uses all buffers that an act touches, the act leaves nothing open. -/
lemma settling_served {m : Act Net NotedEngine ExchangeError α} {buffers : List Buffer}
    (hserves : e.1.1.roll.Serves str buffers)
    (hm : m.Changes workshop (Settling kind (Touch.On str buffers))) :
    m.Ensures e fun o e' =>
      Settling kind (fun _ => False) (workshop e) o.ending (workshop e') := by
  refine (hm e).mono ?_
  intro o e' h
  refine h.settle ?_
  rintro t ⟨hstream, hb⟩
  exact .inr (hstream ▸ hserves t.buffer hb)

/-- After acts that change nothing of it. -/
lemma settling_after {m : Act Net NotedEngine ExchangeError α}
    {f : α → Act Net NotedEngine ExchangeError β} (hm : m.Spares workshop)
    (hf : ∀ a, (f a).Changes workshop (Settling kind A)) :
    (m.bind f).Changes workshop (Settling kind A) :=
  .bind chains_settling (hm.changes settling_self) hf

lemma looks_notedStream [TensorLibrary] (kind : StreamKind) :
    (stream (Host.platform devices).noted transport.noted kind : Act Net NotedEngine _ _).Looks :=
  looks_onComm (Communicator.looks_notedStream kind)

lemma gives_kind [TensorLibrary] (kind : StreamKind) (e : NotedEngine) :
    (stream (Host.platform devices).noted transport.noted kind :
      Act Net NotedEngine _ _).Gives e fun str _ => str.kind = kind :=
  .within (Communicator.gives_kind kind (commPart.get e))

/-- An element that was found is in the list. -/
lemma mem_of_found {xs : List α} {i : Nat} {x : α}
    (h : ((Act.ofOutcome (Outcome.orFault xs[i]?) : Act Net NotedEngine ExchangeError α) e).CanEnd
      (.ok x, e)) : x ∈ xs := by
  have heq := Program.canEnd_done_iff.1 h
  cases hx : xs[i]? with
  | none =>
    rw [hx] at heq
    cases heq
  | some y =>
    rw [hx] at heq
    cases heq
    exact List.mem_of_getElem? hx

lemma settling_recordStream :
    (onPlatform ((Host.platform devices).noted.recordStream b str) :
      Act Net NotedEngine ExchangeError Unit).Changes workshop (Settling kind A) :=
  settling_onPlatform (settles_within keeps_recordStream)

lemma gives_recordStream (hb : b.cell < e.1.1.heap.length) :
    (onPlatform ((Host.platform devices).noted.recordStream b str) :
      Act Net NotedEngine ExchangeError Unit).Gives e fun _ e' =>
        e.1.1.roll.Keeps .ok e'.1.1.roll ∧ str ∈ e'.1.1.roll.usedBy b :=
  .within (.mapError (.within ((keeps_recordStream.gives e.1.1).and
    (Host.gives_registered e.1.1 hb))))

lemma gives_recordStreams {buffers : List Buffer}
    (hbuffers : ∀ b ∈ buffers, b.cell < e.1.1.heap.length) :
    (Act.forEach buffers fun b => onPlatform
      ((Host.platform devices).noted.recordStream b str) :
      Act Net NotedEngine ExchangeError Unit).Gives e fun _ e' =>
        e'.1.1.roll.Serves str buffers := by
  have hall : (Act.forEach buffers fun b => onPlatform
      ((Host.platform devices).noted.recordStream b str) :
      Act Net NotedEngine ExchangeError Unit).Gives e fun _ e' =>
        e.1.1.roll.Keeps .ok e'.1.1.roll ∧ e'.1.1.roll.Serves str buffers := by
    refine .forEach (I := fun done (e' : NotedEngine) => e.1.1.roll.Keeps .ok e'.1.1.roll ∧
      e'.1.1.roll.Serves str done) ⟨Roll.keeps_self _ _, nofun⟩ ?_
    rintro done b rest rfl e₁ ⟨hkeeps, hserves⟩
    have hb : b.cell < e₁.1.1.heap.length := by
      have hlt := hbuffers b (List.mem_append_right _ List.mem_cons_self)
      have hle := hkeeps.2.length_le
      simp only [roll, Heap.users, List.length_map] at hle
      omega
    refine (gives_recordStream hb).mono ?_
    rintro _ e₂ ⟨hkeeps', hused⟩
    refine ⟨Roll.chains_keeps.trans hkeeps hkeeps', ?_⟩
    intro b' hb'
    rcases List.mem_append.1 hb' with hold | hnew
    · exact hserves.keep hkeeps' b' hold
    · rw [List.mem_singleton.1 hnew]
      exact hused
  exact hall.mono fun _ _ h => h.2

lemma gives_alloc (dtype : Dtype) (shape : List Nat) {held : List Buffer}
    (h : e.1.1.roll.Serves str held) :
    (onPlatform ((Host.platform devices).noted.alloc dtype shape str) :
      Act Net NotedEngine ExchangeError Buffer).Gives e fun b e' =>
        e'.1.1.roll.Serves str (b :: held) := by
  refine .within (.mapError (.within (((keeps_alloc dtype shape str).gives e.1.1).and
    (Host.gives_alloc dtype shape str e.1.1) |>.mono ?_)))
  rintro b s ⟨hkeeps, howner⟩ b' hb'
  rcases List.mem_cons.1 hb' with rfl | hold
  · exact howner
  · exact h.keep hkeeps b' hold

lemma settling_alloc (dtype : Dtype) (shape : List Nat) :
    (onPlatform ((Host.platform devices).noted.alloc dtype shape str) :
      Act Net NotedEngine ExchangeError Buffer).Changes workshop (Settling kind A) :=
  settling_onPlatform (settles_within (keeps_alloc dtype shape str))

lemma workshop_release : (onPlatform ((Host.platform devices).noted.release b) :
    Act Net NotedEngine ExchangeError Unit).Spares workshop :=
  workshop_onPlatform (spares_account (.pure ()))

lemma account_releaseAll (buffers : List Buffer) :
    ((Host.platform devices : Platform Net _ _ HostEvent).noted.releaseAll buffers).Spares
      account :=
  .forEach fun _ _ => spares_account (.pure ())

/-- Buffers for stages are used by the stream that allocates them, and by another one. -/
lemma settles_allocStages (dtype : Dtype) (shape : List Nat) (owner user : Stream) (count : Nat)
    (made : List Buffer) :
    (allocStages (Host.platform devices : Platform Net _ _ HostEvent).noted dtype shape owner user
      count made).Changes account (Account.Settles kind A) := by
  induction count generalizing made with
  | zero => exact .pure (Account.chains_settles kind A) made
  | succ count ih =>
    refine .bind (Account.chains_settles kind A) (.orElseClean ?_ (account_releaseAll made)) ?_
    · refine .bind (Account.chains_settles kind A) (settles_within (keeps_alloc _ _ _)) ?_
      intro b
      refine .bind (Account.chains_settles kind A) (.orElseClean ?_ ?_) ?_
      · exact settles_within keeps_recordStream
      · exact spares_account (.pure ())
      · intro _
        exact .pure (Account.chains_settles kind A) b
    · intro b
      exact ih _

lemma gives_allocStages (dtype : Dtype) (shape : List Nat) (owner user : Stream)
    (held : List Buffer) (count : Nat) {made : List Buffer} {s : Noted}
    (h : s.1.roll.Serves owner (held ++ made)) :
    (allocStages (Host.platform devices : Platform Net _ _ HostEvent).noted dtype shape owner user
      count made).Gives s fun outputs s' => s'.1.roll.Serves owner (held ++ outputs) := by
  induction count generalizing made s with
  | zero => exact .of_done rfl h
  | succ count ih =>
    have halloc : ((Host.platform devices : Platform Net _ _ HostEvent).noted.alloc dtype shape
        owner).Gives s fun b s' => s'.1.roll.Serves owner (held ++ (made ++ [b])) := by
      refine .within (((keeps_alloc dtype shape owner).gives s.1).and
        (Host.gives_alloc dtype shape owner s.1) |>.mono ?_)
      rintro b s' ⟨hkeeps, howner⟩ b' hb'
      rw [← List.append_assoc] at hb'
      rcases List.mem_append.1 hb' with hold | hnew
      · exact h.keep hkeeps b' hold
      · rw [List.mem_singleton.1 hnew]
        exact howner
    have hrecord : ∀ b s', Roll.Serves owner (held ++ (made ++ [b])) s'.1.roll →
        ((Host.platform devices : Platform Net _ _ HostEvent).noted.recordStream b user).Gives s'
          fun _ s'' => s''.1.roll.Serves owner (held ++ (made ++ [b])) := by
      intro b s' hs'
      refine .within ((keeps_recordStream.gives s'.1).mono ?_)
      intro _ s'' hkeeps
      exact hs'.keep hkeeps
    refine .bind (G := fun b s' => s'.1.roll.Serves owner (held ++ (made ++ [b])))
      (.orElseClean (.bind halloc ?_)) ?_
    · intro b s₁ h₁
      refine .bind (.orElseClean (hrecord b s₁ h₁)) ?_
      intro _ s₂ h₂
      exact .of_done rfl h₂
    · intro b s₁ h₁
      exact ih h₁

/-- After something that is looked up or computed. -/
lemma touches_ofOutcome {o : Outcome ExchangeError α}
    {f : α → Act Net (Noted × SimulatedLink) ExchangeError Unit}
    (hf : ∀ a, (f a).Changes linkAccount (Account.Touches A)) :
    ((Act.ofOutcome o).bind f).Changes linkAccount (Account.Touches A) :=
  .bind (Account.chains_touches A)
    ((Act.Spares.ofOutcome o).changes (Account.touches_self A)) hf

lemma touches_exchangeRanges [TensorLibrary] {peer : Outcome ExchangeError Nat}
    {sent received : Outcome ExchangeError ByteRange} (hinput : A ⟨input, str⟩)
    (houtput : A ⟨output, str⟩) :
    (exchangeRanges transport.noted input output str peer sent received).Changes linkAccount
      (Account.Touches A) := by
  refine touches_ofOutcome ?_
  intro rank
  refine touches_ofOutcome ?_
  intro part
  refine .bind (Account.chains_touches A) (touches_send hinput) ?_
  intro _
  refine touches_ofOutcome ?_
  intro part
  exact touches_recv houtput

lemma settling_scatterStage [TensorLibrary] (hkind : str.kind = kind) (stage : Nat) :
    (scatterStage (Host.platform devices).noted transport.noted p input outputs str stage :
      Act Net NotedEngine ExchangeError Unit).Changes workshop
        (Settling kind (Touch.On str (input :: outputs))) := by
  intro e
  refine (Act.Looks.ofOutcome _).before settling_self ?_
  intro output hend
  have houtput := mem_of_found hend
  refine (Act.Changes.bind chains_settling (settling_round hkind ?_) ?_) e
  · refine .forEach (Account.chains_touches _) ?_
    intro j _
    exact touches_exchangeRanges ⟨rfl, List.mem_cons_self⟩ ⟨rfl, List.mem_cons_of_mem _ houtput⟩
  · intro _
    exact settling_onSlots (Slots.spares_release.changes (Account.settles_self _ _))

/-- A scatter settles its account. -/
theorem settling_scatter [TensorLibrary] {shape : List Nat} {stages slices : Nat}
    {direction : Direction} (hinput : input.cell < e.1.1.heap.length) :
    (scatter (Host.platform devices).noted transport.noted input shape stages slices
      direction).Ensures e fun o e' =>
        Settling .comm (fun _ => False) (workshop e) o.ending (workshop e') := by
  refine (looks_onComm looks_checkDevice).before settling_self ?_
  intro _ _
  refine (Act.Looks.ofOutcome _).before settling_self ?_
  intro total _
  refine looks_plan.before settling_self ?_
  intro p _
  refine (Act.Looks.ofOutcome _).before settling_self ?_
  intro _ _
  refine (looks_notedStream .comm).before settling_self ?_
  intro comm hcomm
  have hkind := gives_kind .comm e comm e hcomm
  refine (looks_notedStream .compute).before settling_self ?_
  intro compute _
  refine settling_recordStream.afterGives chains_settling (gives_recordStream hinput) ?_
  rintro _ e₁ ⟨-, h₁⟩
  have hstages : (onPlatform (allocStages (Host.platform devices).noted input.dtype shape comm
      compute stages []) : Act Net NotedEngine ExchangeError _).Gives e₁ fun outputs e₂ =>
        e₂.1.1.roll.Serves comm (input :: outputs) := by
    refine .within (.mapError (gives_allocStages _ _ _ _ [input] _ ?_))
    intro b hb
    rw [List.mem_singleton.1 hb]
    exact h₁
  refine (settling_onPlatform (settles_allocStages _ _ _ _ _ _)).afterGives chains_settling
    hstages ?_
  intro outputs e₂ h₂
  -- all buffers are registered by now, so that touching them leaves nothing open
  refine settling_served h₂ ?_
  refine .bind chains_settling (.orElseClean ?_ (workshop_onPlatform (account_releaseAll _))) ?_
  · refine .bind chains_settling (settling_onSlots (Slots.settles_acquire [])) ?_
    intro _
    exact .forEach chains_settling fun stage _ => settling_scatterStage hkind stage
  · intro _
    exact .pure chains_settling _

lemma settling_gatherStage [TensorLibrary] (hkind : str.kind = kind) (stage : Nat) :
    (gatherStage (Host.platform devices).noted transport.noted p inputs output str stage :
      Act Net NotedEngine ExchangeError Unit).Changes workshop
        (Settling kind (Touch.On str (output :: inputs))) := by
  intro e
  refine (Act.Looks.ofOutcome _).before settling_self ?_
  intro input hend
  have hinput := mem_of_found hend
  refine (Act.Changes.bind chains_settling (settling_onSlots (Slots.settles_acquire [])) ?_) e
  intro _
  refine settling_round hkind (.forEach (Account.chains_touches _) ?_)
  intro j _
  exact touches_exchangeRanges ⟨rfl, List.mem_cons_of_mem _ hinput⟩ ⟨rfl, List.mem_cons_self⟩

/-- A gather settles its account. -/
theorem settling_gather [TensorLibrary] {shape : List Nat} {stages slices : Nat}
    {direction : Direction} (hinputs : ∀ b ∈ inputs, b.cell < e.1.1.heap.length) :
    (gather (Host.platform devices).noted transport.noted inputs shape stages slices
      direction).Ensures e fun o e' =>
        Settling .comm (fun _ => False) (workshop e) o.ending (workshop e') := by
  refine (Act.Looks.ensure _ _).before settling_self ?_
  intro _ _
  cases inputs with
  | nil => exact (Act.Spares.fail _).changes settling_self e
  | cons first rest =>
    refine (looks_onComm looks_checkAlike).before settling_self ?_
    intro _ _
    refine (Act.Looks.ofOutcome _).before settling_self ?_
    intro total _
    refine looks_plan.before settling_self ?_
    intro p _
    refine looks_checkStageBuffers.before settling_self ?_
    intro _ _
    refine (looks_notedStream .comm).before settling_self ?_
    intro comm hcomm
    have hkind := gives_kind .comm e comm e hcomm
    refine (looks_notedStream .compute).before settling_self ?_
    intro compute _
    refine (Act.Changes.forEach chains_settling fun b _ => settling_recordStream).afterGives
      chains_settling (gives_recordStreams hinputs) ?_
    intro _ e₁ h₁
    refine (settling_alloc _ _).afterGives chains_settling (gives_alloc _ _ h₁) ?_
    intro output e₂ h₂
    -- all buffers are registered by now, so that touching them leaves nothing open
    refine settling_served h₂ ?_
    refine .bind chains_settling (.orElseClean ?_ workshop_release) ?_
    · refine .bind chains_settling settling_recordStream ?_
      intro _
      refine .bind chains_settling ?_ ?_
      · exact .forEach chains_settling fun stage _ => settling_gatherStage hkind stage
      · intro _
        exact settling_onSlots (Slots.spares_release.changes (Account.settles_self _ _))
    · intro _
      exact .pure chains_settling _

/-- Regrouping touches its two buffers. -/
lemma settling_regroupChunks {buffers : List Buffer} (hkind : str.kind = kind)
    (houtput : output ∈ buffers) (hinput : input ∈ buffers) (chunk height width : Nat) :
    (regroupChunks (Host.platform devices).noted str output input chunk height width :
      Act Net NotedEngine ExchangeError Unit).Changes workshop
        (Settling kind (Touch.On str buffers)) := by
  refine settling_after (.view _) ?_
  intro kernels
  refine settling_onInvoker (.mapError (settling_invokeOn hkind ?_))
  intro b hb
  rcases List.mem_cons.1 hb with rfl | hb
  · exact ⟨rfl, houtput⟩
  · rw [List.mem_singleton.1 hb]
    exact ⟨rfl, hinput⟩

lemma workshop_noteFlat (h : Hierarchy) :
    (noteFlat (Host.platform devices).noted h : Act Net NotedEngine ExchangeError Unit).Spares
      workshop := by
  refine .bind (.view _) ?_
  intro fired
  refine .bind (.modify fun _ => rfl) ?_
  intro _
  refine .ite ?_ (.pure ())
  intro e
  exact .of_done rfl rfl

variable [TensorLibrary]

lemma settling_exchangeFlat (h : Hierarchy) {compute : Stream} (hkind : str.kind = kind) :
    (exchangeFlat (Host.platform devices).noted transport.noted h input output str compute :
      Act Net NotedEngine ExchangeError Unit).Changes workshop
        (Settling kind (Touch.On str [output, input])) := by
  refine settling_after (workshop_noteFlat h) ?_
  intro _
  refine .bind chains_settling (settling_round hkind (.forEach (Account.chains_touches _) ?_)) ?_
  · intro peer _
    rw [exchangeBlock_eq]
    exact touches_exchangeRanges ⟨rfl, by simp⟩ ⟨rfl, by simp⟩
  · intro _
    exact settling_recordStream

lemma settling_exchangeNested (h : Hierarchy) {compute : Stream} (hkind : str.kind = kind) :
    (exchangeNested (Host.platform devices).noted transport.noted h input between str compute :
      Act Net NotedEngine ExchangeError Unit).Changes workshop
        (Settling kind (Touch.On str [between, input])) := by
  refine .bind chains_settling (settling_regroupChunks hkind (by simp) (by simp) _ _ _) ?_
  intro _
  refine .bind chains_settling (settling_round hkind (.forEach (Account.chains_touches _) ?_)) ?_
  · intro g _
    rw [exchangeBlock_eq]
    exact touches_exchangeRanges ⟨rfl, by simp⟩ ⟨rfl, by simp⟩
  intro _
  refine .bind chains_settling (settling_regroupChunks hkind (by simp) (by simp) _ _ _) ?_
  intro _
  refine .bind chains_settling (settling_round hkind (.forEach (Account.chains_touches _) ?_)) ?_
  · intro n _
    rw [exchangeBlock_eq]
    exact touches_exchangeRanges ⟨rfl, by simp⟩ ⟨rfl, by simp⟩
  intro _
  exact settling_recordStream

/-- A two-level exchange settles its account. -/
theorem settling_exchangeAll (hinput : input.cell < e.1.1.heap.length) :
    (exchangeAll (Host.platform devices).noted transport.noted input).Ensures e fun o e' =>
      Settling .comm (fun _ => False) (workshop e) o.ending (workshop e') := by
  refine (looks_onComm looks_checkDevice).before settling_self ?_
  intro _ _
  refine (Act.Looks.ofOutcome _).before settling_self ?_
  intro total _
  refine (Act.Looks.view _).before settling_self ?_
  intro place _
  refine (Act.Looks.ofOutcome _).before settling_self ?_
  intro h _
  refine (looks_notedStream .comm).before settling_self ?_
  intro comm hcomm
  have hkind := gives_kind .comm e comm e hcomm
  refine (looks_notedStream .compute).before settling_self ?_
  intro compute _
  refine settling_recordStream.afterGives chains_settling (gives_recordStream hinput) ?_
  rintro _ e₁ ⟨-, h₁⟩
  have hserves : e₁.1.1.roll.Serves comm [input] := by
    intro b hb
    rw [List.mem_singleton.1 hb]
    exact h₁
  refine (settling_alloc _ _).afterGives chains_settling (gives_alloc _ _ hserves) ?_
  intro between e₂ h₂
  -- both buffers are registered by now, so that touching them leaves nothing open
  by_cases hflat : h.isFlat = true
  · simp only [hflat, if_true]
    refine settling_served h₂ (.bind chains_settling (.orElseClean ?_ workshop_release) ?_)
    · exact settling_exchangeFlat h hkind
    · intro _
      exact .pure chains_settling _
  · simp only [hflat]
    refine settling_served h₂ (.bind chains_settling (.andFinally ?_ workshop_release) ?_)
    · refine .bind chains_settling (settling_exchangeNested h hkind) ?_
      intro _
      exact (workshop_onPlatform (spares_account (.pure ()))).changes settling_self
    · intro _
      exact .pure chains_settling _

end Scheduler

end ExpertExchange
