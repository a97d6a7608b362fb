import ExpertExchange.Group.Simulated
import ExpertExchange.Proofs.Act.Watched

/-!
# Acts on contents

What moving bytes changes of a host platform is what buffers hold. It leaves alone how many bytes
they hold and who uses them, and everything else that does not depend on contents.
-/

namespace ExpertExchange

variable {S : Service} {σ ω ε α : Type}

/-- An act that asks nothing does the same over any service. -/
lemma Act.Changes.embed {watch : σ → ω} {R : ω → Ending → ω → Prop} {m : Act Silence σ ε α}
    (hm : m.Changes watch R) : (m.embed : Act S σ ε α).Changes watch R := by
  intro s
  refine .of_done rfl (hm s (m s).value.1 (m s).value.2 ?_)
  rw [Program.eq_done_value (m s)]
  exact .done _

def Memory.hostSize? : Memory → Option Nat
  | .host content => some content.length
  | .cuda _ _ => none

/-- Sizes of allocations, where they are host memory, and the streams that use them, by cell. -/
abbrev Outline := List (Option Nat × List Stream)

namespace Heap

def users (h : Heap) : List (List Stream) := h.map (·.usedBy)

/-- How many bytes the allocations hold, and the streams that use them, by cell. -/
def outline (h : Heap) : Outline :=
  h.map fun a => (a.memory.hostSize?, a.usedBy)

variable {b : Buffer} {h : Heap}

lemma users_eq_outline (h : Heap) : h.users = h.outline.map (·.2) := by
  rw [users, outline, List.map_map]
  rfl

lemma usedBy_eq (h : Heap) (b : Buffer) : h.usedBy b = h.users.getD b.cell [] := by
  rw [usedBy, allocation?, users, List.getD_eq_getElem?_getD, List.getElem?_map]
  cases h[b.cell]? with
  | none => rfl
  | some a => rfl

lemma looks_bytes : (bytes b : Act S Heap DeviceError Bytes).Looks := by
  intro h
  rcases hallocation : h.allocation? b with _ | ⟨memory, users, handles⟩
  · exact ⟨.error (.memoryKind .host .cuda), by rw [bytes, hallocation]⟩
  · cases memory with
    | host content => exact ⟨.ok content, by rw [bytes, hallocation]⟩
    | cuda address owner => exact ⟨.error (.memoryKind .host .cuda), by rw [bytes, hallocation]⟩

/-- New contents of the old size have the old users. -/
lemma outline_setContent {old content : Bytes} {users : List Stream} {handles : Nat}
    (hallocation : h.allocation? b = some ⟨.host old, users, handles⟩)
    (hlength : content.length = old.length) :
    outline (h.modify b.cell fun a => { a with memory := .host content }) = h.outline := by
  rw [allocation?] at hallocation
  apply List.ext_getElem?
  intro j
  simp only [outline, List.getElem?_map, List.getElem?_modify]
  by_cases hj : b.cell = j
  · subst hj
    simp [hallocation, Memory.hostSize?, hlength]
  · simp [hj]

lemma spares_setBytes (content : Bytes) :
    (setBytes b content : Act S Heap DeviceError Unit).Spares outline := by
  intro h
  have hforeign : (bytes b : Act S Heap DeviceError Bytes) h =
      .done (.error (.memoryKind .host .cuda), h) →
        (setBytes b content : Act S Heap DeviceError Unit).Ensures h
          fun _ h' => outline h' = outline h :=
    fun hbytes => .of_done (Act.bind_error hbytes) rfl
  rcases hallocation : h.allocation? b with _ | ⟨memory, users, handles⟩
  · exact hforeign (by rw [bytes, hallocation])
  · cases memory with
    | cuda address owner => exact hforeign (by rw [bytes, hallocation])
    | host old =>
      have hbytes : (bytes b : Act S Heap DeviceError Bytes) h = .done (.ok old, h) := by
        rw [bytes, hallocation]
      by_cases hlength : content.length = old.length
      · have hset : (setBytes b content : Act S Heap DeviceError Unit) h =
            .done (.ok (), h.modify b.cell fun a => { a with memory := .host content }) := by
          refine (Act.bind_done hbytes).trans ?_
          rw [if_pos hlength]
          rfl
        exact .of_done hset (outline_setContent hallocation hlength)
      · have hset : (setBytes b content : Act S Heap DeviceError Unit) h =
            .done (.fault none, h) := by
          refine (Act.bind_done hbytes).trans ?_
          rw [if_neg hlength]
          rfl
        exact .of_done hset rfl

lemma looks_words (t : Dtype) : (words b t : Act S Heap DeviceError (List Nat)).Looks := by
  refine .bind (.ensure _ _) ?_
  intro _
  refine .bind looks_bytes ?_
  intro content
  exact .pure _

lemma spares_setWords (t : Dtype) (values : List Nat) :
    (setWords b t values : Act S Heap DeviceError Unit).Spares outline := by
  refine .bind (.ensure _ _) ?_
  intro _
  refine .bind (.ofOutcome _) ?_
  intro size
  refine .bind (.ensure _ _) ?_
  intro _
  exact spares_setBytes _

lemma spares_copyIn (content : Bytes) :
    (copyIn b content : Act S Heap DeviceError Unit).Spares outline := by
  refine .bind (.ofOutcome _) ?_
  intro size
  refine .bind (.ensure _ _) ?_
  intro _
  exact spares_setBytes _

end Heap

namespace HostState

/-- What is watched of a host platform does not depend on what buffers hold. -/
def Contentless (watch : HostState → ω) : Prop :=
  ∀ s h, Heap.outline h = Heap.outline s.heap → watch { s with heap := h } = watch s

/-- What is watched of a host platform does not depend on the trace. -/
def Traceless (watch : HostState → ω) : Prop := ∀ s e, watch (s.note e) = watch s

end HostState

namespace Host

variable {watch : HostState → ω}

lemma spares_checkArguments (args : List Argument) :
    (checkArguments args : Act S HostState DeviceError Unit).Spares watch := by
  refine .forEach ?_
  intro arg _
  cases arg with
  | buffer b =>
    refine .bind (.view _) ?_
    intro heap
    exact .ensure _ _
  | scalar x => exact .pure ()

end Host

namespace SimulatedLink

/-- What is watched of a platform and a link does not depend on what buffers hold. -/
def Contentless (watch : HostState × SimulatedLink → ω) : Prop :=
  ∀ s l h, Heap.outline h = Heap.outline s.heap → watch ({ s with heap := h }, l) = watch (s, l)

/-- What is watched of a platform and a link does not depend on the trace. -/
def Traceless (watch : HostState × SimulatedLink → ω) : Prop :=
  ∀ s l e, watch (HostState.note s e, l) = watch (s, l)

variable {watch : HostState × SimulatedLink → ω} {b : Buffer} {range : ByteRange} {peer : Nat}

lemma spares_onHeap (hw : Contentless watch) {m : Act Net Heap DeviceError α}
    (hm : m.Spares Heap.outline) : (onHeap m).Spares watch :=
  Act.Changes.part (.mapError hm) fun q _ h heq => hw q.1 q.2 h heq

lemma spares_postBytes (payload : Bytes) : (postBytes payload peer).Spares watch := by
  refine .bind (.view _) ?_
  intro l
  exact .request _

lemma spares_post (hw : Contentless watch) : (post b range peer).Spares watch := by
  refine .bind (spares_onHeap hw Heap.looks_bytes.spares) ?_
  intro content
  refine .bind (.ofOutcome _) ?_
  intro _
  exact spares_postBytes _

lemma spares_take : (take peer).Spares watch := by
  refine .bind (.view _) ?_
  intro l
  refine .bind (.request _) ?_
  intro received
  cases received with
  | some payload => exact .pure payload
  | none => exact .fail _

lemma spares_deliver (hw : Contentless watch) : (deliver b range peer).Spares watch := by
  refine .bind spares_take ?_
  intro payload
  refine .bind (.view _) ?_
  intro l
  refine .bind (.ensure _ _) ?_
  intro _
  refine .bind (spares_onHeap hw Heap.looks_bytes.spares) ?_
  intro content
  refine .bind (.ofOutcome _) ?_
  intro _
  exact spares_onHeap hw (Heap.spares_setBytes _)

lemma spares_perform (hw : Contentless watch) (t : Transfer) : (perform t).Spares watch := by
  unfold perform
  cases t.kind with
  | send => exact spares_post hw
  | recv => exact spares_deliver hw

lemma spares_checkPeer : (checkPeer peer).Spares watch := by
  refine .bind (.view _) ?_
  intro l
  exact .ensure _ _

lemma spares_checkRange : (checkRange b range).Spares watch := by
  refine .bind (.ofOutcome _) ?_
  intro size
  exact .ensure _ _

lemma spares_note (ht : Traceless watch) (e : TraceEvent) : (note e).Spares watch :=
  .modify fun q => ht q.1 q.2 e

lemma spares_broadcast (hw : Contentless watch) (ht : Traceless watch) (root : Nat) :
    (broadcast b root).Spares watch := by
  refine .bind spares_checkPeer ?_
  intro _
  refine .bind (spares_note ht _) ?_
  intro _
  refine .bind (.ofOutcome _) ?_
  intro size
  refine .bind (.view _) ?_
  intro l
  refine .ite ?_ (spares_deliver hw)
  exact .forEach fun peer _ => spares_post hw

lemma spares_contribution [TensorLibrary] (own : Bytes) :
    (contribution b own peer).Spares watch := by
  refine .bind (.view _) ?_
  intro l
  refine .ite (.bind (.pure own) fun payload => .ofOutcome _) ?_
  exact .bind spares_take fun payload => .ofOutcome _

lemma spares_addContributions [TensorLibrary] (own : Bytes) (peers : List Nat) (sum : Tensor) :
    (addContributions b own peers sum).Spares watch := by
  induction peers generalizing sum with
  | nil => exact .pure sum
  | cons peer rest ih =>
    refine .bind (spares_contribution own) ?_
    intro part
    refine .bind (.ofOutcome _) ?_
    intro sum'
    exact ih sum'

lemma spares_allReduce [TensorLibrary] (hw : Contentless watch) (ht : Traceless watch) :
    (allReduce b).Spares watch := by
  refine .bind (spares_note ht _) ?_
  intro _
  refine .bind (spares_onHeap hw Heap.looks_bytes.spares) ?_
  intro own
  refine .bind (.view _) ?_
  intro l
  refine .bind (.forEach fun peer _ => spares_postBytes own) ?_
  intro _
  cases List.range l.worldSize with
  | nil => exact .pure ()
  | cons first rest =>
    refine .bind (spares_contribution own) ?_
    intro part
    refine .bind (spares_addContributions own rest part) ?_
    intro sum
    refine .bind (.ofOutcome _) ?_
    intro content
    exact spares_onHeap hw (Heap.spares_setBytes _)

section Beside

def beside (watch : HostState → ω) (q : HostState × SimulatedLink) : ω := watch q.1

variable {watch : HostState → ω} (hw : HostState.Contentless watch)
  (ht : HostState.Traceless watch)

include hw in
lemma contentless_beside : Contentless (beside watch) := fun s _ h heq => hw s h heq

include ht in
lemma traceless_beside : Traceless (beside watch) := fun s _ e => ht s e

include hw in
lemma spares_issue (t : Transfer) : (issue t).Spares (beside watch) := by
  refine .bind (.view _) ?_
  intro l
  exact .ite (.modify fun _ => rfl) (spares_perform (contentless_beside hw) t)

include ht in
lemma spares_groupStart : groupStart.Spares (beside watch) := by
  refine .bind (.modify fun _ => rfl) ?_
  intro _
  exact spares_note (traceless_beside ht) _

include hw ht

lemma spares_groupEnd : groupEnd.Spares (beside watch) := by
  refine .bind (.view _) ?_
  intro l
  rcases l.depth with _ | _ | depth
  · exact .fail _
  · refine .bind (.modify fun _ => rfl) ?_
    intro _
    refine .bind (spares_note (traceless_beside ht) _) ?_
    intro _
    exact .forEach fun t _ => spares_perform (contentless_beside hw) t
  · refine .bind (.modify fun _ => rfl) ?_
    intro _
    exact spares_note (traceless_beside ht) _

lemma spares_send (stream : Stream) : (send b range peer stream).Spares (beside watch) := by
  refine .bind spares_checkPeer ?_
  intro _
  refine .bind spares_checkRange ?_
  intro _
  refine .bind (spares_note (traceless_beside ht) _) ?_
  intro _
  exact spares_issue hw _

lemma spares_recv (stream : Stream) : (recv b range peer stream).Spares (beside watch) := by
  refine .bind spares_checkPeer ?_
  intro _
  refine .bind spares_checkRange ?_
  intro _
  refine .bind (spares_note (traceless_beside ht) _) ?_
  intro _
  exact spares_issue hw _

end Beside

end SimulatedLink

end ExpertExchange
