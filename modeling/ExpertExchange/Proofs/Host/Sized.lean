import ExpertExchange.Operator.Dispatch
import ExpertExchange.Proofs.Act.Faultless
import ExpertExchange.Proofs.Group.Exchanged
import ExpertExchange.Proofs.Host.Account
import Mathlib.Data.List.Nodup

/-!
# Sizes and users of buffers

How many bytes a host buffer holds is settled when it is made, and so is its first user. Whatever
writes to it puts as many bytes in place of the old ones, and registration appends to its users. A
part of a buffer that lies inside its type and shape is therefore always there.
-/

namespace ExpertExchange

variable {S : Service} {ε α : Type}

namespace Outline

variable {o o' : Outline} {ending : Ending} {t : Dtype} {shape : List Nat} {owner : Stream}
  {b : Buffer} {size : Nat}

/-- All allocations are still there and as large as they were. Streams are only added to their
users, and none is added twice. -/
def Grows (o : Outline) (_ : Ending) (o' : Outline) : Prop :=
  ∀ (i : Nat) (size : Option Nat) (users : List Stream), o[i]? = some (size, users) →
    ∃ users', o'[i]? = some (size, users') ∧ users <+: users' ∧ (users.Nodup → users'.Nodup)

lemma grows_self (o : Outline) (ending : Ending) : o.Grows ending o := by
  intro i size users h
  exact ⟨users, h, List.prefix_refl users, id⟩

lemma chains_grows : Chains Grows := by
  constructor
  · intro o
    exact grows_self o .ok
  · intro o o₁ o₂ ending h h' i size users hi
    obtain ⟨users₁, h₁, hprefix, hnodup⟩ := h i size users hi
    obtain ⟨users₂, h₂, hprefix', hnodup'⟩ := h' i size users₁ h₁
    exact ⟨users₂, h₂, hprefix.trans hprefix', fun hn => hnodup' (hnodup hn)⟩

lemma grows_append (o : Outline) (cell : Option Nat × List Stream) (ending : Ending) :
    o.Grows ending (o ++ [cell]) := by
  intro i size users h
  have hi : i < o.length := (List.getElem?_eq_some_iff.1 h).1
  refine ⟨users, ?_, List.prefix_refl users, id⟩
  rw [List.getElem?_append_left hi, h]

def HasSize (o : Outline) (b : Buffer) (size : Nat) : Prop :=
  ∃ users, o[b.cell]? = some (some size, users)

lemma HasSize.grows (h : o.HasSize b size) (hgrows : o.Grows ending o') : o'.HasSize b size := by
  obtain ⟨users, hcell⟩ := h
  obtain ⟨users', hcell', -⟩ := hgrows _ _ _ hcell
  exact ⟨users', hcell'⟩

/-- The buffer is of this type and shape, and its allocation is host memory of the size that these
ask for. The users of it start with the owner, and no stream is among them twice. -/
structure Houses (o : Outline) (t : Dtype) (shape : List Nat) (owner : Stream) (b : Buffer) :
    Prop where
  dtype_eq : b.dtype = t
  shape_eq : b.shape = shape
  cell : ∃ size users, o[b.cell]? = some (some size, users) ∧
    Buffer.sizeOf? t shape = some size ∧ users.head? = some owner ∧ users.Nodup

lemma Houses.grows (h : o.Houses t shape owner b) (hgrows : o.Grows ending o') :
    o'.Houses t shape owner b := by
  obtain ⟨hdtype, hshape, size, users, hcell, hsize, hhead, hnodup⟩ := h
  obtain ⟨users', hcell', ⟨more, rfl⟩, hnodup'⟩ := hgrows _ _ _ hcell
  refine ⟨hdtype, hshape, size, users ++ more, hcell', hsize, ?_, hnodup' hnodup⟩
  rw [List.head?_append, hhead]
  rfl

/-- The size that type and shape of the buffer ask for is the size of its allocation. -/
lemma Houses.hasSize (h : o.Houses t shape owner b) :
    ∃ size, Buffer.sizeOf? b.dtype b.shape = some size ∧ o.HasSize b size := by
  obtain ⟨hdtype, hshape, size, users, hcell, hsize, -⟩ := h
  rw [hdtype, hshape]
  exact ⟨size, hsize, users, hcell⟩

end Outline

namespace Heap

variable {h : Heap} {b : Buffer} {t : Dtype} {shape : List Nat} {owner : Stream} {content : Bytes}
  {i size : Nat} {users : List Stream}

lemma getElem?_outline (h : Heap) (i : Nat) :
    h.outline[i]? = h[i]?.map fun a => (a.memory.hostSize?, a.usedBy) := List.getElem?_map

lemma exists_content (hi : h.outline[i]? = some (some size, users)) :
    ∃ content handles, h[i]? = some ⟨.host content, users, handles⟩ ∧ content.length = size := by
  rw [getElem?_outline] at hi
  obtain ⟨⟨memory, users', handles⟩, hcell, heq⟩ := Option.map_eq_some_iff.1 hi
  cases memory with
  | host content =>
    simp only [Memory.hostSize?, Prod.mk.injEq, Option.some.injEq] at heq
    obtain ⟨hlength, rfl⟩ := heq
    exact ⟨content, handles, hcell, hlength⟩
  | cuda address owner => cases congrArg Prod.fst heq

lemma grows_markUsed (h : Heap) (b : Buffer) (stream : Stream) (ending : Ending) :
    h.outline.Grows ending (h.markUsed b stream).outline := by
  intro i size users hi
  rw [getElem?_outline] at hi
  obtain ⟨a, ha, heq⟩ := Option.map_eq_some_iff.1 hi
  cases heq
  have hmarked : (h.markUsed b stream).outline[i]? = some (a.memory.hostSize?,
      if b.cell = i ∧ stream ∉ a.usedBy then a.usedBy ++ [stream] else a.usedBy) := by
    rw [getElem?_outline, markUsed, List.getElem?_modify, ha]
    by_cases hcell : b.cell = i <;> by_cases hmem : stream ∈ a.usedBy <;> simp [hcell, hmem]
  refine ⟨_, hmarked, ?_⟩
  by_cases hnew : b.cell = i ∧ stream ∉ a.usedBy
  · rw [if_pos hnew]
    refine ⟨List.prefix_append _ _, ?_⟩
    intro hnodup
    refine hnodup.append (List.nodup_singleton stream) ?_
    exact List.disjoint_singleton.2 hnew.2
  · rw [if_neg hnew]
    exact ⟨List.prefix_refl _, id⟩

/-- The act makes a buffer of this type and shape, with the owner as its user. Other buffers are as
before, and are so too if none is made. -/
def Makes (t : Dtype) (shape : List Nat) (owner : Stream) (m : Act S Heap ε Buffer) : Prop :=
  ∀ h, m.Ensures h fun o h' => h.outline.Grows o.ending h'.outline ∧
    ∀ b, o = .ok b → h'.outline.Houses t shape owner b

namespace Makes

lemma failed {o : Outcome ε Buffer} (ho : ∀ b, o ≠ .ok b) :
    Makes t shape owner (Act.ofOutcome o : Act S Heap ε Buffer) := by
  intro h
  refine .of_done rfl ⟨Outline.grows_self _ _, ?_⟩
  intro b hb
  exact absurd hb (ho b)

lemma place (hsize : Buffer.sizeOf? t shape = some content.length) :
    Makes t shape owner (place (.host content) t shape owner : Act S Heap ε Buffer) := by
  intro h
  have houtline : outline (h ++ [⟨.host content, [owner], 1⟩]) =
      h.outline ++ [(some content.length, [owner])] := List.map_append
  refine .of_done rfl ⟨?_, ?_⟩
  · rw [houtline]
    exact Outline.grows_append _ _ _
  · rintro b ⟨⟩
    rw [houtline]
    refine ⟨rfl, rfl, content.length, [owner], ?_, hsize, rfl, List.nodup_singleton owner⟩
    have hlength : h.outline.length = h.length := List.length_map _
    rw [List.getElem?_append_right (Nat.le_of_eq hlength), hlength, Nat.sub_self]
    rfl

lemma ensure {p : Prop} [Decidable p] {e : ε} {f : Unit → Act S Heap ε Buffer}
    (hf : p → Makes t shape owner (f ())) :
    Makes t shape owner ((Act.ensure p e).bind f) := by
  unfold Act.ensure
  by_cases hp : p
  · rw [if_pos hp]
    exact hf hp
  · rw [if_neg hp]
    exact failed nofun

/-- After something is computed. -/
lemma ofOutcome {o : Outcome ε α} {f : α → Act S Heap ε Buffer}
    (hf : ∀ a, o = .ok a → Makes t shape owner (f a)) :
    Makes t shape owner ((Act.ofOutcome o).bind f) := by
  cases o with
  | ok a => exact hf a rfl
  | error e => exact failed nofun
  | fault w => exact failed nofun

/-- After the size is computed. -/
lemma sized {f : Nat → Act S Heap ε Buffer}
    (hf : ∀ size, Buffer.sizeOf? t shape = some size → Makes t shape owner (f size)) :
    Makes t shape owner ((Act.ofOutcome (Buffer.sizeOf t shape)).bind f) :=
  .ofOutcome fun size hsize => hf size (Buffer.sizeOf?_of_ok hsize)

end Makes

lemma makes_zeros (t : Dtype) (shape : List Nat) (owner : Stream) :
    Makes t shape owner (zeros t shape owner : Act S Heap ε Buffer) := by
  refine .sized ?_
  intro size hsize
  by_cases hlarge : Word.allocationBound < size
  · rw [if_pos hlarge]
    exact .failed nofun
  · rw [if_neg hlarge]
    exact .place (by rw [List.length_replicate, hsize])

lemma makes_ofBytes (device : Nat) (t : Dtype) (shape : List Nat) (content : Bytes) :
    Makes t shape (hostOwner device)
      (ofBytes device t shape content : Act S Heap DeviceError Buffer) := by
  refine .sized ?_
  intro size hsize
  refine .ensure ?_
  intro hlength
  exact .place (hlength ▸ hsize)

end Heap

/-- A way to make a host buffer. -/
inductive Creation [TensorLibrary] where
  | zeros (device : Nat) (dtype : Dtype) (shape : List Nat)
  | ofBytes (device : Nat) (dtype : Dtype) (shape : List Nat) (content : Bytes)
  | ofWords (device : Nat) (dtype : Dtype) (words : List Nat) (shape : List Nat)
  | ofTensor (t : Tensor) (device : Nat)
  | alloc (dtype : Dtype) (shape : List Nat) (stream : Stream)

namespace Creation

variable [TensorLibrary]

def dtype : Creation → Dtype
  | .zeros _ dtype _ => dtype
  | .ofBytes _ dtype _ _ => dtype
  | .ofWords _ dtype _ _ => dtype
  | .ofTensor t _ => TensorLibrary.dtype t
  | .alloc dtype _ _ => dtype

def shape : Creation → List Nat
  | .zeros _ _ shape => shape
  | .ofBytes _ _ shape _ => shape
  | .ofWords _ _ _ shape => shape
  | .ofTensor t _ => TensorLibrary.shape t
  | .alloc _ shape _ => shape

def owner : Creation → Stream
  | .zeros device _ _ => Heap.hostOwner device
  | .ofBytes device _ _ _ => Heap.hostOwner device
  | .ofWords device _ _ _ => Heap.hostOwner device
  | .ofTensor _ device => Heap.hostOwner device
  | .alloc _ _ stream => stream

def run (devices : Nat) : Creation → Act S HostState DeviceError Buffer
  | .zeros device dtype shape => Host.onHeap (Heap.zeros dtype shape (Heap.hostOwner device))
  | .ofBytes device dtype shape content => Host.onHeap (Heap.ofBytes device dtype shape content)
  | .ofWords device dtype words shape => Host.onHeap (Heap.ofWords device dtype words shape)
  | .ofTensor t device => Host.onHeap (t.toBuffer device)
  | .alloc dtype shape stream => (Host.platform devices).alloc dtype shape stream

end Creation

/-- Work on buffers that needs no one else. -/
inductive Handling where
  | writeSlice (b : Buffer) (t : Dtype) (values : List Nat)
  | writeBuffer (b : Buffer) (content : Bytes)
  | recordStream (b : Buffer) (stream : Stream)
  /-- Load a kernel and launch it. -/
  | launch (device : Nat) (image : Image) (entry : String) (bound : Nat) (geometry : Geometry)
      (args : List Argument) (stream : Stream)
  | dispatch (k : DispatchKernel) (b : DispatchBuffers) (shape : DispatchShape)

def Handling.run (devices : Nat) : Handling → Act S HostState OperatorError Unit
  | .writeSlice b t values => (Host.onHeap (Heap.setWords b t values)).mapError .device
  | .writeBuffer b content => ((Host.platform devices).write b content).mapError .device
  | .recordStream b stream => ((Host.platform devices).recordStream b stream).mapError .device
  | .launch device image entry bound geometry args stream =>
    Act.mapError .device (Act.bind ((Host.platform devices).load device image entry bound) fun f =>
      (Host.platform devices).launch f geometry args stream)
  | .dispatch k b shape => Host.onHeap (Dispatch.run k b shape)

namespace Dispatch

lemma spares_update (b : Buffer) (t : Dtype) (m : ListAct Nat Unit) (values : List Nat) :
    (update b t m values : Act S Heap OperatorError Unit).Spares Heap.outline := by
  refine .bind (.ofOutcome _) ?_
  intro _
  exact .mapError (Heap.spares_setWords _ _)

lemma spares_words (b : Buffer) (t : Dtype) :
    (onHeap (Heap.words b t) : Act S Heap OperatorError (List Nat)).Spares Heap.outline :=
  (Act.Looks.mapError (Heap.looks_words t)).spares

lemma spares_run (k : DispatchKernel) (b : DispatchBuffers) (shape : DispatchShape) :
    (run k b shape : Act S Heap OperatorError Unit).Spares Heap.outline := by
  refine .bind (.forEach fun _ _ => .ensure _ _) ?_
  intro _
  refine .bind (.forEach fun _ _ => .ensure _ _) ?_
  intro _
  cases Arithmetic.of? b.gates.dtype with
  | none => exact .fail _
  | some a =>
    refine .bind (spares_words _ _) ?_
    intro experts
    refine .bind (spares_words _ _) ?_
    intro slots
    refine .bind (spares_words _ _) ?_
    intro gates
    refine .bind (spares_words _ _) ?_
    intro input
    refine .bind (spares_words _ _) ?_
    intro dispatched
    refine .bind (.ofOutcome _) ?_
    intro r
    cases k with
    | forward => exact spares_update _ _ _ _
    | backwardData => exact spares_update _ _ _ _
    | backwardGate => exact spares_update _ _ _ _

end Dispatch

structure Layout where
  kernels : List (String × HostKernel)
  cells : Outline

def Layout.Grows (l : Layout) (ending : Ending) (l' : Layout) : Prop :=
  l'.kernels = l.kernels ∧ l.cells.Grows ending l'.cells

lemma Layout.grows_self (l : Layout) (ending : Ending) : l.Grows ending l :=
  ⟨rfl, l.cells.grows_self ending⟩

lemma Layout.chains_grows : Chains Layout.Grows := by
  constructor
  · intro l
    exact l.grows_self .ok
  · rintro l l₁ l₂ ending ⟨hkernels, hcells⟩ ⟨hkernels', hcells'⟩
    exact ⟨hkernels'.trans hkernels, Outline.chains_grows.trans hcells hcells'⟩

namespace HostState

def layout (s : HostState) : Layout := ⟨s.kernels, s.heap.outline⟩

lemma contentless_layout : Contentless layout := fun s _ h => congrArg (Layout.mk s.kernels) h

lemma traceless_layout : Traceless layout := fun _ _ => rfl

end HostState

namespace Host

open HostState

lemma keepsLayout_onHeap {m : Act S Heap ε α} (hm : m.Spares Heap.outline) :
    (onHeap m : Act S HostState ε α).Spares layout :=
  Act.Changes.part hm fun s _ h heq => contentless_layout s h heq

lemma grows_recordStream (b : Buffer) (stream : Stream) :
    (recordStream b stream : Act S HostState DeviceError Unit).Changes layout Layout.Grows := by
  intro s
  exact .of_done (recordStream_eq b stream s) ⟨rfl, s.heap.grows_markUsed b stream .ok⟩

lemma keepsLayout_launch {f : HostFunction} (hf : f.kernel.Tidy) (geometry : Geometry)
    (args : List Argument) (stream : Stream) :
    (launch f geometry args stream : Act S HostState DeviceError Unit).Spares layout := by
  refine .bind (spares_checkArguments args) ?_
  intro _
  refine .bind (.modify fun _ => rfl) ?_
  intro _
  exact keepsLayout_onHeap (hf geometry args).embed

variable {devices : Nat}

lemma makes_onHeap {t : Dtype} {shape : List Nat} {owner : Stream} {m : Act S Heap ε Buffer}
    (hm : Heap.Makes t shape owner m) (s : HostState) :
    (onHeap m : Act S HostState ε Buffer).Ensures s fun o s' =>
      s.layout.Grows o.ending s'.layout ∧
        ∀ b, o = .ok b → s'.heap.outline.Houses t shape owner b := by
  refine .within ((hm s.heap).mono ?_)
  rintro o h ⟨hgrows, hmade⟩
  exact ⟨⟨rfl, hgrows⟩, hmade⟩

/-- A buffer that is made has the size that its type and shape ask for, and its owner uses it. -/
theorem houses_made [TensorLibrary] (c : Creation) (s : HostState) :
    (c.run devices : Act S HostState DeviceError Buffer).Ensures s fun o s' =>
      s.layout.Grows o.ending s'.layout ∧
        ∀ b, o = .ok b → s'.heap.outline.Houses c.dtype c.shape c.owner b := by
  cases c with
  | zeros device dtype shape => exact makes_onHeap (Heap.makes_zeros _ _ _) s
  | ofBytes device dtype shape content => exact makes_onHeap (Heap.makes_ofBytes _ _ _ _) s
  | ofWords device dtype words shape => exact makes_onHeap (Heap.makes_ofBytes _ _ _ _) s
  | ofTensor t device =>
    refine makes_onHeap (.ofOutcome ?_) s
    intro content _
    exact Heap.makes_ofBytes _ _ _ content
  | alloc dtype shape stream =>
    by_cases hdevice : stream.device < devices
    · have hchecked : (Creation.run devices (.alloc dtype shape stream) :
          Act S HostState DeviceError Buffer) s = onHeap (Heap.zeros dtype shape stream) s :=
        Act.bind_done (Act.ensure_done hdevice _ s)
      unfold Act.Ensures
      rw [hchecked]
      exact makes_onHeap (Heap.makes_zeros _ _ _) s
    · have hfailed : (Creation.run devices (.alloc dtype shape stream) :
          Act S HostState DeviceError Buffer) s =
            .done (.error (.invalidDevice stream.device devices), s) :=
        Act.bind_error (Act.ensure_error hdevice _ s)
      refine .of_done hfailed ⟨s.layout.grows_self _, ?_⟩
      rintro _ ⟨⟩

/-- Work on buffers leaves their sizes alone, and adds to their users at most. -/
theorem grows_handled (work : Handling) (s : HostState) (hs : ∀ k ∈ s.kernels, k.2.Tidy) :
    (work.run devices : Act S HostState OperatorError Unit).Ensures s fun o s' =>
      s.layout.Grows o.ending s'.layout := by
  have hspared : ∀ m : Act S HostState OperatorError Unit, m.Spares layout →
      m.Ensures s fun o s' => s.layout.Grows o.ending s'.layout := fun m hm =>
    hm.changes Layout.grows_self s
  cases work with
  | writeSlice b t values =>
    exact hspared _ (.mapError (keepsLayout_onHeap (Heap.spares_setWords _ _)))
  | writeBuffer b content =>
    exact hspared _ (.mapError (keepsLayout_onHeap (Heap.spares_copyIn _)))
  | recordStream b stream => exact Act.Changes.mapError (grows_recordStream b stream) s
  | launch device image entry bound geometry args stream =>
    have hrun : (Act.bind (load devices device image entry) fun f => launch f geometry args stream :
        Act S HostState DeviceError Unit).Ensures s fun o s' =>
          s.layout.Grows o.ending s'.layout := by
      refine Act.Changes.afterGives Layout.chains_grows ?_ (gives_load device image entry s hs) ?_
      · exact (spares_load traceless_layout device image entry).changes Layout.grows_self
      · intro f s' hf
        exact (keepsLayout_launch hf geometry args stream).changes Layout.grows_self s'
    refine Act.Ensures.mapError (hrun.mono ?_)
    intro o s' h
    rw [Outcome.ending_mapError]
    exact h
  | dispatch k b shape => exact hspared _ (keepsLayout_onHeap (Dispatch.spares_run k b shape))

end Host

end ExpertExchange
