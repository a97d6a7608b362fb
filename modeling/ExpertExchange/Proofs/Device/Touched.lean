import ExpertExchange.Host.Kernels
import ExpertExchange.Proofs.Group.Mirrored
import ExpertExchange.Proofs.Host.Contents
import ExpertExchange.Proofs.Kernel.Sound

/-!
# Streams that touch a buffer

An allocation remembers the streams that use it, so that freeing it can wait for them. Beside the
state of a platform, a list of all touches says which streams those should be: a touch is a buffer
that an enqueued operation reads or writes, and the stream the operation runs on.
-/

namespace ExpertExchange

/-- An enqueued operation reads or writes a buffer on a stream. -/
structure Touch where
  buffer : Buffer
  stream : Stream
  deriving Repr, DecidableEq

def Touch.ofArguments (args : List Argument) (stream : Stream) : List Touch :=
  args.filterMap fun
    | .buffer b => some ⟨b, stream⟩
    | .scalar _ => none

lemma Touch.ofArguments_list (buffers : List Buffer) (scalars : List Scalar) (stream : Stream) :
    Touch.ofArguments (Argument.list buffers scalars) stream = buffers.map (⟨·, stream⟩) := by
  have hscalars : Touch.ofArguments (scalars.map .scalar) stream = [] := by
    induction scalars with
    | nil => rfl
    | cons x rest ih => exact ih
  induction buffers with
  | nil => exact hscalars
  | cons b rest ih => exact congrArg (⟨b, stream⟩ :: ·) ih

section Noted

variable {S : Service} {σ F E T ε α : Type}

def noteTouches (touches : List Touch) : Act S (σ × List Touch) ε Unit :=
  Act.modify fun s => (s.1, s.2 ++ touches)

def Platform.noted (P : Platform S σ F E) : Platform S (σ × List Touch) F E where
  name := P.name
  deviceCount := P.deviceCount
  isHost := P.isHost
  arch device := (P.arch device).within Part.first
  stream device kind := (P.stream device kind).within Part.first
  alloc dtype shape owner := (P.alloc dtype shape owner).within Part.first
  recordStream b stream := (P.recordStream b stream).within Part.first
  write b content := (P.write b content).within Part.first
  read b := (P.read b).within Part.first
  load device image entry bound := (P.load device image entry bound).within Part.first
  launch f geometry args stream :=
    Act.bind (noteTouches (Touch.ofArguments args stream)) fun _ =>
      (P.launch f geometry args stream).within Part.first
  occupancy f := (P.occupancy f).within Part.first
  createEvent device slot := (P.createEvent device slot).within Part.first
  recordEvent e stream := (P.recordEvent e stream).within Part.first
  waitEvent e stream := (P.waitEvent e stream).within Part.first
  synchronize stream := (P.synchronize stream).within Part.first
  retain b := (P.retain b).within Part.first
  release b := (P.release b).within Part.first
  unload f := (P.unload f).within Part.first
  destroyEvent e := (P.destroyEvent e).within Part.first
  record r s := (P.record r s.1, s.2)

namespace Transport

/-- Platform and link, as a part of what has touches beside the platform's state. -/
def unnoted : Part ((σ × List Touch) × T) (σ × T) :=
  ⟨fun s => (s.1.1, s.2), fun s l => ((l.1, s.1.2), l.2)⟩

def touching (b : Buffer) (stream : Stream) (m : Act S (σ × T) ExchangeError Unit) :
    Act S ((σ × List Touch) × T) ExchangeError Unit :=
  Act.bind ((noteTouches [⟨b, stream⟩]).within Part.first) fun _ => m.within unnoted

def noted (X : Transport S σ T) : Transport S (σ × List Touch) T where
  rank := X.rank
  worldSize := X.worldSize
  device := X.device
  groupStart := X.groupStart.within unnoted
  groupEnd := X.groupEnd.within unnoted
  send b range peer stream := touching b stream (X.send b range peer stream)
  recv b range peer stream := touching b stream (X.recv b range peer stream)
  broadcast b root stream := touching b stream (X.broadcast b root stream)
  allReduce b stream := touching b stream (X.allReduce b stream)
  close := X.close.within unnoted

end Transport

/-- The collective library with touches noted beside the platform's state. -/
def Backend.noted (B : Backend S σ T) : Backend S (σ × List Touch) T where
  name := B.name
  transport := B.transport.noted
  freshId := B.freshId.within Part.first
  connect id worldSize rank device timeout :=
    (B.connect id worldSize rank device timeout).within Part.first

def Compiler.noted (c : Compiler S σ) : Compiler S (σ × List Touch) :=
  ⟨c.name, fun source target => (c.compile source target).within Part.first⟩

/-- The second state is the first one without the touches beside it. -/
def Unnoted (t : σ × List Touch) (s : σ) : Prop := t.1 = s

lemma mirrors_unnoted {m : Act S σ ε α} :
    (m.within Part.first : Act S (σ × List Touch) ε α).Mirrors Unnoted m := by
  rintro ⟨s, touches⟩ _ rfl
  exact .replaced _ fun _ => ⟨rfl, rfl⟩

lemma Compiler.mirrors_noted (compilers : List (Compiler S σ)) :
    List.Forall₂ (Compiler.Mirrors Unnoted) (compilers.map Compiler.noted) compilers :=
  List.forall₂_map_left_iff.2 (List.forall₂_same.2 fun _ _ => ⟨rfl, fun _ _ => mirrors_unnoted⟩)

lemma Platform.mirrors_noted (P : Platform S σ F E) : P.noted.Mirrors Unnoted P where
  name := rfl
  deviceCount := rfl
  arch := mirrors_unnoted
  stream := mirrors_unnoted
  alloc := mirrors_unnoted
  recordStream := mirrors_unnoted
  write := mirrors_unnoted
  load := mirrors_unnoted
  launch _ s h := mirrors_unnoted _ s h
  occupancy := mirrors_unnoted
  createEvent := mirrors_unnoted
  recordEvent := mirrors_unnoted
  waitEvent := mirrors_unnoted
  retain := mirrors_unnoted
  release := mirrors_unnoted
  destroyEvent := mirrors_unnoted
  record h := congrArg (P.record _) h

namespace Transport

lemma mirrors_beside {m : Act S (σ × T) ExchangeError Unit} :
    (m.within unnoted).Mirrors (Act.Both Unnoted Eq) m := by
  rintro ⟨⟨s, touches⟩, l⟩ ⟨_, _⟩ ⟨rfl, rfl⟩
  exact .replaced _ fun _ => ⟨rfl, rfl, rfl⟩

lemma mirrors_touching {b : Buffer} {stream : Stream} {m : Act S (σ × T) ExchangeError Unit} :
    (touching b stream m).Mirrors (Act.Both Unnoted Eq) m :=
  fun _ s h => mirrors_beside _ s ⟨h.1, h.2⟩

lemma mirrors_noted (X : Transport S σ T) : X.noted.Mirrors Unnoted X where
  rank := rfl
  worldSize := rfl
  device := rfl
  groupStart := mirrors_beside
  groupEnd := mirrors_beside
  send := mirrors_touching
  recv := mirrors_touching
  broadcast := mirrors_touching
  allReduce := mirrors_touching
  close := mirrors_beside

end Transport

lemma Backend.mirrors_noted (B : Backend S σ T) : B.noted.Mirrors Unnoted B where
  name := rfl
  transport := B.transport.mirrors_noted
  freshId := mirrors_unnoted
  connect := mirrors_unnoted

end Noted

/-- Nothing is forgotten: every allocation is still there, and every stream that used it still
does. -/
structure Retains (users users' : List (List Stream)) : Prop where
  length_le : users.length ≤ users'.length
  subset : ∀ i, users.getD i [] ⊆ users'.getD i []

namespace Retains

variable {users users' users'' : List (List Stream)}

lemma refl (users : List (List Stream)) : Retains users users :=
  ⟨Nat.le_refl _, fun _ _ h => h⟩

lemma trans (h : Retains users users') (h' : Retains users' users'') : Retains users users'' :=
  ⟨Nat.le_trans h.length_le h'.length_le, fun i _ hs => h'.subset i (h.subset i hs)⟩

lemma append (users : List (List Stream)) (fresh : List Stream) :
    Retains users (users ++ [fresh]) where
  length_le := by simp
  subset i := by
    simp only [List.getD_eq_getElem?_getD]
    by_cases hi : i < users.length
    · rw [List.getElem?_append_left hi]
      exact List.Subset.refl _
    · rw [List.getElem?_eq_none (Nat.le_of_not_lt hi)]
      exact List.nil_subset _

end Retains

/-- A kernel that forgets no user of a buffer. -/
def HostKernel.Careful (kernel : HostKernel) : Prop :=
  ∀ geometry args, (kernel geometry args).Changes Heap.users fun users _ users' =>
    Retains users users'

namespace Heap

variable {b : Buffer} {stream : Stream} {h : Heap}

lemma users_markUsed (h : Heap) (b : Buffer) (stream : Stream) :
    (h.markUsed b stream).users =
      h.users.modify b.cell fun l => if stream ∈ l then l else l ++ [stream] := by
  apply List.ext_getElem?
  intro i
  simp only [markUsed, users, List.getElem?_map, List.getElem?_modify]
  cases h[i]? with
  | none => rfl
  | some a => by_cases hi : b.cell = i <;> by_cases hs : stream ∈ a.usedBy <;> simp [hi, hs]

lemma retains_markUsed (h : Heap) (b : Buffer) (stream : Stream) :
    Retains h.users (h.markUsed b stream).users := by
  rw [users_markUsed]
  constructor
  · simp
  · intro i s hs
    rw [List.getD_eq_getElem?_getD] at hs ⊢
    rw [List.getElem?_modify]
    cases hi : h.users[i]? with
    | none => simp [hi] at hs
    | some l =>
      simp only [hi, Option.getD_some] at hs
      by_cases hcell : b.cell = i <;> by_cases hmem : stream ∈ l <;> simp [hcell, hmem, hs]

lemma mem_users_markUsed (hb : b.cell < h.length) :
    stream ∈ (h.markUsed b stream).users.getD b.cell [] := by
  have hl : h.users[b.cell]? = some h[b.cell].usedBy := by
    rw [users, List.getElem?_map, List.getElem?_eq_getElem hb]
    rfl
  rw [users_markUsed, List.getD_eq_getElem?_getD, List.getElem?_modify, hl]
  by_cases hmem : stream ∈ h[b.cell].usedBy <;> simp [hmem]

end Heap

/-- A kernel that changes nothing of the memory but contents. -/
def HostKernel.Tidy (kernel : HostKernel) : Prop :=
  ∀ geometry args, (kernel geometry args).Spares Heap.outline

lemma HostKernel.Tidy.careful {kernel : HostKernel} (h : kernel.Tidy) : kernel.Careful := by
  intro geometry args s o s' hend
  rw [Heap.users_eq_outline, Heap.users_eq_outline, h geometry args s o s' hend]
  exact .refl _

lemma Tensor.looks_ofBuffer [TensorLibrary] {S : Service} (b : Buffer) :
    (Tensor.ofBuffer b : Act S Heap DeviceError Tensor).Looks := by
  refine .bind (.ensure _ _) ?_
  intro _
  refine .bind (Heap.looks_words _) ?_
  intro values
  exact .ofOutcome _

lemma Regroup.tidy_hostKernel (unit : RegroupUnit) : (hostKernel unit).Tidy := by
  intro geometry args
  refine .bind (.ofOutcome _) ?_
  rintro ⟨buffers, scalars⟩
  refine .bind (.ofOutcome _) ?_
  intro size
  refine .bind (.ofOutcome _) ?_
  intro height
  refine .bind (.ofOutcome _) ?_
  intro width
  refine .bind (.ofOutcome _) ?_
  intro chunk
  refine .bind (.ofOutcome _) ?_
  intro column
  refine .bind (.ofOutcome _) ?_
  intro needed
  refine .bind ?_ ?_
  · refine .forEach ?_
    intro b _
    refine .bind (.ofOutcome _) ?_
    intro held
    exact .ensure _ _
  intro _
  rcases buffers with _ | ⟨out, _ | ⟨input, _ | ⟨more, rest⟩⟩⟩
  · exact .ofOutcome (.fault none)
  · exact .ofOutcome (.fault none)
  · refine .bind Heap.looks_bytes.spares ?_
    intro content
    refine .bind Heap.looks_bytes.spares ?_
    intro before
    refine .bind (Heap.spares_setBytes _) ?_
    intro _
    exact .ofOutcome _
  · exact .ofOutcome (.fault none)

lemma Add.tidy_hostKernel [TensorLibrary] (entry : String) : (hostKernel entry).Tidy := by
  intro geometry args
  refine .bind (.ofOutcome _) ?_
  rintro ⟨buffers, scalars⟩
  refine .bind (.ofOutcome _) ?_
  intro n
  refine .bind ?_ ?_
  · refine .forEach ?_
    intro b _
    refine .bind (.ofOutcome _) ?_
    intro held
    exact .ensure _ _
  intro _
  rcases buffers with _ | ⟨x, _ | ⟨y, _ | ⟨out, _ | ⟨more, rest⟩⟩⟩⟩
  · exact .ofOutcome (.fault none)
  · exact .ofOutcome (.fault none)
  · exact .ofOutcome (.fault none)
  · refine .bind (Tensor.looks_ofBuffer x).spares ?_
    intro left
    refine .bind (Tensor.looks_ofBuffer y).spares ?_
    intro right
    refine .bind (.ofOutcome _) ?_
    intro sum
    refine .bind (.ofOutcome _) ?_
    intro content
    exact Heap.spares_setBytes _
  · exact .ofOutcome (.fault none)

lemma RunningLocation.tidy_hostKernel : hostKernel.Tidy := by
  intro geometry args
  refine .bind (.ofOutcome _) ?_
  rintro ⟨buffers, scalars⟩
  refine .bind (.ofOutcome _) ?_
  intro samples
  refine .bind ?_ ?_
  · refine .forEach ?_
    intro b _
    refine .bind (.ofOutcome _) ?_
    intro held
    refine .bind (.ofOutcome _) ?_
    intro cells
    exact .ensure _ _
  intro _
  rcases buffers with _ | ⟨input, _ | ⟨output, _ | ⟨more, rest⟩⟩⟩
  · exact .ofOutcome (.fault none)
  · exact .ofOutcome (.fault none)
  · refine .bind (Heap.looks_words _).spares ?_
    intro mask
    refine .bind (.ofOutcome _) ?_
    intro locations
    exact Heap.spares_setWords _ _
  · exact .ofOutcome (.fault none)

/-- All that the kernels of a new host platform change is contents. -/
lemma Host.tidy_own [TensorLibrary] : ∀ k ∈ Host.ownKernels, k.2.Tidy := by
  intro k hk
  rcases List.mem_append.1 hk with hk | hk
  · rcases List.mem_append.1 hk with hk | hk
    · obtain ⟨unit, -, rfl⟩ := List.mem_map.1 hk
      exact Regroup.tidy_hostKernel unit
    · rw [List.mem_singleton.1 hk]
      exact RunningLocation.tidy_hostKernel
  · obtain ⟨name, -, rfl⟩ := List.mem_map.1 hk
    exact Add.tidy_hostKernel name

/-- The kernels that every host platform starts with are careful. -/
lemma Host.careful_own [TensorLibrary] : ∀ k ∈ Host.ownKernels, k.2.Careful :=
  fun k hk => (Host.tidy_own k hk).careful

end ExpertExchange
