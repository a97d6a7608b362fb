import ExpertExchange.Proofs.Device.Touched

/-!
# The account of a host platform

What decides whether memory is freed too early: the users of all allocations, and the touches of
everything that was enqueued. A call settles its account when every stream that touched a buffer in
it uses the buffer afterwards. The kernels that are registered belong to the account, since a launch
may do to the users whatever a kernel does.
-/

namespace ExpertExchange

variable {S : Service} {ω ε α : Type} {devices : Nat}

/-- The registered kernels, and the streams that use the allocations, by cell. -/
structure Roll where
  kernels : List (String × HostKernel)
  users : List (List Stream)

namespace Roll

def usedBy (r : Roll) (b : Buffer) : List Stream := r.users.getD b.cell []

/-- The kernels stay, and no user is forgotten. -/
def Keeps (r : Roll) (_ : Ending) (r' : Roll) : Prop :=
  r'.kernels = r.kernels ∧ Retains r.users r'.users

lemma keeps_self (r : Roll) (ending : Ending) : r.Keeps ending r := ⟨rfl, .refl _⟩

lemma chains_keeps : Chains Keeps := by
  constructor
  · intro r
    exact keeps_self r .ok
  · rintro r r₁ r₂ ending ⟨hkernels, hretains⟩ ⟨hkernels', hretains'⟩
    exact ⟨hkernels'.trans hkernels, hretains.trans hretains'⟩

end Roll

def Touch.On (stream : Stream) (buffers : List Buffer) (t : Touch) : Prop :=
  t.stream = stream ∧ t.buffer ∈ buffers

/-- The roll of a platform, and the touches noted beside it. -/
abbrev Account := Roll × List Touch

namespace Account

variable {a a' : Account} {ending : Ending} {kind : StreamKind} {A B : Touch → Prop}

/-- The roll stays, and there are some more touches, all with the property. -/
def Touches (A : Touch → Prop) (a : Account) (_ : Ending) (a' : Account) : Prop :=
  a'.1 = a.1 ∧ ∃ new, a'.2 = a.2 ++ new ∧ ∀ t ∈ new, A t

lemma touches_self (A : Touch → Prop) (a : Account) (ending : Ending) : a.Touches A ending a :=
  ⟨rfl, [], (List.append_nil _).symm, nofun⟩

lemma chains_touches (A : Touch → Prop) : Chains (Touches A) := by
  constructor
  · intro a
    exact touches_self A a .ok
  · rintro a a₁ a₂ ending ⟨hroll, new, hnew, hA⟩ ⟨hroll', new', hnew', hA'⟩
    refine ⟨hroll'.trans hroll, new ++ new', ?_, ?_⟩
    · rw [hnew', hnew, List.append_assoc]
    · intro t ht
      rcases List.mem_append.1 ht with ht | ht
      · exact hA t ht
      · exact hA' t ht

/-- The kernels stay, no user is forgotten, and there are some more touches, all on streams of one
kind. Every stream that touched a buffer uses it now, except for touches with the property. -/
structure Settles (kind : StreamKind) (A : Touch → Prop) (a : Account) (ending : Ending)
    (a' : Account) : Prop where
  keeps : a.1.Keeps ending a'.1
  touches : ∃ new, a'.2 = a.2 ++ new ∧
    ∀ t ∈ new, t.stream.kind = kind ∧ (A t ∨ t.stream ∈ a'.1.usedBy t.buffer)

lemma Settles.of_keeps (hkeeps : a.1.Keeps ending a'.1) (htouches : a'.2 = a.2) :
    a.Settles kind A ending a' where
  keeps := hkeeps
  touches := ⟨[], by rw [htouches, List.append_nil], nofun⟩

lemma settles_self (kind : StreamKind) (A : Touch → Prop) (a : Account) (ending : Ending) :
    a.Settles kind A ending a := .of_keeps (a.1.keeps_self ending) rfl

lemma chains_settles (kind : StreamKind) (A : Touch → Prop) : Chains (Settles kind A) := by
  constructor
  · intro a
    exact settles_self kind A a .ok
  · rintro a a₁ a₂ ending ⟨hkeeps, new, hnew, hA⟩ ⟨hkeeps', new', hnew', hA'⟩
    refine ⟨Roll.chains_keeps.trans hkeeps hkeeps', new ++ new', ?_, ?_⟩
    · rw [hnew', hnew, List.append_assoc]
    · intro t ht
      rcases List.mem_append.1 ht with ht | ht
      · obtain ⟨hkind, hsettled⟩ := hA t ht
        exact ⟨hkind, hsettled.imp_right fun h => hkeeps'.2.subset _ h⟩
      · exact hA' t ht

/-- Touches by streams that use the buffers already are settled. -/
lemma Settles.settle (h : a.Settles kind A ending a')
    (hA : ∀ t, A t → B t ∨ t.stream ∈ a.1.usedBy t.buffer) : a.Settles kind B ending a' := by
  obtain ⟨hkeeps, new, hnew, hsettled⟩ := h
  refine ⟨hkeeps, new, hnew, ?_⟩
  intro t ht
  obtain ⟨hkind, hA' | hused⟩ := hsettled t ht
  · exact ⟨hkind, (hA t hA').imp_right fun hused => hkeeps.2.subset _ hused⟩
  · exact ⟨hkind, .inr hused⟩

lemma Touches.settles (h : a.Touches A ending a')
    (hA : ∀ t, A t → t.stream.kind = kind ∧ B t) : a.Settles kind B ending a' := by
  obtain ⟨hroll, new, hnew, hnewA⟩ := h
  refine ⟨?_, new, hnew, ?_⟩
  · rw [hroll]
    exact a.1.keeps_self ending
  · intro t ht
    obtain ⟨hkind, hB⟩ := hA t (hnewA t ht)
    exact ⟨hkind, .inl hB⟩

end Account

namespace HostState

def roll (s : HostState) : Roll := ⟨s.kernels, s.heap.users⟩

lemma contentless_roll : Contentless roll := by
  intro s h heq
  rw [roll, roll, Heap.users_eq_outline h, heq, ← Heap.users_eq_outline]

lemma traceless_roll : Traceless roll := fun _ _ => rfl

end HostState

namespace Host

open HostState

variable {b : Buffer} {stream : Stream}

lemma spares_note (e : TraceEvent) : (note e : Act S HostState ε Unit).Spares roll :=
  .modify fun _ => rfl

lemma spares_onHeap {m : Act S Heap ε α} (hm : m.Spares Heap.outline) :
    (onHeap m : Act S HostState ε α).Spares roll :=
  Act.Changes.part hm fun s _ h heq => contentless_roll s h heq

lemma keeps_onHeap {m : Act S Heap ε α}
    (hm : m.Changes Heap.users fun users _ users' => Retains users users') :
    (onHeap m : Act S HostState ε α).Changes roll Roll.Keeps :=
  .part hm fun _ _ _ h => ⟨rfl, h⟩

lemma recordStream_eq (b : Buffer) (stream : Stream) (s : HostState) :
    (recordStream b stream : Act S HostState DeviceError Unit) s =
      .done (.ok (), HostState.note { s with heap := s.heap.markUsed b stream }
        (.recordStream stream.kind)) := rfl

lemma keeps_recordStream :
    (recordStream b stream : Act S HostState DeviceError Unit).Changes roll Roll.Keeps := by
  intro s
  exact .of_done (recordStream_eq b stream s) ⟨rfl, s.heap.retains_markUsed b stream⟩

lemma keeps_alloc (dtype : Dtype) (shape : List Nat) (owner : Stream) :
    (alloc devices dtype shape owner : Act S HostState DeviceError Buffer).Changes roll
      Roll.Keeps := by
  refine .bind Roll.chains_keeps ((Act.Spares.ensure _ _).changes Roll.keeps_self) ?_
  intro _
  refine keeps_onHeap ?_
  have hchains : Chains fun users (_ : Ending) users' => Retains users users' :=
    ⟨Retains.refl, Retains.trans⟩
  refine .bind hchains ((Act.Spares.ofOutcome _).changes fun users _ => .refl users) ?_
  intro size
  by_cases hsize : Word.allocationBound < size
  · rw [if_pos hsize]
    exact (Act.Spares.ofOutcome (.fault none)).changes fun users _ => .refl users
  · rw [if_neg hsize]
    intro h
    refine .of_done rfl ?_
    change Retains h.users (Heap.users (h ++ [_]))
    rw [Heap.users, Heap.users, List.map_append]
    exact .append _ _

/-- The allocating stream is the first user of an allocation. -/
lemma gives_alloc (dtype : Dtype) (shape : List Nat) (owner : Stream) (s : HostState) :
    (alloc devices dtype shape owner : Act S HostState DeviceError Buffer).Gives s fun b s' =>
      owner ∈ s'.roll.usedBy b := by
  refine .afterAny ?_
  intro _ s₁
  refine .within (.afterAny ?_)
  intro size h
  by_cases hsize : Word.allocationBound < size
  · rw [if_pos hsize]
    exact .of_failed rfl nofun
  · rw [if_neg hsize]
    refine .of_done rfl ?_
    have hlast : Heap.users (h ++ [⟨.host (List.replicate size 0), [owner], 1⟩]) =
        Heap.users h ++ [[owner]] := List.map_append
    change owner ∈ (Heap.users (h ++ [_])).getD h.length []
    rw [hlast, List.getD_eq_getElem?_getD, List.getElem?_append_right (by simp [Heap.users])]
    simp [Heap.users]

lemma gives_registered (s : HostState) (hb : b.cell < s.heap.length) :
    (recordStream b stream : Act S HostState DeviceError Unit).Gives s fun _ s' =>
      stream ∈ s'.roll.usedBy b :=
  .of_done (recordStream_eq b stream s) (Heap.mem_users_markUsed hb)

lemma spares_load {watch : HostState → ω} (ht : Traceless watch) (device : Nat) (image : Image)
    (entry : String) :
    (load devices device image entry : Act S HostState DeviceError HostFunction).Spares watch := by
  refine .bind (.ensure _ _) ?_
  intro _
  cases image with
  | host exported =>
    refine .bind (.ensure _ _) ?_
    intro _
    refine .bind (.view _) ?_
    intro s
    cases s.kernel? entry with
    | none => exact .fail _
    | some kernel =>
      refine .bind (.modify fun s => ht s _) ?_
      intro _
      exact .pure _
  | ptx text => exact .fail _
  | binary content => exact .fail _

/-- What is loaded is a registered kernel. -/
lemma gives_load {Q : HostKernel → Prop} (device : Nat) (image : Image) (entry : String)
    (s : HostState) (h : ∀ k ∈ s.kernels, Q k.2) :
    (load devices device image entry : Act S HostState DeviceError HostFunction).Gives s
      fun f _ => Q f.kernel := by
  refine (Act.Gives.ensure _ _).bind ?_
  rintro _ _ ⟨-, rfl⟩
  cases image with
  | host exported =>
    refine (Act.Gives.ensure _ _).bind ?_
    rintro _ _ ⟨-, rfl⟩
    have hget : (Act.get : Act S HostState DeviceError HostState).Gives s fun s' _ => s' = s :=
      .of_done rfl rfl
    refine hget.bind ?_
    rintro _ s₁ rfl
    cases hkernel : HostState.kernel? _ entry with
    | none => exact .of_failed rfl nofun
    | some kernel =>
      obtain ⟨k, hfound, rfl⟩ := Option.map_eq_some_iff.1 hkernel
      exact .of_done rfl (h k (List.mem_of_find?_eq_some hfound))
  | ptx text => exact .of_failed rfl nofun
  | binary content => exact .of_failed rfl nofun

lemma keeps_launch {f : HostFunction} (hf : f.kernel.Careful) (geometry : Geometry)
    (args : List Argument) :
    (launch f geometry args stream : Act S HostState DeviceError Unit).Changes roll
      Roll.Keeps := by
  refine .bind Roll.chains_keeps ((spares_checkArguments args).changes Roll.keeps_self) ?_
  intro _
  refine .bind Roll.chains_keeps ((spares_note _).changes Roll.keeps_self) ?_
  intro _
  exact keeps_onHeap (hf geometry args).embed

abbrev Noted := HostState × List Touch

def account (s : Noted) : Account := (s.1.roll, s.2)

variable {kind : StreamKind} {A : Touch → Prop}

lemma spares_account {m : Act S HostState ε α} (hm : m.Spares roll) :
    (m.within Part.first : Act S Noted ε α).Spares account :=
  Act.Changes.part hm fun s _ _ h => congrArg (·, s.2) h

lemma settles_within {m : Act S HostState ε α} (hm : m.Changes roll Roll.Keeps) :
    (m.within Part.first : Act S Noted ε α).Changes account (Account.Settles kind A) :=
  .part hm fun _ _ _ h => .of_keeps h rfl

lemma touches_noteTouches {touches : List Touch} (hA : ∀ t ∈ touches, A t) :
    (noteTouches touches : Act S Noted ε Unit).Changes account (Account.Touches A) := by
  intro s
  exact .of_done rfl ⟨rfl, touches, rfl, hA⟩

/-- A launch of a careful kernel touches its buffers on its stream. -/
lemma settles_launch {f : HostFunction} (hf : f.kernel.Careful) (geometry : Geometry)
    (buffers : List Buffer) (scalars : List Scalar) (hkind : stream.kind = kind)
    (hA : ∀ b ∈ buffers, A ⟨b, stream⟩) :
    ((Host.platform devices).noted.launch f geometry (Argument.list buffers scalars) stream :
      Act S Noted DeviceError Unit).Changes account (Account.Settles kind A) := by
  have hnoted : (noteTouches (Touch.ofArguments (Argument.list buffers scalars) stream) :
      Act S Noted DeviceError Unit).Changes account
        (Account.Touches fun t => t.stream.kind = kind ∧ A t) := by
    rw [Touch.ofArguments_list]
    refine touches_noteTouches ?_
    intro t ht
    obtain ⟨b, hb, rfl⟩ := List.mem_map.1 ht
    exact ⟨hkind, hA b hb⟩
  refine .bind (Account.chains_settles kind A) ?_ ?_
  · intro s
    refine (hnoted s).mono ?_
    intro o s' h
    exact h.settles fun _ ht => ht
  · intro _
    exact settles_within (keeps_launch hf geometry _)

lemma looks_stream (device : Nat) (kind : StreamKind) :
    ((Host.platform devices).noted.stream device kind : Act S Noted DeviceError Stream).Looks := by
  refine .within (.bind (.ensure _ _) ?_) fun _ => rfl
  intro _
  exact .pure _

lemma gives_kind (device : Nat) (kind : StreamKind) (s : Noted) :
    ((Host.platform devices).noted.stream device kind : Act S Noted DeviceError Stream).Gives s
      fun str _ => str.kind = kind := by
  refine .within ((Act.Gives.ensure _ _).bind ?_)
  rintro _ _ ⟨-, rfl⟩
  exact .of_done rfl rfl

/-- Kernels are careful, and calls settle their accounts except for some touches. -/
def settling (kind : StreamKind) (A : Touch → Prop) : Regime Noted HostFunction Account where
  watch := account
  Allows := Account.Settles kind A
  InOrder a := ∀ k ∈ a.1.kernels, k.2.Careful
  Sound f := f.kernel.Careful

lemma settling_governs (devices : Nat) (kind : StreamKind) (A : Touch → Prop) :
    (settling kind A).Governs ((Host.platform devices).noted : Platform S _ _ HostEvent) where
  chains := Account.chains_settles kind A
  self := Account.settles_self kind A
  inOrder h hcareful := by
    intro k hk
    rw [h.keeps.1] at hk
    exact hcareful k hk
  arch device := spares_account (.bind (.ensure _ _) fun _ => .pure _)
  stream device kind := (looks_stream device kind).spares
  record _ _ _ := rfl
  load device image entry bound s := by
    intro o s' hend
    have hspared := spares_account (spares_load traceless_roll device image entry) s o s' hend
    refine ⟨?_, ?_⟩
    · change Account.Settles kind A (account s) _ (account s')
      rw [hspared]
      exact Account.settles_self _ _ _ _
    · rintro hcareful f rfl
      have hgives : ((Host.platform devices).noted.load device image entry bound :
          Act S Noted DeviceError HostFunction).Gives s fun f _ => f.kernel.Careful :=
        .within (gives_load device image entry s.1 hcareful)
      exact hgives f s' hend

/-- What is watched of a host platform and an invoker: the account, the compilers, the cache. -/
abbrev Workshop := Workbench Net Noted HostFunction Account

def workshopOf (q : Noted × Invoker Net Noted HostFunction) : Workshop :=
  ⟨account q.1, q.2.compilers, q.2.cache⟩

/-- The call leaves its account settled except for touches with the property. -/
abbrev Settling (kind : StreamKind) (A : Touch → Prop) : Workshop → Ending → Workshop → Prop :=
  (settling kind A).Works

variable {w w' : Workshop} {ending : Ending} {B : Touch → Prop}

lemma chains_settling : Chains (Settling kind A) :=
  (settling_governs 1 kind A).chains_works

lemma settling_self (w : Workshop) (ending : Ending) : Settling kind A w ending w :=
  (settling_governs 1 kind A).works_self w ending

/-- A step that changes neither compilers nor cache. -/
lemma Settling.of_account (hcompilers : w'.compilers = w.compilers) (hcache : w'.cache = w.cache)
    (h : w.watched.Settles kind A ending w'.watched) : Settling kind A w ending w' :=
  (settling_governs 1 kind A).works_of_watched hcompilers hcache h

/-- Touches by streams that use the buffers already are settled. -/
lemma Settling.settle (h : Settling kind A w ending w')
    (hA : ∀ t, A t → B t ∨ t.stream ∈ w.watched.1.usedBy t.buffer) :
    Settling kind B w ending w' := by
  obtain ⟨hkept, hgoes⟩ := h
  refine ⟨hkept, ?_⟩
  intro hready
  obtain ⟨hready', hsettles⟩ := hgoes ⟨hready.leaves, hready.inOrder, hready.sound⟩
  exact ⟨⟨hready'.leaves, hready'.inOrder, hready'.sound⟩, hsettles.settle hA⟩

lemma settling_within {m : Act Net Noted ε α} (hm : m.Changes account (Account.Settles kind A)) :
    (m.within Part.first).Changes workshopOf (Settling kind A) :=
  .part hm fun _ _ _ h => .of_account rfl rfl h

/-- A launch touches its buffers on its stream. -/
lemma settling_invokeOn {handle : KernelHandle} {buffers : List Buffer} {scalars : List Scalar}
    {geometry : GeometryOverride} (hkind : stream.kind = kind)
    (hA : ∀ b ∈ buffers, A ⟨b, stream⟩) :
    (Invoker.invokeOn (Host.platform devices).noted stream handle buffers scalars
      geometry).Changes workshopOf (Settling kind A) :=
  (settling_governs devices kind A).works_invokeOn handle geometry
    fun _ _ hf => settles_launch hf _ _ _ hkind hA

/-- A launch on the compute stream of a device. -/
lemma settling_invoke (handle : KernelHandle) (device : Nat) (buffers : List Buffer)
    (scalars : List Scalar) (geometry : GeometryOverride) :
    (Invoker.invoke (Host.platform devices).noted handle device buffers scalars geometry).Changes
      workshopOf (Settling .compute (·.buffer ∈ buffers)) :=
  (settling_governs devices .compute _).works_invoke handle device geometry
    (gives_kind device .compute) fun _ _ _ hf hkind => settles_launch hf _ _ _ hkind fun _ hb => hb

end Host

end ExpertExchange
