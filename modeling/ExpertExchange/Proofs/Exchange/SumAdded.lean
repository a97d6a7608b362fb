import ExpertExchange.Exchange.Context
import ExpertExchange.Proofs.Group.Unsummable
import ExpertExchange.Proofs.Operator.Added
import Mathlib.Tactic.IntervalCases

/-!
# Sums of a process and of its group

When all processes of a shared group sum their buffers, every buffer ends with the same bytes, the
left fold of the contributions in rank order, however two elements are added. A process that also
adds the sum to an operand of its own gets the result in a fresh buffer.
-/

namespace ExpertExchange

/-- The context of a process on the host platform in simulated groups. -/
abbrev HostContext := Context Net HostState HostFunction HostEvent SimulatedLink

namespace Context

open SimulatedLink Communicator

variable {plus : Addition} {devices W r n : Nat} {g : Bytes} {t : Dtype}
  {shape : List Nat} {s : HostState × HostContext} {comm : Communicator SimulatedLink}
  {x b : Buffer} {a c : Bytes} {rounds : List Round}

lemma runs_onShared {α : Type}
    {m : Act Net (HostState × Communicator SimulatedLink) ExchangeError α}
    {Q : α → HostState × HostContext → Prop} (hcomm : s.2.shared = some comm)
    (h : m.Runs g r (s.1, comm) rounds fun v q => Q v (q.1, { s.2 with shared := some q.2 })) :
    (onShared m : ContextAct Net _ _ _ _ α).Runs g r s rounds Q := by
  obtain ⟨v, q, hfollows, hq⟩ := h
  refine ⟨v, _, ?_, hq⟩
  rw [onShared, hcomm]
  exact hfollows.map rfl

/-- A process with rank `r` in the shared group `g`, and its buffer of this type and shape with
these bytes. -/
structure Summand (devices : Nat) (g : Bytes) (W r : Nat) (t : Dtype) (shape : List Nat)
    (s : HostState × HostContext) (b : Buffer) (c : Bytes) : Prop where
  joined : ∃ comm, s.2.shared = some comm ∧ Member devices g W r (s.1, comm) ∧
    b.device = comm.link.device
  dtype : b.dtype = t
  shape_eq : b.shape = shape
  holds : s.1.heap.Holds b c

def summed (s : HostState × HostContext) (b : Buffer) (sum : Bytes) : HostState × HostContext :=
  ({ s.1 with heap := s.1.heap.write b sum, trace := s.1.trace ++ [.allReduce] }, s.2)

/-- Element `j` of a buffer with these bytes. -/
def element (t : Dtype) (c : Bytes) (j : Nat) : Nat := (Bytes.decodeWords t.size c).getD j 0

/-- The bytes of a buffer of `n` elements, and its elements. -/
lemma length_words {heap : Heap} (hb : heap.Holds b c) (hdtype : b.dtype = t)
    (hshape : b.shape = shape) (ht : t.hasTensor = true) (hn : Word.product? shape = some n) :
    c.length = n * t.size ∧ (Bytes.decodeWords t.size c).length = n := by
  have hlength : c.length = n * t.size := by
    have hsize := hb.size
    rw [hdtype, hshape, Buffer.sizeOf?, hn, Option.bind_some] at hsize
    exact (Word.mul?_eq_some hsize).1
  constructor
  · exact hlength
  · rw [Bytes.length_decodeWords, hlength, Nat.mul_div_cancel _ (Dtype.size_pos ht)]

variable {ss : Nat → HostState × HostContext} {bs xs : Nat → Buffer} {ds as : Nat → Bytes}
  {total : Nat → Nat}

/-- The sum that all ranks of a group end with. -/
def groupSum (t : Dtype) (n : Nat) (total : Nat → Nat) : Bytes :=
  Bytes.encodeWords t.size ((List.range n).map total)

section

variable [TensorLibrary]

lemma runs_allReduce (laws : TensorLaws plus) (patience : Nat) (hr : r < W)
    (ht : t.hasTensor = true) (hstrided : Strided shape) (hn : Word.product? shape = some n)
    (h : ∀ r < W, Summand devices g W r t shape (ss r) (bs r) (ds r))
    (hsum : ∀ j < n, Number.foldAll? plus t ((List.range W).map fun p => element t (ds p) j) =
      some (total j)) :
    (allReduce (Host.platform devices) (backend patience) (bs r)).Runs g r (ss r)
      [Round.among W (sumTable ds) r] fun _ s' =>
        s' = summed (ss r) (bs r) (groupSum t n total) ∧
          s'.1.heap.Holds (bs r) (groupSum t n total) := by
  have hW : 0 < W := Nat.lt_of_le_of_lt (Nat.zero_le r) hr
  have hown := h r hr
  obtain ⟨comm, hcomm, hmember, hdevice⟩ := hown.joined
  have hdtype := hown.dtype
  have hsize : ∀ p < W, Buffer.sizeOf? (bs r).dtype (bs r).shape = some (ds p).length := by
    intro p hp
    rw [hdtype, hown.shape_eq, ← (h p hp).dtype, ← (h p hp).shape_eq]
    exact (h p hp).holds.size
  have hsums : Number.sumAll? plus (bs r).dtype
      (fun p => Bytes.decodeWords (bs r).dtype.size (ds p)) (List.range' 1 (W - 1))
      (Bytes.decodeWords (bs r).dtype.size (ds 0)) = some ((List.range n).map total) := by
    rw [hdtype]
    refine Number.sumAll?_ranks hW (fun p hp => ?_) hsum
    exact (length_words (h p hp).holds (h p hp).dtype (h p hp).shape_eq ht hn).2
  have hlength := length_sum (s := ((ss r).1, comm.link)) hr hown.holds hsize hsums
  refine runs_onShared hcomm ?_
  refine (Communicator.runs_allReduce laws hmember hr hdevice (hdtype ▸ ht)
    (hown.shape_eq ▸ hstrided) hown.holds hsize hsums).mono ?_
  rintro _ _ rfl
  rw [hdtype] at hlength ⊢
  constructor
  · have hback : { (ss r).2 with shared := some comm } = (ss r).2 := by rw [← hcomm]
    rw [summed, ← hback]
    rfl
  · exact hown.holds.written hlength

/-- An operand that matches a buffer, and a context with the kernels to add them. -/
structure Addend (s : HostState × HostContext) (b x : Buffer) (a : Bytes) :
    Prop where
  dtype : x.dtype = b.dtype
  shape_eq : x.shape = b.shape
  device : x.device = b.device
  holds : s.1.heap.Holds x a
  kernels : s.2.add.Provided x.device (s.1, s.2.invoker)

/-- What an operand holds after the sum: the sum, if it is the summed buffer itself. -/
def addend (x b : Buffer) (a sum : Bytes) : Bytes := if x.cell = b.cell then sum else a

lemma Addend.holds_summed {sum : Bytes} (h : Addend s b x a) (hb : s.1.heap.Holds b c)
    (hsum : (summed s b sum).1.heap.Holds b sum) :
    (summed s b sum).1.heap.Holds x (addend x b a sum) := by
  unfold addend
  by_cases hcell : x.cell = b.cell
  · rw [if_pos hcell]
    exact h.holds.of_sameCell hb hcell hsum
  · rw [if_neg hcell]
    exact (Heap.keeps_write _ _ _).holds _ _ hcell h.holds

lemma Addend.kernels_summed {sum : Bytes} (h : Addend s b x a) :
    s.2.add.Provided x.device ((summed s b sum).1, s.2.invoker) := by
  refine h.kernels.still ?_
  intro handle device entry kernel hp
  exact ⟨hp.compiler, hp.device_lt, hp.registered, hp.slot⟩

lemma runs_allReduceAdd (laws : TensorLaws plus) (patience : Nat) {z : Nat → Nat} (hr : r < W)
    (ht : t ∈ Add.variants) (hstrided : Strided shape) (hn : Word.product? shape = some n)
    (h : ∀ r < W, Summand devices g W r t shape (ss r) (bs r) (ds r))
    (hsum : ∀ j < n, Number.foldAll? plus t ((List.range W).map fun p => element t (ds p) j) =
      some (total j))
    (hx : Addend (ss r) (bs r) x a)
    (hadd : ∀ j < n, plus t (element t (addend x (bs r) a (groupSum t n total)) j)
      (element t (groupSum t n total) j) = some (z j)) :
    (allReduceAdd (Host.platform devices) (backend patience) x (bs r)).Runs g r (ss r)
      [Round.among W (sumTable ds) r] fun out s' =>
        (ss r).1.heap.length ≤ out.cell ∧
          s'.1.heap.Holds out (Bytes.encodeWords t.size ((List.range n).map z)) ∧
          s'.1.heap.Holds (bs r) (groupSum t n total) := by
  have htensor := AddKernels.hasTensor_of_variant ht
  have hown := h r hr
  have hdtype : x.dtype = t := hx.dtype.trans hown.dtype
  obtain ⟨comm, -, hmember, hdevice⟩ := hown.joined
  refine (runs_allReduce laws patience hr htensor hstrided hn h hsum).before ?_
  rintro _ s' ⟨rfl, hheld⟩
  have haddend := hx.holds_summed hown.holds hheld
  have hleft := (length_words haddend hdtype (hx.shape_eq.trans hown.shape_eq) htensor hn).2
  have hright := (length_words hheld hown.dtype hown.shape_eq htensor hn).2
  have hsums : Number.addAll? plus x.dtype
      (Bytes.decodeWords x.dtype.size (addend x (bs r) a (groupSum t n total)))
      (Bytes.decodeWords x.dtype.size (groupSum t n total)) = some ((List.range n).map z) := by
    rw [hdtype]
    apply Number.addAll?_eq
    · exact hright.trans hleft.symm
    · simp [hleft]
    · intro j hj
      rw [hleft] at hj
      rw [Number.getD_map_range hj]
      exact hadd j hj
  have hdevices : x.device < devices := by
    rw [hx.device, hdevice]
    exact hmember.device_lt
  have hcount : Word.product? x.shape = some n := by rw [hx.shape_eq, hown.shape_eq, hn]
  refine .step rfl (.within (.mapError ?_))
  refine (AddKernels.runs_add laws hx.kernels_summed hdevices (hdtype ▸ ht) hx.dtype.symm
    hx.shape_eq.symm hx.device.symm haddend hheld hcount hsums).mono ?_
  rintro out p' ⟨rfl, hresult, hkeeps⟩
  have hsize : x.dtype.size = t.size := congrArg Dtype.size hdtype
  rw [hsize] at hresult
  refine ⟨?_, hresult, hkeeps.holds _ _ id hheld⟩
  simp [summed, Heap.write]

/-- A context is created on a host platform with the library's kernels, and can add. -/
theorem exists_created (patience : Nat) (settings : Settings) (device : Nat) (heap : Heap)
    (hd : device < devices) :
    ∃ (ctx : HostContext) (state : HostState),
      create (Host.platform devices) (backend patience) [.host] settings
        ⟨heap, Host.ownKernels, [], []⟩ = .done (.ok ctx, state) ∧ state.heap = heap ∧
      ctx.add.Provided device (state, ctx.invoker) := by
  let p : HostKernels :=
    (⟨heap, Host.ownKernels, [], []⟩, Invoker.create devices [.host] settings)
  have hp : Invoker.OnHost devices p := ⟨rfl, List.length_replicate, rfl⟩
  have hadd := AddKernels.runs_install (g := []) (r := 0) hp hd
    (AddKernels.onPlatform_own heap [] [] p.2)
  obtain ⟨kernels, p₁, hinstalled, hgrown, hprovided⟩ := Act.runs_nil_iff.1 hadd
  obtain ⟨source, hparse, hentry⟩ := RunningLocation.parse_source
  have hregistered : p₁.1.kernel? source.entry = some RunningLocation.hostKernel := by
    rw [hgrown.kernel?, hentry]
    rfl
  have hrunning := Invoker.runs_inject (g := []) (r := 0) (hgrown.onHost hp) hd hparse hregistered
  obtain ⟨handle, p₂, hinjected, hgrown₂, -⟩ := Act.runs_nil_iff.1 hrunning
  refine ⟨⟨settings, p₂.2, kernels, ⟨handle⟩, none, none⟩, p₂.1.report ⟨.debug, .context,
    "exchange context created", [("platform", .text "host"), ("backend", .text "sim"),
      ("devices", .number devices)]⟩, ?_, hgrown₂.heap.trans hgrown.heap, ?_⟩
  · have hfirst : ((AddKernels.install (Host.platform devices)).mapError ExchangeError.kernel) p =
        .done (.ok kernels, p₁) := by
      rw [Act.mapError, hinstalled]
      rfl
    have hsecond : ((RunningLocationKernel.install (Host.platform devices)).mapError
        ExchangeError.kernel) p₁ = .done (.ok ⟨handle⟩, p₂) := by
      rw [Act.mapError, RunningLocationKernel.install, Act.bind_done hinjected]
      rfl
    change Program.bind (Act.bind _ _ p) _ = _
    rw [Act.bind_done hfirst]
    change Program.bind (Act.bind _ _ p₁) _ = _
    rw [Act.bind_done hsecond]
    rfl
  · refine (hprovided.still hgrown₂.provides).still ?_
    intro handle device entry kernel hp
    exact ⟨hp.compiler, hp.device_lt, hp.registered, hp.slot⟩

/-- A rank that sums buffers of a shape without tensors posts its bytes, of which there are none,
takes those of rank 0, and faults. -/
lemma follows_allReduce_strideless (laws : TensorLaws plus) (patience : Nat) (hr : r < W)
    (ht : t.hasTensor = true) (hstrided : ¬ Strided shape)
    (h : Summand devices g W r t shape s b c) :
    Program.Follows g r (allReduce (Host.platform devices) (backend patience) b s)
      ((others W r).map (fun p => .post p []) ++ firstMoves r [])
      (.fault none, (s.1.note .allReduce, s.2)) := by
  obtain ⟨comm, hcomm, hmember, hdevice⟩ := h.joined
  obtain ⟨n, hn, -⟩ := Option.bind_eq_some_iff.1 h.holds.size
  rw [h.shape_eq] at hn
  have hzero := eq_zero_of_not_strided hn hstrided
  obtain rfl : c = [] := by
    apply List.eq_nil_of_length_eq_zero
    rw [(length_words h.holds h.dtype h.shape_eq ht hn).1, hzero, Nat.zero_mul]
  have hread : ∀ d : Bytes, d.length = ([] : Bytes).length →
      Tensor.ofBytes b.dtype b.shape d = .fault none := by
    intro d hd
    refine laws.ofBytes_unstrided (h.dtype ▸ ht) ?_ (h.shape_eq ▸ hstrided)
    rw [hd, h.holds.size]
  have hback : ({ s.2 with shared := some comm } : HostContext) = s.2 := by rw [← hcomm]
  change Program.Follows g r (onShared _ s) _ _
  rw [onShared, hcomm]
  refine (follows_allReduce_unread hmember hr hdevice hread nofun h.holds rfl).map ?_
  rw [hback]
  rfl

/-- A sum over the shared group, with any addition of elements and any tensor library that keeps the
laws. For a shape that there are tensors of, in every interleaving every rank ends with the same
bytes, the left fold of the contributions in rank order for each element, as long as none of these
folds is a fault; no message is left over, and no other buffer is changed. When every rank adds an
operand of its own, of the same shape and of a type that has a kernel, every rank gets its operand
plus that sum in a fresh buffer. For any other shape there is nothing to sum, and every rank faults
when it has posted its bytes and read those of rank 0. -/
theorem allReduce_settles (laws : TensorLaws plus) (patience : Nat) (hW : 0 < W)
    (ht : t.hasTensor = true) (hn : Word.product? shape = some n)
    (h : ∀ r < W, Summand devices g W r t shape (ss r) (bs r) (ds r))
    (hsum : ∀ j < n, Number.foldAll? plus t ((List.range W).map fun p => element t (ds p) j) =
      some (total j)) {N : Network} (hformed : N.Formed g) (hquiet : N.Quiet g) :
    (Strided shape →
      (Crowd.starting W (fun r => allReduce (Host.platform devices) (backend patience) (bs r))
        ss N).Settles fun vs N' => N'.Quiet g ∧ ∃ ss' : Nat → HostState × HostContext,
          vs = (List.range W).map (fun r => (.ok (), ss' r)) ∧ ∀ r < W,
            (ss' r).1.heap.Holds (bs r) (groupSum t n total) ∧
              Heap.Keeps (· = (bs r).cell) (ss r).1.heap (ss' r).1.heap) ∧
    (Strided shape → ∀ (xs : Nat → Buffer) (as : Nat → Bytes) (z : Nat → Nat → Nat),
      t ∈ Add.variants → (∀ r < W, Addend (ss r) (bs r) (xs r) (as r)) →
      (∀ r < W, ∀ j < n, plus t
        (element t (addend (xs r) (bs r) (as r) (groupSum t n total)) j)
        (element t (groupSum t n total) j) = some (z r j)) →
      (Crowd.starting W (fun r => allReduceAdd (Host.platform devices) (backend patience)
        (xs r) (bs r)) ss N).Settles fun vs N' => N'.Quiet g ∧
          ∃ (outs : Nat → Buffer) (ss' : Nat → HostState × HostContext),
            vs = (List.range W).map (fun r => (.ok (outs r), ss' r)) ∧ ∀ r < W,
              (ss r).1.heap.length ≤ (outs r).cell ∧
                (ss' r).1.heap.Holds (outs r)
                  (Bytes.encodeWords t.size ((List.range n).map (z r))) ∧
                (ss' r).1.heap.Holds (bs r) (groupSum t n total)) ∧
    (¬ Strided shape → n = 0 ∧ ∀ r < W,
      Program.Follows g r (allReduce (Host.platform devices) (backend patience) (bs r) (ss r))
        ((others W r).map (fun p => .post p []) ++ if r = 0 then [] else [.take 0 []])
        (.fault none, ((ss r).1.note .allReduce, (ss r).2)) ∧
      ∀ x, Program.Follows g r (allReduceAdd (Host.platform devices) (backend patience) x (bs r)
          (ss r))
        ((others W r).map (fun p => .post p []) ++ if r = 0 then [] else [.take 0 []])
        (.fault none, ((ss r).1.note .allReduce, (ss r).2))) := by
  refine ⟨?_, ?_, ?_⟩
  · intro hstrided
    have hruns : ∀ r < W, (allReduce (Host.platform devices) (backend patience)
        (bs r)).Runs g r (ss r) ([sumTable ds].map fun out => Round.among W out r) _ :=
      fun r hr => runs_allReduce laws patience hr ht hstrided hn h hsum
    obtain ⟨_, ss', hends, hsettles⟩ := (Lockstep.of_tables hW _ hruns).settles hformed hquiet
    refine hsettles.mono ?_
    rintro vs N' ⟨hvs, -, hquiet'⟩
    refine ⟨hquiet', ss', hvs, ?_⟩
    intro r hr
    obtain ⟨hsummed, hheld⟩ := hends r hr
    refine ⟨hheld, ?_⟩
    rw [hsummed]
    exact Heap.keeps_write _ _ _
  · intro hstrided xs as z hvariant hx hadd
    have hruns : ∀ r < W, (allReduceAdd (Host.platform devices) (backend patience) (xs r)
        (bs r)).Runs g r (ss r) ([sumTable ds].map fun out => Round.among W out r) _ :=
      fun r hr => runs_allReduceAdd laws patience hr hvariant hstrided hn h hsum (hx r hr)
        (hadd r hr)
    obtain ⟨outs, ss', hends, hsettles⟩ := (Lockstep.of_tables hW _ hruns).settles hformed hquiet
    refine hsettles.mono ?_
    rintro vs N' ⟨hvs, -, hquiet'⟩
    exact ⟨hquiet', outs, ss', hvs, hends⟩
  · intro hstrided
    constructor
    · exact eq_zero_of_not_strided hn hstrided
    · intro r hr
      have hfault := follows_allReduce_strideless laws patience hr ht hstrided (h r hr)
      exact ⟨hfault, fun x => hfault.map rfl⟩

end

open StandIn

/-- What rank `r` of two puts into the sum, and what it adds to it. -/
def twoNumbers (r : Nat) : Heap :=
  [⟨.host (if r = 0 then [7, 0, 0, 0] else [5, 0, 0, 0]), [], 1⟩,
    ⟨.host (if r = 0 then [100, 0, 0, 0] else [200, 0, 0, 0]), [], 1⟩]

def JoinsTwo (r : Nat) (s : HostState × HostContext) : Prop :=
  ∃ (ctx : HostContext) (state : HostState),
    create (Host.platform 1) (backend 0) [.host] .none ⟨twoNumbers r, Host.ownKernels, [], []⟩ =
      .done (.ok ctx, state) ∧
    s = (state, { ctx with shared := some ⟨⟨[], 2, r, 0, 0, 0, []⟩, ⟨2, r, 1, 0⟩⟩ })

lemma exists_joinsTwo (r : Nat) : ∃ s, JoinsTwo r s ∧
    Summand 1 [] 2 r .u32 [1] s ⟨.u32, [1], 0, 0⟩
      (if r = 0 then [7, 0, 0, 0] else [5, 0, 0, 0]) ∧
    Addend s ⟨.u32, [1], 0, 0⟩ ⟨.u32, [1], 0, 1⟩
      (if r = 0 then [100, 0, 0, 0] else [200, 0, 0, 0]) := by
  obtain ⟨ctx, state, hcreated, hheap, hprovided⟩ :=
    exists_created 0 .none 0 (twoNumbers r) Nat.zero_lt_one
  refine ⟨_, ⟨ctx, state, hcreated, rfl⟩, ?_, ?_⟩
  · constructor
    · exact ⟨_, rfl, ⟨⟨rfl, rfl, rfl, rfl, rfl⟩, Nat.zero_lt_one, rfl, rfl⟩, rfl⟩
    · rfl
    · rfl
    · rw [hheap]
      exact ⟨⟨[], 1, rfl⟩, by split <;> rfl, by split <;> decide⟩
  · constructor
    · rfl
    · rfl
    · rfl
    · rw [hheap]
      exact ⟨⟨[], 1, rfl⟩, by split <;> rfl, by split <;> decide⟩
    · exact hprovided

theorem allReduce_settles_two_ranks :
    ∃ ss : Nat → HostState × HostContext, (∀ r < 2, JoinsTwo r (ss r)) ∧
      ((Crowd.starting 2 (fun _ => allReduce (Host.platform 1) (backend 0) ⟨.u32, [1], 0, 0⟩)
        ss (.assembled [] 2)).Settles fun vs N' => N'.Quiet [] ∧
          ∃ ss' : Nat → HostState × HostContext,
            vs = (List.range 2).map (fun r => (.ok (), ss' r)) ∧ ∀ r < 2,
              (ss' r).1.heap.Holds ⟨.u32, [1], 0, 0⟩ [12, 0, 0, 0]) ∧
      (Crowd.starting 2 (fun _ => allReduceAdd (Host.platform 1) (backend 0) ⟨.u32, [1], 0, 1⟩
        ⟨.u32, [1], 0, 0⟩) ss (.assembled [] 2)).Settles fun vs N' => N'.Quiet [] ∧
          ∃ (outs : Nat → Buffer) (ss' : Nat → HostState × HostContext),
            vs = (List.range 2).map (fun r => (.ok (outs r), ss' r)) ∧
              (ss' 0).1.heap.Holds (outs 0) [112, 0, 0, 0] ∧
              (ss' 1).1.heap.Holds (outs 1) [212, 0, 0, 0] := by
  choose ss hjoins hsummand haddend using exists_joinsTwo
  refine ⟨ss, fun r _ => hjoins r, ?_⟩
  have hsum : ∀ j < 1, Number.foldAll? Number.add? .u32 ((List.range 2).map fun p =>
      element .u32 (if p = 0 then [7, 0, 0, 0] else [5, 0, 0, 0]) j) = some 12 := by decide
  obtain ⟨hreduced, hadded, -⟩ := allReduce_settles (RowMajor.laws _) 0 (by decide) (by decide)
    (by decide) (fun r (_ : r < 2) => hsummand r) hsum
    (Network.formed_assembled [] 2) (Network.quiet_assembled [] 2)
  constructor
  · refine (hreduced rfl).mono ?_
    rintro vs N' ⟨hquiet, ss', hvs, hends⟩
    exact ⟨hquiet, ss', hvs, fun r hr => (hends r hr).1⟩
  · have hresult := hadded rfl (fun _ => ⟨.u32, [1], 0, 1⟩)
      (fun r => if r = 0 then [100, 0, 0, 0] else [200, 0, 0, 0])
      (fun r _ => if r = 0 then 112 else 212) (by decide) (fun r _ => haddend r) (by decide)
    refine hresult.mono ?_
    rintro vs N' ⟨hquiet, outs, ss', hvs, hends⟩
    exact ⟨hquiet, outs, ss', hvs, (hends 0 (by decide)).2.1, (hends 1 (by decide)).2.1⟩

/-- The only rank of a group, with a buffer of no numbers. -/
def holdsNothing (trace : Trace) : HostState × HostContext :=
  (⟨[⟨.host [], [], 1⟩], [], trace, []⟩,
    { settings := .none
      invoker := .create 1 [] .none
      add := ⟨[]⟩
      runningLocation := ⟨⟨0⟩⟩
      global := none
      shared := some ⟨⟨[], 1, 0, 0, 0, 0, []⟩, ⟨1, 0, 1, 0⟩⟩ })

/-- A sum of nothing faults where the last extents of the shape multiply to more than a word. -/
theorem allReduce_faults_on_nothing :
    let b : Buffer := ⟨.f32, [0, Word.bound32, Word.bound32], 0, 0⟩
    Summand 1 [] 1 0 .f32 b.shape (holdsNothing []) b [] ∧ Word.product? b.shape = some 0 ∧
      allReduce (Host.platform 1) (backend 0) b (holdsNothing []) =
        .done (.fault none, holdsNothing [.allReduce]) := by
  intro b
  refine ⟨?_, rfl, rfl⟩
  constructor
  · exact ⟨_, rfl, ⟨⟨rfl, rfl, rfl, rfl, rfl⟩, Nat.zero_lt_one, rfl, rfl⟩, rfl⟩
  · rfl
  · rfl
  · exact ⟨⟨[], 1, rfl⟩, rfl, by decide⟩

end Context

end ExpertExchange
