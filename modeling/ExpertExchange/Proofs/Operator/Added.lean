import ExpertExchange.Host.Kernels
import ExpertExchange.Proofs.Device.Lawful
import ExpertExchange.Proofs.Exchange.Joined

/-!
# Elementwise sums on the host platform

A kernel of the library reads both operands as tensors and fills the output with their sum. On a
host platform with these kernels their registration succeeds, and a call for operands of one shape
and of a type with a kernel returns a fresh buffer with the sum. The addition of two elements is the
one of the tensor library, and may be any.
-/

namespace ExpertExchange

namespace Add

variable [TensorLibrary] {plus : Addition} {heap : Heap} {x y out : Buffer} {a b d : Bytes}
  {t : Dtype} {shape : List Nat} {n : Nat} {zs : List Nat}

/-- The kernel puts the sum of two buffers into a third one. -/
lemma hostKernel_eq (laws : TensorLaws plus) (entry : String) (ht : t.hasTensor = true)
    (hshape : Word.product? shape = some n) (hstrided : Strided shape) (hx : heap.Holds x a)
    (hy : heap.Holds y b) (hout : heap.Holds out d)
    (halike : ∀ buffer ∈ [x, y, out], buffer.dtype = t ∧ buffer.shape = shape)
    (hsum : Number.addAll? plus t (Bytes.decodeWords t.size a) (Bytes.decodeWords t.size b) =
      some zs)
    (hlength : (Bytes.encodeWords t.size zs).length = d.length) (geometry : Geometry) :
    hostKernel entry geometry (Argument.list [x, y, out] [.u64 n]) heap =
      .done (.ok (), heap.write out (Bytes.encodeWords t.size zs)) := by
  have hcheck : ∀ buffer ∈ [x, y, out], (Act.bind (Act.ofOutcome buffer.count) fun held =>
      Act.ensure (held = n) (.invalidArguments entry (.valueCount n)) :
        Act Silence Heap DeviceError Unit) heap = .done (.ok (), heap) := by
    intro buffer hmem
    have hcount : (buffer.count : Outcome DeviceError Nat) = .ok n := by
      rw [Buffer.count, Word.product, (halike buffer hmem).2, hshape, Outcome.orFault]
    refine (Act.bind_done (Act.outcome_done hcount heap)).trans ?_
    exact Act.ensure_done rfl _ heap
  obtain ⟨htx, hsx⟩ := halike x (by simp)
  obtain ⟨hty, hsy⟩ := halike y (by simp)
  obtain ⟨hto, hso⟩ := halike out (by simp)
  obtain ⟨left, hleft, hreadsLeft⟩ :=
    laws.ofBuffer_eq (S := Silence) hx (htx ▸ ht) (hsx ▸ hstrided)
  obtain ⟨right, hright, hreadsRight⟩ :=
    laws.ofBuffer_eq (S := Silence) hy (hty ▸ ht) (hsy ▸ hstrided)
  rw [hx.elements_eq, htx, hsx] at hreadsLeft
  rw [hy.elements_eq, hty, hsy] at hreadsRight
  have hsame : (Bytes.decodeWords t.size b).length = (Bytes.decodeWords t.size a).length := by
    have hsizes := (htx ▸ hsx ▸ hx.size).symm.trans (hty ▸ hsy ▸ hy.size)
    rw [Bytes.length_decodeWords, Bytes.length_decodeWords, Option.some.inj hsizes]
  obtain ⟨sum, hadd, hreadsSum⟩ :=
    laws.add_some _ _ _ _ _ _ _ hreadsLeft hreadsRight hsame hsum
  have hadded : (TensorLibrary.add left right).mapError DeviceError.tensor = .ok sum := by
    rw [hadd, Outcome.mapError]
  have hbytes : sum.bytes = .ok (Bytes.encodeWords t.size zs) := by
    refine hreadsSum.bytes_eq ht ?_
    rw [← Bytes.length_encodeWords, hlength, ← hto, ← hso, hout.size]
  refine (Act.bind_done rfl).trans ?_
  refine (Act.bind_done rfl).trans ?_
  refine (Act.bind_done (Act.forEach_done hcheck)).trans ?_
  refine (Act.bind_done hleft).trans ?_
  refine (Act.bind_done hright).trans ?_
  refine (Act.bind_done (Act.outcome_done hadded heap)).trans ?_
  refine (Act.bind_done (Act.outcome_done hbytes heap)).trans ?_
  exact hout.setBytes hlength

end Add

lemma Operator.onPlatform_eq {α : Type} {p : HostKernels} {m : Act Net HostState DeviceError α}
    {v : α} {s : HostState} (h : m p.1 = .done (.ok v, s)) :
    (onPlatform m : OperatorAct Net HostState HostFunction α) p = .done (.ok v, (s, p.2)) :=
  Act.within_done (Act.mapError_done h)

namespace AddKernels

variable {k : AddKernels} {plus : Addition} {devices device r : Nat} {g : Bytes} {p : HostKernels}
  {x y : Buffer} {a b : Bytes} {t : Dtype} {entry : String} {handle : KernelHandle}

/-- Every type with a kernel has a handle, and launching it on the device runs the kernel. -/
def Provided [TensorLibrary] (k : AddKernels) (device : Nat) (p : HostKernels) : Prop :=
  ∀ t ∈ Add.variants, ∃ entry handle, Add.entry? t = some entry ∧ k.handle? t = some handle ∧
    Invoker.Provides p handle device entry (Add.hostKernel entry)

lemma Provided.still [TensorLibrary] {p' : HostKernels} (h : k.Provided device p)
    (hp : Invoker.StillProvides p p') : k.Provided device p' := by
  intro t ht
  obtain ⟨entry, handle, hentry, hhandle, hprovides⟩ := h t ht
  exact ⟨entry, handle, hentry, hhandle, hp _ _ _ _ hprovides⟩

lemma entries_source (ht : t ∈ Add.variants) :
    ∃ source entry, Add.source? t = some source ∧ Add.entry? t = some entry ∧
      (KernelSource.afterMarkersFrom 0 source.toList).map KernelSource.entryName? =
        [some entry.toList] := by
  simp only [Add.variants, List.mem_cons, List.not_mem_nil, or_false] at ht
  rcases ht with rfl | rfl | rfl | rfl | rfl <;>
  · refine ⟨_, _, rfl, rfl, ?_⟩
    simp only [Add.sourceOf, String.toList_intercalate, String.toList_append, List.map_cons,
      List.map_nil]
    repeat rw [String.toList_ofList]
    decide +kernel

/-- The source of a kernel is well formed and names it. -/
lemma parse_source (ht : t ∈ Add.variants) :
    ∃ text source entry, Add.source? t = some text ∧ KernelSource.parse text = .ok source ∧
      Add.entry? t = some entry ∧ source.entry = entry := by
  obtain ⟨text, entry, htext, hentry, hmarkers⟩ := entries_source ht
  obtain ⟨after, hafter, hname⟩ := List.map_eq_singleton_iff.1 hmarkers
  obtain ⟨source, hparse, hsource⟩ := KernelSource.parse_eq hafter hname
  exact ⟨text, source, entry, htext, hparse, hentry, hsource.trans String.ofList_toList⟩

def OnPlatform [TensorLibrary] (p : HostKernels) : Prop :=
  ∀ t ∈ Add.variants, ∀ entry, Add.entry? t = some entry →
    p.1.kernel? entry = some (Add.hostKernel entry)

lemma onPlatform_own [TensorLibrary] (h : Heap) (trace : Trace) (l : List LogRecord)
    (i : Invoker Net HostState HostFunction) :
    OnPlatform (⟨h, Host.ownKernels, trace, l⟩, i) := by
  intro t ht entry hentry
  simp only [Add.variants, List.mem_cons, List.not_mem_nil, or_false] at ht
  rcases ht with rfl | rfl | rfl | rfl | rfl <;>
  · obtain rfl := Option.some.inj hentry
    rfl

/-- The handles of some types, all of which have a kernel, stand for these kernels. -/
lemma runs_installEach [TensorLibrary] {ts : List Dtype} (hp : Invoker.OnHost devices p)
    (hd : device < devices) (hkernels : OnPlatform p) (hts : ∀ t ∈ ts, t ∈ Add.variants) :
    (installEach (Host.platform devices) ts).Runs g r p [] fun handles p' =>
      Invoker.Grown devices p p' ∧ handles.map (·.1) = ts ∧ ∀ h ∈ handles, ∃ entry,
        Add.entry? h.1 = some entry ∧
          Invoker.Provides p' h.2 device entry (Add.hostKernel entry) := by
  induction ts generalizing p with
  | nil => exact .pure ⟨⟨rfl, rfl, id, .refl p⟩, rfl, nofun⟩
  | cons t ts ih =>
    obtain ⟨text, source, entry, htext, hparse, hentry, hsource⟩ :=
      parse_source (hts t List.mem_cons_self)
    have hkernel := hkernels t (hts t List.mem_cons_self) entry hentry
    rw [installEach, htext]
    refine .after (Invoker.runs_inject hp hd hparse (hsource ▸ hkernel)) ?_
    rintro handle p₁ ⟨h₁, hprovides⟩
    have hkernels₁ : OnPlatform p₁ := fun t ht entry hentry =>
      (h₁.kernel? entry).trans (hkernels t ht entry hentry)
    refine .after (ih (h₁.onHost hp) hkernels₁ fun t ht => hts t (List.mem_cons_of_mem _ ht)) ?_
    rintro handles p₂ ⟨h₂, hnames, hrest⟩
    refine .pure ⟨h₁.trans h₂, ?_, ?_⟩
    · rw [List.map_cons, hnames]
    · intro h hmem
      rcases List.mem_cons.1 hmem with rfl | hmem
      · exact ⟨entry, hentry, h₂.provides _ _ _ _ (hsource ▸ hprovides)⟩
      · exact hrest h hmem

/-- On a host platform with the library's kernels their registration succeeds. -/
lemma runs_install [TensorLibrary] (hp : Invoker.OnHost devices p) (hd : device < devices)
    (hkernels : OnPlatform p) :
    (install (Host.platform devices)).Runs g r p [] fun k p' =>
      Invoker.Grown devices p p' ∧ k.Provided device p' := by
  refine .after (runs_installEach hp hd hkernels fun _ ht => ht) ?_
  rintro handles p₁ ⟨hgrown, hnames, hprovides⟩
  refine .pure ⟨hgrown, ?_⟩
  intro t ht
  have hsome : (handles.find? fun h => h.1 = t).isSome := by
    rw [List.find?_isSome]
    rw [← hnames] at ht
    obtain ⟨h, hmem, heq⟩ := List.mem_map.1 ht
    exact ⟨h, hmem, by simpa using heq⟩
  obtain ⟨h, hfound⟩ := Option.isSome_iff_exists.1 hsome
  obtain ⟨entry, hentry, hprovided⟩ := hprovides h (List.mem_of_find?_eq_some hfound)
  have htype : h.1 = t := by simpa using List.find?_some hfound
  refine ⟨entry, h.2, htype ▸ hentry, ?_, hprovided⟩
  rw [handle?, hfound]
  rfl

lemma hasTensor_of_variant (ht : t ∈ Add.variants) : t.hasTensor = true := by
  revert t
  decide

/-- A sum fills as many bytes as each of its operands. -/
lemma length_encoded {zs : List Nat} (hdtype : y.dtype = x.dtype) (hshape : y.shape = x.shape)
    {heap : Heap} (hx : heap.Holds x a) (hy : heap.Holds y b)
    (hsum : Number.addAll? plus x.dtype (Bytes.decodeWords x.dtype.size a)
      (Bytes.decodeWords x.dtype.size b) = some zs) :
    (Bytes.encodeWords x.dtype.size zs).length = a.length := by
  have hwords : (Bytes.decodeWords x.dtype.size b).length =
      (Bytes.decodeWords x.dtype.size a).length := by
    have hsame := hdtype ▸ hshape ▸ hy.size
    rw [Bytes.length_decodeWords, Bytes.length_decodeWords,
      Option.some.inj (hsame.symm.trans hx.size)]
  rw [Bytes.length_encodeWords, Number.length_addAll? hsum hwords, Bytes.length_decodeWords,
    Nat.div_mul_cancel (Buffer.size_dvd hx.size)]

/-- The launch of a kernel fills the result, and changes nothing else in memory. -/
lemma runs_fill [TensorLibrary] (laws : TensorLaws plus) {out : Buffer} {d : Bytes}
    {stream : Stream} {shape : List Nat} {n : Nat} {zs : List Nat} {geometry : GeometryOverride}
    (hprovides : Invoker.Provides p handle stream.device entry (Add.hostKernel entry))
    (hd : stream.device < devices) (ht : t.hasTensor = true) (hcount : Word.product? shape = some n)
    (hstrided : Strided shape) (hx : p.1.heap.Holds x a) (hy : p.1.heap.Holds y b)
    (hout : p.1.heap.Holds out d)
    (halike : ∀ buffer ∈ [x, y, out],
      buffer.dtype = t ∧ buffer.shape = shape ∧ buffer.device = stream.device)
    (hsum : Number.addAll? plus t (Bytes.decodeWords t.size a) (Bytes.decodeWords t.size b) =
      some zs)
    (hlength : (Bytes.encodeWords t.size zs).length = d.length) :
    (Act.bind (((Invoker.invokeOn (Host.platform devices) stream handle [x, y, out] [.u64 n]
        geometry).mapError .kernel).orElseClean
      (Operator.onPlatform ((Host.platform devices : Platform Net _ _ HostEvent).release out)))
      fun _ => (pure out : Act Net HostKernels OperatorError Buffer)).Runs g r p []
        fun result p' =>
          result = out ∧ p'.1.heap = p.1.heap.write out (Bytes.encodeWords t.size zs) := by
  have hbuffers : ∀ buffer ∈ [x, y, out], buffer.device = stream.device ∧
      p.1.heap.isHost buffer = true := by
    intro buffer hmem
    refine ⟨(halike buffer hmem).2.2, ?_⟩
    simp only [List.mem_cons, List.not_mem_nil, or_false] at hmem
    rcases hmem with rfl | rfl | rfl
    · exact hx.isHost
    · exact hy.isHost
    · exact hout.isHost
  have hkernel := Add.hostKernel_eq laws entry ht hcount hstrided hx hy hout
    (fun buffer hmem => ⟨(halike buffer hmem).1, (halike buffer hmem).2.1⟩) hsum hlength
  refine .after (.orElseClean (.mapError (Invoker.runs_invokeOn hprovides hd hbuffers hkernel))) ?_
  rintro _ p₁ ⟨hheap, -⟩
  exact .pure ⟨rfl, hheap⟩

/-- `x + y` is in a fresh buffer, and no other buffer is changed. -/
lemma runs_add [TensorLibrary] (laws : TensorLaws plus) {n : Nat} {zs : List Nat}
    (hk : k.Provided x.device p) (hd : x.device < devices) (ht : x.dtype ∈ Add.variants)
    (hdtype : y.dtype = x.dtype) (hshape : y.shape = x.shape) (hdevice : y.device = x.device)
    (hx : p.1.heap.Holds x a) (hy : p.1.heap.Holds y b) (hcount : Word.product? x.shape = some n)
    (hsum : Number.addAll? plus x.dtype (Bytes.decodeWords x.dtype.size a)
      (Bytes.decodeWords x.dtype.size b) = some zs) :
    (k.add (Host.platform devices) x y).Runs g r p [] fun out p' =>
      out = ⟨x.dtype, x.shape, x.device, p.1.heap.length⟩ ∧
        p'.1.heap.Holds out (Bytes.encodeWords x.dtype.size zs) ∧
        Heap.Keeps (fun _ => False) p.1.heap p'.1.heap := by
  obtain ⟨entry, handle, -, hhandle, hprovides⟩ := hk _ ht
  have hzs := length_encoded hdtype hshape hx hy hsum
  let stream : Stream := ⟨x.device, .compute, 0⟩
  let out : Buffer := ⟨x.dtype, x.shape, x.device, p.1.heap.length⟩
  let p₁ : HostKernels := ({ p.1 with heap := p.1.heap.allocated a.length stream }, p.2)
  have hkeeps : Heap.Keeps (fun _ => False) p.1.heap p₁.1.heap := Heap.keeps_append _ _
  have hfresh : p₁.1.heap.Holds out (List.replicate a.length 0) :=
    Heap.holds_allocated stream rfl hx.size hx.small
  have hstream : (Operator.onPlatform ((Host.platform devices).stream x.device .compute) :
      Act Net HostKernels OperatorError Stream) p = .done (.ok stream, p) :=
    Operator.onPlatform_eq (Act.bind_done (Invoker.hostCheckDevice_eq hd))
  have halloc : (Operator.onPlatform ((Host.platform devices).alloc x.dtype x.shape stream) :
      Act Net HostKernels OperatorError Buffer) p = .done (.ok out, p₁) :=
    Operator.onPlatform_eq (Scheduler.alloc_eq hd hx.size hx.small)
  have hn : (x.count : Outcome OperatorError Nat) = .ok n := by
    rw [Buffer.count, Word.product, hcount, Outcome.orFault]
  refine .step (Act.ensure_done hdtype.symm _ p) (.step (Act.ensure_done hshape.symm _ p) ?_)
  rw [hhandle]
  refine .step hstream (.step halloc (.step (Act.outcome_done hn p₁) ?_))
  by_cases hzero : n = 0
  · rw [if_pos hzero]
    have hlength : a.length = 0 := by
      rw [Buffer.sizeOf?_eq_count_mul hx.size hcount, hzero, Nat.zero_mul]
    have hempty : Bytes.encodeWords x.dtype.size zs = [] :=
      List.eq_nil_of_length_eq_zero (hzs.trans hlength)
    refine .pure ⟨rfl, ?_, hkeeps⟩
    rw [hempty]
    rw [hlength] at hfresh
    exact hfresh
  · rw [if_neg hzero]
    have hfill : (Bytes.encodeWords x.dtype.size zs).length =
        (List.replicate a.length (0 : UInt8)).length := hzs.trans List.length_replicate.symm
    have hprovides₁ :
        Invoker.Provides p₁ handle stream.device entry (Add.hostKernel entry) :=
      ⟨hprovides.compiler, hprovides.device_lt, hprovides.registered, hprovides.slot⟩
    have hstrided := strided_of_pos hcount (Nat.pos_of_ne_zero hzero)
    have halike : ∀ buffer ∈ [x, y, out], buffer.dtype = x.dtype ∧ buffer.shape = x.shape ∧
        buffer.device = stream.device := by
      simp only [List.mem_cons, List.not_mem_nil, or_false]
      rintro _ (rfl | rfl | rfl)
      · exact ⟨rfl, rfl, rfl⟩
      · exact ⟨hdtype, hshape, hdevice⟩
      · exact ⟨rfl, rfl, rfl⟩
    refine (runs_fill laws hprovides₁ hd (hasTensor_of_variant ht) hcount hstrided
      (hkeeps.holds _ _ id hx) (hkeeps.holds _ _ id hy) hfresh halike hsum hfill).mono ?_
    rintro result p₂ ⟨rfl, hheap⟩
    rw [hheap]
    refine ⟨rfl, hfresh.written hfill, ?_⟩
    have hwrite := Heap.keeps_write p₁.1.heap out (Bytes.encodeWords x.dtype.size zs)
    refine ((hkeeps.mono fun _ _ => False.elim).trans hwrite).mono ?_
    exact fun i hi hcell => absurd hcell (Nat.ne_of_lt hi)

end AddKernels

/-- The source of the kernel is well formed and names it. -/
lemma RunningLocation.parse_source :
    ∃ parsed, KernelSource.parse RunningLocation.source = .ok parsed ∧
      parsed.entry = RunningLocation.entry := by
  have hentries : (KernelSource.afterMarkersFrom 0 RunningLocation.source.toList).map
      KernelSource.entryName? = [some RunningLocation.entry.toList] := by
    simp only [RunningLocation.source, RunningLocation.entry, String.toList_intercalate,
      String.toList_append, List.map_cons, List.map_nil]
    repeat rw [String.toList_ofList]
    decide +kernel
  obtain ⟨after, hmarkers, hname⟩ := List.map_eq_singleton_iff.1 hentries
  obtain ⟨parsed, hparse, hentry⟩ := KernelSource.parse_eq hmarkers hname
  exact ⟨parsed, hparse, hentry.trans String.ofList_toList⟩

end ExpertExchange
