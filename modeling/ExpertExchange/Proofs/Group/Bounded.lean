import ExpertExchange.Proofs.Group.Summed
import ExpertExchange.Proofs.Host.Sized

/-!
# Transfers inside their buffers

A send or a receive is checked against type and shape of its buffer, and performed on the bytes that
the buffer holds then, perhaps at the end of a round, after much else was done to them. As far as
the buffer is as large as its type and shape say, what passed the check is there when the transfer
is performed, and nothing is addressed that is not.
-/

namespace ExpertExchange

/-- Any two elements of the type have a sum. -/
def Number.Total (plus : Addition) (t : Dtype) : Prop := ∀ x y, plus t x y ≠ none

/-- These are the floating-point types: sums of whole numbers may overflow, and elements of other
types are not added. -/
lemma Number.total_iff {t : Dtype} : Total add? t ↔ t ∈ [.bf16, .f16, .f32, .f64] := by
  constructor
  · intro ht
    cases t with
    | u8 => exact absurd rfl (ht 255 1)
    | u32 => exact absurd rfl (ht 0xffffffff 1)
    | i64 => exact absurd rfl (ht 0x7fffffffffffffff 1)
    | bf16 => decide
    | f16 => decide
    | f32 => decide
    | f64 => decide
    | _ => exact absurd rfl (ht 0 0)
  · intro ht x y
    simp only [List.mem_cons, List.not_mem_nil, or_false] at ht
    rcases ht with rfl | rfl | rfl | rfl
    · exact nofun
    · exact nofun
    · exact nofun
    · exact nofun

lemma Number.exists_addAll? {plus : Addition} {t : Dtype} (ht : Total plus t) (xs ys : List Nat) :
    ∃ zs, addAll? plus t xs ys = some zs := by
  unfold addAll?
  induction xs.zip ys with
  | nil => exact ⟨[], rfl⟩
  | cons p rest ih =>
    obtain ⟨z, hz⟩ := Option.ne_none_iff_exists'.1 (ht p.1 p.2)
    obtain ⟨zs, hzs⟩ := ih
    refine ⟨z :: zs, ?_⟩
    rw [List.mapM_cons, hz, hzs]
    rfl

namespace Tensor

variable [TensorLibrary] {plus : Addition} {b : Buffer} {size : Nat} {x y : Tensor}

/-- The tensor has the type and shape of the buffer, and as many elements as fill this size. -/
structure Fills (b : Buffer) (size : Nat) (x : Tensor) : Prop where
  hasTensor : b.dtype.hasTensor = true
  reads : ∃ elements, x.Reads b.dtype b.shape elements ∧ elements.length * b.dtype.size = size

/-- Bytes are refused, or make a tensor that fills the buffer. -/
lemma ofBytes_fills (laws : TensorLaws plus) (hstrided : Strided b.shape)
    (hsize : Buffer.sizeOf? b.dtype b.shape = some size) (c : Bytes) :
    (∃ e, ofBytes b.dtype b.shape c = .error e) ∨
      ∃ x, ofBytes b.dtype b.shape c = .ok x ∧ x.Fills b size := by
  by_cases hlength : c.length = size
  · subst hlength
    by_cases ht : b.dtype.hasTensor = true
    · obtain ⟨x, hmade, hreads⟩ := laws.ofBytes_eq ht hsize hstrided
      refine .inr ⟨x, hmade, ht, _, hreads, ?_⟩
      rw [Bytes.length_decodeWords]
      exact Nat.div_mul_cancel (Buffer.size_dvd hsize)
    · exact .inl ⟨_, ofBytes_unsupported hsize (Bool.eq_false_of_not_eq_true ht)⟩
  · refine .inl ⟨.sizeMismatch size c.length, ?_⟩
    simp [ofBytes, Buffer.sizeOf_eq hsize, Outcome.bind, Outcome.ensure, hlength]

/-- A sum of tensors that fill a buffer fills it too. -/
lemma Fills.add (laws : TensorLaws plus) (hx : x.Fills b size) (hy : y.Fills b size)
    (hb : Number.Total plus b.dtype) :
    ∃ z : Tensor, TensorLibrary.add x y = .ok z ∧ z.Fills b size := by
  obtain ⟨ht, xs, hreads, hxs⟩ := hx
  obtain ⟨-, ys, hreads', hys⟩ := hy
  have hlength : ys.length = xs.length :=
    Nat.eq_of_mul_eq_mul_right (Dtype.size_pos ht) (hys.trans hxs.symm)
  obtain ⟨zs, hzs⟩ := Number.exists_addAll? hb xs ys
  obtain ⟨z, hz, hsum⟩ := laws.add_some _ _ _ _ _ _ _ hreads hreads' hlength hzs
  refine ⟨z, hz, ht, zs, hsum, ?_⟩
  rw [Number.length_addAll? hzs hlength, hxs]

/-- What is written back of a tensor that fills a buffer is as large as the buffer. -/
lemma Fills.bytes (hx : x.Fills b size) (hsize : Buffer.sizeOf? b.dtype b.shape = some size) :
    ∃ content, x.bytes = .ok content ∧ content.length = size := by
  obtain ⟨ht, xs, hreads, rfl⟩ := hx
  exact ⟨_, hreads.bytes_eq ht hsize, Bytes.length_encodeWords _ _⟩

end Tensor

namespace SimulatedLink

variable {α : Type} {b : Buffer} {range : ByteRange} {peer root size : Nat} {stream : Stream}
  {q : HostState × SimulatedLink}

def outlineOf (q : HostState × SimulatedLink) : Outline := q.1.heap.outline

/-- Operations change the link only where transfers are queued, or a round is opened or closed. -/
lemma contentless_link : Contentless (Prod.snd : HostState × SimulatedLink → SimulatedLink) :=
  fun _ _ _ _ => rfl

lemma traceless_link : Traceless (Prod.snd : HostState × SimulatedLink → SimulatedLink) :=
  fun _ _ _ => rfl

/-- What the buffer holds is as much as the outline says. -/
lemma reads_content (h : (outlineOf q).HasSize b size) :
    ∃ content : Bytes, content.length = size ∧
      onHeap (Heap.bytes b) q = .done (.ok content, q) ∧
      ∀ new : Bytes, new.length = size → ∃ heap : Heap, heap.outline = q.1.heap.outline ∧
        onHeap (Heap.setBytes b new) q = .done (.ok (), ({ q.1 with heap := heap }, q.2)) := by
  obtain ⟨users, hcell⟩ := h
  obtain ⟨content, handles, hallocation, hlength⟩ := Heap.exists_content hcell
  have hbytes : (Heap.bytes b : Act Net Heap DeviceError Bytes) q.1.heap =
      .done (.ok content, q.1.heap) := by
    rw [Heap.bytes, Heap.allocation?, hallocation]
  refine ⟨content, hlength, onHeap_eq hbytes, ?_⟩
  intro new hnew
  have hsame : new.length = content.length := hnew.trans hlength.symm
  refine ⟨_, Heap.outline_setContent hallocation hsame, onHeap_eq ?_⟩
  refine (Act.bind_done hbytes).trans ?_
  rw [if_pos hsame]
  rfl

lemma faultless_bytes : (onHeap (Heap.bytes b)).Faultless outlineOf (·.HasSize b size) := by
  refine .of_ensures ?_
  intro q hq
  obtain ⟨content, -, hbytes, -⟩ := reads_content hq
  exact .of_done hbytes ⟨nofun, rfl⟩

lemma gives_bytes (h : (outlineOf q).HasSize b size) :
    (onHeap (Heap.bytes b)).Gives q fun content _ => content.length = size := by
  obtain ⟨content, hlength, hbytes, -⟩ := reads_content h
  exact .of_done hbytes hlength

lemma faultless_setBytes {content : Bytes} (hlength : content.length = size) :
    (onHeap (Heap.setBytes b content)).Faultless outlineOf (·.HasSize b size) := by
  refine .of_ensures ?_
  intro q hq
  obtain ⟨-, -, -, hset⟩ := reads_content hq
  obtain ⟨heap, houtline, hdone⟩ := hset content hlength
  exact .of_done hdone ⟨nofun, houtline⟩

lemma faultless_checkBounds {content : Bytes} {I : Outline → Prop}
    (hrange : range.Within content.length) : (checkBounds content range).Faultless outlineOf I := by
  refine .of_ensures ?_
  intro q _
  exact .of_done (checkBounds_eq hrange) ⟨nofun, rfl⟩

lemma faultless_postBytes {I : Outline → Prop} (payload : Bytes) :
    (postBytes payload peer).Faultless outlineOf I := by
  refine .bind (.view _) ?_
  intro l
  exact .request _

/-- A part of a buffer that lies inside its size can be posted. -/
lemma faultless_post (hrange : range.Within size) :
    (post b range peer).Faultless outlineOf (·.HasSize b size) := by
  refine .bindGives faultless_bytes (fun _ => gives_bytes) ?_
  rintro content rfl
  refine .bind (faultless_checkBounds hrange) ?_
  intro _
  exact faultless_postBytes _

lemma faultless_take {I : Outline → Prop} : (take peer).Faultless outlineOf I := by
  refine .bind (.view _) ?_
  intro l
  refine .bind (.request _) ?_
  intro received
  cases received with
  | some payload => exact .pure payload
  | none => exact .fail _

/-- A part of a buffer that lies inside its size can be filled. -/
lemma faultless_deliver (hrange : range.Within size) :
    (deliver b range peer).Faultless outlineOf (·.HasSize b size) := by
  refine .bind faultless_take ?_
  intro payload
  refine .bind (.view _) ?_
  intro l
  refine .bindGives (.ensure _ _) (G := fun _ => payload.length = range.length) ?_ ?_
  · intro q _
    exact (Act.Gives.ensure _ _).mono fun _ _ h => h.1
  intro _ hpayload
  refine .bindGives faultless_bytes (fun _ => gives_bytes) ?_
  intro content hcontent
  subst hcontent
  refine .bind (faultless_checkBounds hrange) ?_
  intro _
  refine faultless_setBytes (Bytes.length_overwrite ?_)
  have hfits : (Parcel.mk peer range payload).Fits content.length := ⟨hpayload, hrange⟩
  exact hfits.room

/-- A transfer inside its buffer can be performed. -/
lemma faultless_perform {t : Transfer} (hrange : t.range.Within size) :
    (perform t).Faultless outlineOf (·.HasSize t.buffer size) := by
  unfold perform
  cases t.kind with
  | send => exact faultless_post hrange
  | recv => exact faultless_deliver hrange

lemma faultless_note {I : Outline → Prop} (e : TraceEvent) : (note e).Faultless outlineOf I :=
  .modify fun _ => rfl

lemma faultless_checkPeer {I : Outline → Prop} : (checkPeer peer).Faultless outlineOf I := by
  refine .bind (.view _) ?_
  intro l
  exact .ensure _ _

lemma faultless_byteCount {I : Outline → Prop}
    (hsize : Buffer.sizeOf? b.dtype b.shape = some size) :
    (Act.ofOutcome b.byteCount : LinkAct Nat).Faultless outlineOf I := by
  rw [Buffer.byteCount, Buffer.sizeOf_eq hsize]
  exact .pure size

lemma gives_byteCount :
    (Act.ofOutcome b.byteCount : LinkAct Nat).Gives q fun n _ =>
      Buffer.sizeOf? b.dtype b.shape = some n := by
  refine .ofOutcome ?_
  intro n hn
  exact Buffer.sizeOf?_of_ok hn

lemma faultless_checkRange {I : Outline → Prop}
    (hsize : Buffer.sizeOf? b.dtype b.shape = some size) :
    (checkRange b range).Faultless outlineOf I := by
  refine .bind (faultless_byteCount hsize) ?_
  intro n
  exact .ensure _ _

/-- A range that is accepted lies inside the size that type and shape of the buffer ask for. -/
lemma gives_checkRange : (checkRange b range).Gives q fun _ _ =>
    ∃ n, Buffer.sizeOf? b.dtype b.shape = some n ∧ range.Within n := by
  refine .bind gives_byteCount ?_
  intro n q₁ hn
  exact (Act.Gives.ensure _ _).mono fun _ _ h => ⟨n, hn, h.1⟩

def issueChecked (t : Transfer) (e : TraceEvent) : LinkAct Unit := do
  checkPeer t.peer
  checkRange t.buffer t.range
  note e
  issue t

lemma send_eq : send b range peer stream =
    issueChecked ⟨.send, b, range, peer⟩ (.send peer range stream.kind) := rfl

lemma recv_eq : recv b range peer stream =
    issueChecked ⟨.recv, b, range, peer⟩ (.recv peer range stream.kind) := rfl

/-- Sends and receives are refused, or they can be performed. -/
lemma faultless_issueChecked {t : Transfer} (e : TraceEvent)
    (hsize : Buffer.sizeOf? t.buffer.dtype t.buffer.shape = some size) :
    (issueChecked t e).Faultless outlineOf (·.HasSize t.buffer size) := by
  refine .bind faultless_checkPeer ?_
  intro _
  refine .bindGives (faultless_checkRange hsize) (fun _ _ => gives_checkRange) ?_
  rintro _ ⟨n, hn, hrange⟩
  obtain rfl : n = size := Option.some.inj (hn.symm.trans hsize)
  refine .bind (faultless_note _) ?_
  intro _
  refine .bind (.view _) ?_
  intro l
  exact .ite (.modify fun _ => rfl) (faultless_perform hrange)

lemma faultless_broadcast (hsize : Buffer.sizeOf? b.dtype b.shape = some size) :
    (broadcast b root).Faultless outlineOf (·.HasSize b size) := by
  have hwhole : (ByteRange.mk 0 size).Within size := ⟨Nat.zero_le _, Nat.le_refl _⟩
  refine .bind faultless_checkPeer ?_
  intro _
  refine .bind (faultless_note _) ?_
  intro _
  refine .bindGives (faultless_byteCount hsize) (fun _ _ => gives_byteCount) ?_
  intro n hn
  obtain rfl : n = size := Option.some.inj (hn.symm.trans hsize)
  refine .bind (.view _) ?_
  intro l
  refine .ite ?_ (faultless_deliver hwhole)
  exact .forEach fun peer _ => faultless_post hwhole

/-- A contribution that can be read fills the buffer. -/
lemma contribution_fills [TensorLibrary] {plus : Addition} {I : Outline → Prop}
    (laws : TensorLaws plus) (hstrided : Strided b.shape)
    (hsize : Buffer.sizeOf? b.dtype b.shape = some size) (own : Bytes) (peer : Nat) :
    (contribution b own peer).Faultless outlineOf I ∧
      ∀ q, (contribution b own peer).Gives q fun t _ => t.Fills b size := by
  let read (c : Bytes) : LinkAct Tensor :=
    Act.ofOutcome ((Tensor.ofBytes b.dtype b.shape c).mapError ExchangeError.device)
  have hread : ∀ c : Bytes, (read c).Faultless outlineOf I ∧
      ∀ q, (read c).Gives q fun t _ => t.Fills b size := by
    intro c
    simp only [read]
    rcases Tensor.ofBytes_fills laws hstrided hsize c with ⟨e, he⟩ | ⟨x, hx, hfills⟩
    · rw [he]
      exact ⟨.fail _, fun q => .of_failed rfl nofun⟩
    · rw [hx]
      exact ⟨.pure x, fun q => .of_done rfl hfills⟩
  constructor
  · refine .bind (.view _) ?_
    intro l
    exact .ite (.bind (.pure own) fun c => (hread c).1) (.bind faultless_take fun c => (hread c).1)
  · intro q
    refine .afterAny ?_
    intro l q₁
    by_cases hpeer : peer = l.rank
    · rw [if_pos hpeer]
      exact .afterAny fun c q₂ => (hread c).2 q₂
    · rw [if_neg hpeer]
      exact .afterAny fun c q₂ => (hread c).2 q₂

/-- Contributions are added up without a fault, and their sum fills the buffer. -/
lemma sum_fills [TensorLibrary] {plus : Addition} {I : Outline → Prop} (laws : TensorLaws plus)
    (hstrided : Strided b.shape) (hsize : Buffer.sizeOf? b.dtype b.shape = some size)
    (hb : Number.Total plus b.dtype) (own : Bytes) (ranks : List Nat) {sum : Tensor}
    (hsum : sum.Fills b size) :
    (addContributions b own ranks sum).Faultless outlineOf I ∧
      ∀ q, (addContributions b own ranks sum).Gives q fun t _ => t.Fills b size := by
  induction ranks generalizing sum with
  | nil => exact ⟨.pure sum, fun q => .of_done rfl hsum⟩
  | cons r rest ih =>
    obtain ⟨hfaultless, hgives⟩ :=
      contribution_fills (I := I) laws hstrided hsize own r
    have hadded (part : Tensor) (hpart : part.Fills b size) :
        ∃ z : Tensor, (TensorLibrary.add sum part).mapError ExchangeError.tensor = .ok z ∧
          z.Fills b size := by
      obtain ⟨z, hz, hfills⟩ := hsum.add laws hpart hb
      exact ⟨z, by rw [hz]; rfl, hfills⟩
    constructor
    · refine .bindGives hfaultless (fun q _ => hgives q) ?_
      intro part hpart
      obtain ⟨z, hz, hfills⟩ := hadded part hpart
      rw [hz]
      exact (ih hfills).1
    · intro q
      refine (hgives q).bind ?_
      intro part q₁ hpart
      obtain ⟨z, hz, hfills⟩ := hadded part hpart
      rw [hz]
      exact (ih hfills).2 q₁

/-- A sum that does not overflow is written back to a buffer that is as large. -/
lemma faultless_allReduce [TensorLibrary] {plus : Addition} (laws : TensorLaws plus)
    (hstrided : Strided b.shape) (hsize : Buffer.sizeOf? b.dtype b.shape = some size)
    (hb : Number.Total plus b.dtype) :
    (allReduce b).Faultless outlineOf (·.HasSize b size) := by
  refine .bind (faultless_note _) ?_
  intro _
  refine .bind faultless_bytes ?_
  intro own
  refine .bind (.view _) ?_
  intro l
  refine .bind (.forEach fun peer _ => faultless_postBytes own) ?_
  intro _
  cases List.range l.worldSize with
  | nil => exact .pure ()
  | cons first rest =>
    have hfirst :=
      contribution_fills (I := (·.HasSize b size)) laws hstrided hsize own first
    refine .bindGives hfirst.1 (fun q _ => hfirst.2 q) ?_
    intro part hpart
    have hsum := sum_fills (I := (·.HasSize b size)) laws hstrided hsize hb own rest hpart
    refine .bindGives hsum.1 (fun q _ => hsum.2 q) ?_
    intro sum hfills
    obtain ⟨content, hcontent, hlength⟩ := hfills.bytes hsize
    rw [hcontent]
    have hgives : ∀ q, (Act.ofOutcome (.ok content) : LinkAct Bytes).Gives q
        fun c _ => c.length = size := fun q => .of_done rfl hlength
    exact .bindGives (.pure content) (fun q _ => hgives q) fun _ => faultless_setBytes

lemma faultless_groupStart {I : Outline → Prop} : groupStart.Faultless outlineOf I := by
  refine .bind (.modify fun _ => rfl) ?_
  intro _
  exact faultless_note _

/-- The transfer is of a part that lies inside its buffer. -/
def InsideBuffer (o : Outline) (t : Transfer) : Prop :=
  ∃ size, o.HasSize t.buffer size ∧ t.range.Within size

/-- The end of a round performs its transfers if they lie inside their buffers. -/
lemma faultless_groupEnd (q : HostState × SimulatedLink)
    (hq : ∀ t ∈ q.2.pending, InsideBuffer (outlineOf q) t) :
    groupEnd.Ensures q fun o _ => o.ending ≠ .fault := by
  have hround : (Act.forEach (roundOrder q.2.pending) perform).Faultless outlineOf fun o =>
      ∀ t ∈ q.2.pending, InsideBuffer o t := by
    refine .forEach ?_
    intro t ht
    have hpending : t ∈ q.2.pending := by
      rcases List.mem_append.1 ht with ht | ht
      · exact List.mem_of_mem_filter ht
      · exact List.mem_of_mem_filter ht
    refine .of_ensures ?_
    intro s hs
    obtain ⟨size, hsize, hrange⟩ := hs t hpending
    exact (faultless_perform hrange).ensures hsize
  unfold groupEnd
  refine Act.Ensures.viewing ?_
  rcases q.2.depth with _ | _ | depth
  · exact .of_done rfl nofun
  · have hclosed : (Act.bind (Act.modify fun s : HostState × SimulatedLink =>
        (s.1, { s.2 with depth := 0, pending := [] })) fun _ =>
          Act.bind (note .groupEnd) fun _ => Act.forEach (roundOrder q.2.pending) perform).Faultless
            outlineOf fun o => ∀ t ∈ q.2.pending, InsideBuffer o t := by
      refine .bind (.modify fun _ => rfl) ?_
      intro _
      exact .bind (faultless_note _) fun _ => hround
    exact (hclosed.ensures hq).mono fun _ _ h => h.1
  · exact .of_done rfl nofun

/-- The group stays as large as it is. Transfers that are new in the open round are of these
buffers, and have passed the checks. -/
def Takes (buffers : List Buffer) (l : SimulatedLink) (_ : Ending) (l' : SimulatedLink) : Prop :=
  l'.worldSize = l.worldSize ∧
    ∀ t ∈ l'.pending, t ∈ l.pending ∨ (t.buffer ∈ buffers ∧ t.Legal l.worldSize)

lemma takes_self (buffers : List Buffer) (l : SimulatedLink) (ending : Ending) :
    Takes buffers l ending l := ⟨rfl, fun _ => .inl⟩

lemma chains_takes (buffers : List Buffer) : Chains (Takes buffers) := by
  constructor
  · intro l
    exact takes_self buffers l .ok
  · rintro l l₁ l₂ ending ⟨hworld, hpending⟩ ⟨hworld', hpending'⟩
    refine ⟨hworld'.trans hworld, ?_⟩
    intro t ht
    rcases hpending' t ht with hold | hnew
    · exact hpending t hold
    · rw [hworld] at hnew
      exact .inr hnew

/-- An operation that leaves the link as it is. -/
lemma takes_of_spares {m : LinkAct α} (hm : m.Spares Prod.snd) (buffers : List Buffer) :
    m.Changes Prod.snd (Takes buffers) := hm.changes (takes_self buffers)

lemma takes_issue {t : Transfer} (ht : t.Legal q.2.worldSize) :
    (issue t).Ensures q fun o q' => Takes [t.buffer] q.2 o.ending q'.2 := by
  refine Act.Ensures.viewing ?_
  change Act.Ensures (if 0 < q.2.depth then _ else _) _ _
  by_cases hdepth : 0 < q.2.depth
  · rw [if_pos hdepth]
    refine .of_done rfl ⟨rfl, ?_⟩
    intro t' ht'
    rcases List.mem_append.1 ht' with hold | hnew
    · exact .inl hold
    · obtain rfl := List.mem_singleton.1 hnew
      exact .inr ⟨List.mem_singleton_self _, ht⟩
  · rw [if_neg hdepth]
    exact takes_of_spares (spares_perform contentless_link t) _ q

lemma takes_issueChecked (t : Transfer) (e : TraceEvent) :
    (issueChecked t e).Changes Prod.snd (Takes [t.buffer]) := by
  have hchains := chains_takes [t.buffer]
  have hranged : (checkRange t.buffer t.range).Spares Prod.snd := spares_checkRange
  have htraced := spares_note traceless_link e
  have hpeer : ∀ q, (checkPeer t.peer).Gives q fun _ q' => t.peer < q'.2.worldSize := by
    intro q
    refine Act.Gives.bind (G := fun l q' => l = q'.2) (.of_done rfl rfl) ?_
    rintro _ q₁ rfl
    exact (Act.Gives.ensure _ _).mono fun _ _ h => h.2 ▸ h.1
  intro q
  refine Act.Changes.afterGives hchains (takes_of_spares spares_checkPeer _) (hpeer q) ?_
  intro _ q₁ hpeer
  refine Act.Changes.afterGives hchains (takes_of_spares hranged _)
    (gives_checkRange.and (hranged.gives q₁)) ?_
  rintro _ q₂ ⟨hrange, hlink⟩
  refine Act.Changes.afterGives hchains (takes_of_spares htraced _) (htraced.gives q₂) ?_
  intro _ q₃ hlink'
  refine takes_issue ⟨?_, hrange⟩
  rw [hlink', hlink]
  exact hpeer

lemma takes_groupStart : groupStart.Changes Prod.snd (Takes []) := by
  intro q
  exact .of_done rfl ⟨rfl, fun _ => .inl⟩

lemma takes_groupEnd : groupEnd.Changes Prod.snd (Takes []) := by
  have hnote := takes_of_spares (spares_note traceless_link .groupEnd) []
  intro q
  unfold groupEnd
  refine Act.Ensures.viewing ?_
  rcases q.2.depth with _ | _ | depth
  · exact .of_done rfl (takes_self _ _ _)
  · refine Act.Changes.after (chains_takes _) (.of_done rfl ⟨rfl, nofun⟩) ?_
    intro _
    refine .bind (chains_takes _) hnote ?_
    intro _
    exact takes_of_spares (.forEach fun t _ => spares_perform contentless_link t) _
  · refine Act.Changes.after (chains_takes _) (.of_done rfl ⟨rfl, fun _ => .inl⟩) ?_
    intro _
    exact hnote

end SimulatedLink

end ExpertExchange
