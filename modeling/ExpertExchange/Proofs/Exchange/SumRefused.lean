import ExpertExchange.Exchange.Context
import ExpertExchange.Proofs.Act.Ends
import ExpertExchange.Proofs.Group.Agreed
import ExpertExchange.StandIn.Tensors

/-!
# Operands refused after the sum

A sum over the group with an addition checks the operands of the addition only when the sum is
done. With operands that no kernel can add, every rank takes part in the whole round of the sum,
its buffer holds the sum and its trace shows it; only then does the call end with an error.
-/

namespace ExpertExchange

namespace AddKernels

variable {S : Service} {σ F E : Type} {k : AddKernels} {x y : Buffer} {e : OperatorError}

/-- Why two operands cannot be added, if they cannot. -/
def refusal? (k : AddKernels) (x y : Buffer) : Option OperatorError :=
  if x.dtype ≠ y.dtype then some (.dtypeMismatch "x_add_y" x.dtype y.dtype)
  else if x.shape ≠ y.shape then some (.shapeMismatch "x_add_y" x.shape y.shape)
  else if k.handle? x.dtype = none then some (.unsupportedDtype "x_add_y" x.dtype)
  else none

/-- Refused operands are found out before anything else is done. -/
lemma add_refused (P : Platform S σ F E) (h : k.refusal? x y = some e) (s : σ × Invoker S σ F) :
    k.add P x y s = .done (.error e, s) := by
  unfold refusal? at h
  by_cases htype : x.dtype = y.dtype
  · rw [if_neg (not_not.2 htype)] at h
    refine (Act.bind_done (Act.ensure_done htype _ s)).trans ?_
    by_cases hshape : x.shape = y.shape
    · rw [if_neg (not_not.2 hshape)] at h
      refine (Act.bind_done (Act.ensure_done hshape _ s)).trans ?_
      by_cases hkernel : k.handle? x.dtype = none
      · rw [if_pos hkernel] at h
        cases h
        rw [hkernel]
        rfl
      · rw [if_neg hkernel] at h
        cases h
    · rw [if_pos hshape] at h
      cases h
      exact Act.bind_error (Act.ensure_error hshape _ s)
  · rw [if_pos htype] at h
    cases h
    exact Act.bind_error (Act.ensure_error htype _ s)

end AddKernels

namespace Context

section

variable {S : Service} {σ F E T : Type} {x t : Buffer} {e : OperatorError}

def addKept (P : Platform S σ F E) (x t : Buffer) : ContextAct S σ F E T Buffer := do
  let kernels ← Act.view (·.2.add)
  onInvoker ((kernels.add P x t).mapError .operator)

lemma addKept_refused (P : Platform S σ F E) {q : σ × Context S σ F E T}
    (h : q.2.add.refusal? x t = some e) :
    addKept P x t q = .done (.error (.operator e), q) := by
  change (((q.2.add.add P x t (q.1, q.2.invoker)).bind _).bind _ : Program S _) = _
  rw [AddKernels.add_refused P h]
  rfl

/-- With refused operands the call is the sum, whatever that ends with, and then the error. -/
theorem allReduceAdd_refused (P : Platform S σ F E) (B : Backend S σ T)
    {s : σ × Context S σ F E T} (h : s.2.add.refusal? x t = some e) :
    allReduceAdd P B x t s = (allReduce P B t s).bind fun r =>
      .done (r.1.bind fun _ => .error (.operator e), r.2) := by
  change Act.bind (allReduce P B t) (fun _ => addKept P x t) s = _
  unfold Act.bind allReduce onShared
  cases s.2.shared with
  | none => rfl
  | some comm =>
    dsimp only
    rw [Program.bind_assoc, Program.bind_assoc]
    congr 1
    funext r
    obtain ⟨o, q⟩ := r
    -- the sum changes the platform and the link, and leaves the kernels of the context
    cases o with
    | ok _ => exact addKept_refused P h
    | error _ => rfl
    | fault _ => rfl

end

open SimulatedLink Communicator

variable {plus : Addition} {devices patience W r : Nat} {g : Bytes} {x t : Buffer}
  {e : OperatorError} {zs : List Nat} {contents : Nat → Bytes} {comm : Communicator SimulatedLink}
  {s : HostState × Context Net HostState HostFunction HostEvent SimulatedLink}

/-- Rank `r` in a group on the host platform, with operands that the addition refuses. The call
goes through the round of the sum, in which the rank posts its part to all other ranks and takes
theirs; it leaves the sum in its buffer and in the trace; and then it ends with the refusal. -/
theorem allReduceAdd_refuses_late [TensorLibrary] (laws : TensorLaws plus)
    (hcomm : s.2.shared = some comm) (hm : Member devices g W r (s.1, comm)) (hr : r < W)
    (hdevice : t.device = comm.link.device) (ht : t.dtype.hasTensor = true)
    (hstrided : Strided t.shape) (hheld : s.1.heap.Holds t (contents r))
    (hsize : ∀ p < W, Buffer.sizeOf? t.dtype t.shape = some (contents p).length)
    (hsum : Number.sumAll? plus t.dtype (fun p => Bytes.decodeWords t.dtype.size (contents p))
      (List.range' 1 (W - 1)) (Bytes.decodeWords t.dtype.size (contents 0)) = some zs)
    (hrefused : s.2.add.refusal? x t = some e) :
    Program.Follows g r (allReduceAdd (Host.platform devices) (backend patience) x t s)
      (Round.among W (sumTable contents) r).moves
      (.error (.operator e),
        ({ s.1 with
            heap := s.1.heap.write t (Bytes.encodeWords t.dtype.size zs)
            trace := s.1.trace ++ [.allReduce] }, s.2)) := by
  let after := written (noted (s.1, comm.link) .allReduce) t (Bytes.encodeWords t.dtype.size zs)
  have hrun : (Communicator.allReduce (Host.platform devices) transport t).Runs g r (s.1, comm)
      [Round.among W (sumTable contents) r] fun _ q => q = linkPart.put (s.1, comm) after := by
    refine .step (checkDevice_eq hdevice) (.step (stream_eq hm) (.within ?_))
    refine (SimulatedLink.runs_allReduce laws hm.link hr ht hstrided hheld hsize hsum).mono ?_
    rintro _ _ rfl
    rfl
  obtain ⟨_, _, hmoves, rfl⟩ := hrun
  rw [roundMoves] at hmoves
  have hback : ({ s.2 with shared := some comm } : Context _ _ _ _ _) = s.2 := by
    rw [← hcomm]
  rw [allReduceAdd_refused _ _ hrefused]
  refine Program.Follows.map (a := (.ok (), ((linkPart.put (s.1, comm) after).1, s.2))) ?_ rfl
  change Program.Follows g r (onShared _ s) _ _
  rw [onShared, hcomm]
  refine hmoves.map ?_
  rw [← hback]
  rfl

/-- Rank 0 of two, with a buffer of one number and a buffer of two. -/
def twoShapes (number : UInt8) (trace : Trace) :
    HostState × Context Net HostState HostFunction HostEvent SimulatedLink :=
  (⟨[⟨.host [number, 0, 0, 0], [], 1⟩, ⟨.host [1, 0, 0, 0, 2, 0, 0, 0], [], 1⟩], [], trace, []⟩,
    { settings := .none
      invoker := .create 1 [] .none
      add := ⟨[(.u32, ⟨0⟩)]⟩
      runningLocation := ⟨⟨1⟩⟩
      global := none
      shared := some ⟨⟨[], 2, 0, 0, 0, 0, []⟩, ⟨2, 0, 1, 0⟩⟩ })

open StandIn in
theorem allReduceAdd_refuses_late_two_shapes :
    Program.Follows [] 0
      (allReduceAdd (Host.platform 1) (backend 0) ⟨.u32, [2], 0, 1⟩ ⟨.u32, [1], 0, 0⟩
        (twoShapes 7 []))
      [.post 1 [7, 0, 0, 0], .take 1 [5, 0, 0, 0]]
      (.error (.operator (.shapeMismatch "x_add_y" [2] [1])), twoShapes 12 [.allReduce]) := by
  have hmember : Member 1 [] 2 0
      ((twoShapes 7 []).1, ⟨⟨[], 2, 0, 0, 0, 0, []⟩, ⟨2, 0, 1, 0⟩⟩) :=
    ⟨⟨rfl, rfl, rfl, rfl, rfl⟩, by decide, rfl, rfl⟩
  let parts (p : Nat) : Bytes := if p = 0 then [7, 0, 0, 0] else [5, 0, 0, 0]
  have hheld : (twoShapes 7 []).1.heap.Holds ⟨.u32, [1], 0, 0⟩ (parts 0) :=
    ⟨⟨[], 1, rfl⟩, by decide, by decide⟩
  have hsize : ∀ p < 2, Buffer.sizeOf? .u32 [1] = some (parts p).length := by decide
  have hsum : Number.sumAll? Number.add? .u32 (fun p => Bytes.decodeWords 4 (parts p))
      (List.range' 1 1) (Bytes.decodeWords 4 (parts 0)) = some [12] := by decide
  have hrefused : (twoShapes 7 []).2.add.refusal? ⟨.u32, [2], 0, 1⟩ ⟨.u32, [1], 0, 0⟩ =
      some (.shapeMismatch "x_add_y" [2] [1]) := by decide
  have hstrided : Strided [1] := rfl
  exact allReduceAdd_refuses_late (RowMajor.laws _) rfl hmember (by decide) rfl rfl hstrided hheld
    hsize hsum hrefused

open StandIn in
/-- Operands of two shapes are refused when the bytes have been posted to the other rank, the buffer
holds the sum and the trace shows it. -/
theorem allReduceAdd_posts_refused :
    let call := allReduceAdd (Host.platform 1) (backend 0) ⟨.u32, [2], 0, 1⟩ ⟨.u32, [1], 0, 0⟩
      (twoShapes 7 [])
    (∃ next, call = .ask (.post [] ⟨0, 1, [7, 0, 0, 0]⟩) next) ∧
      call.CanEnd
        (.error (.operator (.shapeMismatch "x_add_y" [2] [1])), twoShapes 12 [.allReduce]) :=
  ⟨⟨_, rfl⟩, .ask () (.ask (some [5, 0, 0, 0]) (.done _))⟩

end Context

end ExpertExchange
