import ExpertExchange.Proofs.Group.Among
import ExpertExchange.Proofs.Group.Checks
import ExpertExchange.Proofs.Group.Exchanged
import ExpertExchange.Proofs.Kernel.Provided

/-!
# Members of a simulated group

A member is a communicator of a simulated group on the host platform. Its collectives change
nothing but what some buffers hold, so it is a member after them; each of their rounds sends from
one buffer and fills one.
-/

namespace ExpertExchange

namespace Communicator

open SimulatedLink

variable {devices W r : Nat} {g : Bytes} {touched touched' : Nat → Prop}
  {q q' q'' : HostState × Communicator SimulatedLink} {src dst : Buffer} {c d : Bytes}

/-- Rank `r` of the group `g` of `W` ranks, between two collectives. -/
structure Member (devices : Nat) (g : Bytes) (W r : Nat)
    (q : HostState × Communicator SimulatedLink) : Prop where
  link : q.2.link.Idle g W r
  device_lt : q.2.link.device < devices
  worldSize : q.2.topology.worldSize = W
  rank : q.2.topology.rank = r

/-- The communicator and the kernels are as they were, and so are all buffers but those of the
touched cells. -/
structure Kept (touched : Nat → Prop) (q q' : HostState × Communicator SimulatedLink) : Prop where
  comm : q'.2 = q.2
  kernels : q'.1.kernels = q.1.kernels
  heap : Heap.Keeps touched q.1.heap q'.1.heap

lemma Kept.refl (q : HostState × Communicator SimulatedLink) : Kept touched q q :=
  ⟨rfl, rfl, .refl _⟩

lemma Kept.trans (h : Kept touched q q') (h' : Kept touched q' q'') : Kept touched q q'' :=
  ⟨h'.comm.trans h.comm, h'.kernels.trans h.kernels, h.heap.trans h'.heap⟩

lemma Kept.mono (h : Kept touched q q')
    (ht : ∀ i, i < q.1.heap.length → touched i → touched' i) : Kept touched' q q' :=
  { h with heap := h.heap.mono ht }

lemma Member.of_kept (hm : Member devices g W r q) (h : Kept touched q q') :
    Member devices g W r q' :=
  ⟨h.comm ▸ hm.link, h.comm ▸ hm.device_lt, h.comm ▸ hm.worldSize, h.comm ▸ hm.rank⟩

def ownStream (q : HostState × Communicator SimulatedLink) (kind : StreamKind) : Stream :=
  ⟨q.2.link.device, kind, 0⟩

/-- Over any transport that knows its device. -/
lemma streamOn_eq {X : Transport Net HostState SimulatedLink} {kind : StreamKind}
    (hX : X.device = (·.device)) (hm : Member devices g W r q) :
    stream (Host.platform devices) X kind q = .done (.ok (ownStream q kind), q) := by
  have hstream : (Host.platform devices : Platform Net _ _ _).stream q.2.link.device kind q.1 =
      .done (.ok (ownStream q kind), q.1) := Act.bind_done (Invoker.hostCheckDevice_eq hm.device_lt)
  change Program.bind (Program.bind
    ((Host.platform devices : Platform Net _ _ _).stream (X.device q.2.link) kind q.1) _) _ = _
  rw [hX, hstream]
  rfl

lemma stream_eq [TensorLibrary] {kind : StreamKind} (hm : Member devices g W r q) :
    stream (Host.platform devices) transport kind q = .done (.ok (ownStream q kind), q) :=
  streamOn_eq rfl hm

/-- A round given by a table of what goes from whom to whom. -/
lemma runs_among [TensorLibrary] {kind : StreamKind} {act : LinkAct Unit}
    {out : Nat → Nat → List Bytes} {sends : Nat → List (Nat × ByteRange)}
    {parcels : Nat → List Parcel} (hm : Member devices g W r q) (hc : q.1.heap.Holds src c)
    (hd : q.1.heap.Holds dst d)
    (hact : Queues W kind act ((List.range W).flatMap fun p =>
      (sends p).map (.sending src) ++ (parcels p).map (.receiving dst)))
    (hsends : ∀ p < W, (sends p).map (fun x => (x.1, c.slice x.2)) = (out r p).map (p, ·))
    (hparcels : ∀ p < W, (parcels p).map (fun x => (x.peer, x.payload)) = (out p r).map (p, ·))
    (hroom : ∀ p < W, ∀ x ∈ sends p, x.2.Within c.length)
    (hfit : ∀ p < W, ∀ x ∈ parcels p, x.Fits d.length) :
    (onLink (inRound transport act)).Runs g r q [Round.among W out r] fun _ q' =>
      Kept (· = dst.cell) q q' ∧
        q'.1.heap.Holds dst (d.overwriteAll (placed ((List.range W).flatMap parcels))) ∧
        q'.1.trace = q.1.trace ++
          (.groupStart :: roundEvents kind sends parcels (List.range W) ++ [.groupEnd]) := by
  have hfits : ∀ p ∈ List.range W, ∀ x ∈ parcels p, x.Fits d.length := fun p hp =>
    hfit p (List.mem_range.1 hp)
  have hround := runs_inRound (s := linkPart.get q) hm.link hc hd hact
    (fun p hp => hroom p (List.mem_range.1 hp)) hfits
  have hposts : ((List.range W).flatMap sends).map (fun x => (x.1, c.slice x.2)) =
      (List.range W).flatMap fun p => (out r p).map (p, ·) := by
    rw [List.map_flatMap]
    exact List.flatMap_congr fun p hp => hsends p (List.mem_range.1 hp)
  have htakes : ((List.range W).flatMap parcels).map (fun x => (x.peer, x.payload)) =
      (List.range W).flatMap fun p => (out p r).map (p, ·) := by
    rw [List.map_flatMap]
    exact List.flatMap_congr fun p hp => hparcels p (List.mem_range.1 hp)
  rw [hposts, htakes] at hround
  refine .within (hround.mono ?_)
  rintro _ _ rfl
  refine ⟨⟨rfl, rfl, Heap.keeps_write _ _ _⟩, hd.written (length_placed fun x hx => ?_), ?_⟩
  · obtain ⟨p, hp, hx⟩ := List.mem_flatMap.1 hx
    exact hfits p hp x hx
  · exact List.append_assoc _ _ _

end Communicator

end ExpertExchange
