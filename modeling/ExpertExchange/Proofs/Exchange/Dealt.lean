import ExpertExchange.Proofs.Exchange.Participant

/-!
# Rounds of a participant

What one round does to a participant, and in particular a round that deals out slices of one size,
the same number to each rank.
-/

namespace ExpertExchange

namespace Scheduler

open SimulatedLink

variable {devices W L r m size : Nat} {g : Bytes} {e : HostEngine} {src dst : Buffer} {c d : Bytes}
  {kind : StreamKind} {α : Type} {act : LinkAct Unit} {xs : List α}
  {sends : α → List (Nat × ByteRange)} {parcels : α → List Parcel}

/-- A round sends parts of what one buffer holds, and puts what arrives into one buffer. -/
lemma runs_round [TensorLibrary] (hp : Participant devices g W L r e) (hc : e.1.heap.Holds src c)
    (hd : e.1.heap.Holds dst d)
    (hact : Queues W kind act (xs.flatMap fun x =>
      (sends x).map (.sending src) ++ (parcels x).map (.receiving dst)))
    (hroom : ∀ x ∈ xs, ∀ m ∈ sends x, m.2.Within c.length)
    (hfit : ∀ x ∈ xs, ∀ p ∈ parcels x, p.Fits d.length) :
    (onLink (Communicator.inRound transport act)).Runs g r e
      [⟨(xs.flatMap sends).map fun x => (x.1, c.slice x.2),
        (xs.flatMap parcels).map fun p => (p.peer, p.payload)⟩]
      fun _ e' => Leaves (· = dst.cell) e e' ∧ e'.1.heap.length = e.1.heap.length ∧
        e'.1.heap.Holds dst (d.overwriteAll (placed (xs.flatMap parcels))) := by
  have hround := runs_inRound (s := linkPart.get e) hp.link hc hd hact hroom hfit
  refine .within (hround.mono ?_)
  rintro _ _ rfl
  have hfits : ∀ p ∈ xs.flatMap parcels, p.Fits d.length := by
    intro p hp
    obtain ⟨x, hx, hpx⟩ := List.mem_flatMap.1 hp
    exact hfit x hx p hpx
  refine ⟨⟨rfl, rfl, rfl, rfl, ?_, Heap.keeps_write _ _ _⟩, ?_, hd.written (length_placed hfits)⟩
  · exact stillProvides_platform (e := e) rfl
  · exact List.length_modify _ _ _

/-- A round of `k` parts of `len` bytes each: part `j` goes to a peer from its place in the sending
buffer, and the place of part `j` in the receiving buffer is filled by what the same peer sends. -/
lemma runs_parts [TensorLibrary] {k len : Nat} {peer : Nat → Nat} {sent new : Nat → Bytes}
    {f : Nat → LinkAct Unit} (source target : Nat → Nat)
    (hp : Participant devices g W L r e) (hc : e.1.heap.Holds src c)
    (hd : e.1.heap.Holds dst d)
    (hf : ∀ j < k, Queues W kind (f j)
      [.sending src (peer j, ⟨source j * size, source j * size + len⟩),
        .receiving dst ⟨peer j, ⟨target j * size, target j * size + len⟩, new j⟩])
    (hsent : ∀ j < k, c.slice ⟨source j * size, source j * size + len⟩ = sent j)
    (hnew : ∀ j < k, (new j).length = len) (hroom : ∀ j < k, source j * size + len ≤ c.length)
    (hfit : ∀ j < k, target j * size + len ≤ d.length) :
    (onLink (Communicator.inRound transport (Act.forEach (List.range k) f))).Runs g r e
      [⟨(List.range k).map fun j => (peer j, sent j), (List.range k).map fun j => (peer j, new j)⟩]
      fun _ e' => Leaves (· = dst.cell) e e' ∧ e'.1.heap.length = e.1.heap.length ∧
        e'.1.heap.Holds dst (Bytes.withBlocks size k target new d) := by
  let sends (j : Nat) : List (Nat × ByteRange) :=
    [(peer j, ⟨source j * size, source j * size + len⟩)]
  let parcels (j : Nat) : List Parcel :=
    [⟨peer j, ⟨target j * size, target j * size + len⟩, new j⟩]
  have hqueues : Queues W kind (Act.forEach (List.range k) f) ((List.range k).flatMap
      fun j => (sends j).map (.sending src) ++ (parcels j).map (.receiving dst)) :=
    .forEach fun j hj => hf j (List.mem_range.1 hj)
  have hfits : ∀ j ∈ List.range k, ∀ p ∈ parcels j, p.Fits d.length := by
    intro j hj p hp
    have hj := List.mem_range.1 hj
    obtain rfl := List.mem_singleton.1 hp
    exact ⟨by simp [hnew j hj, ByteRange.length], Nat.le_add_right _ _, hfit j hj⟩
  have hrooms : ∀ j ∈ List.range k, ∀ m ∈ sends j, m.2.Within c.length := by
    intro j hj m hm
    obtain rfl := List.mem_singleton.1 hm
    exact ⟨Nat.le_add_right _ _, hroom j (List.mem_range.1 hj)⟩
  have hround := runs_round hp hc hd hqueues hrooms hfits
  have hposts : ((List.range k).flatMap sends).map (fun x => (x.1, c.slice x.2)) =
      (List.range k).map fun j => (peer j, sent j) := by
    rw [← List.map_eq_flatMap, List.map_map]
    refine List.map_congr_left fun j hj => ?_
    exact congrArg (Prod.mk (peer j)) (hsent j (List.mem_range.1 hj))
  have htakes : ((List.range k).flatMap parcels).map (fun p => (p.peer, p.payload)) =
      (List.range k).map fun j => (peer j, new j) := by
    rw [← List.map_eq_flatMap, List.map_map]
    rfl
  have hplaced : placed ((List.range k).flatMap parcels) =
      (List.range k).map fun j => (target j * size, new j) := by
    rw [placed, ← List.map_eq_flatMap, List.map_map]
    rfl
  rw [hposts, htakes, hplaced] at hround
  exact hround

variable {slice : Nat → Nat → Nat → Bytes} {source target : Nat → Nat} {f : Nat → LinkAct Unit}

/-- The transfers of slice `j`, of `m` for each rank: it is sent from its place to its rank, and its
place is filled by what that rank sends. -/
def ExchangesSlices (W m size r : Nat) (kind : StreamKind) (src dst : Buffer)
    (source target : Nat → Nat) (slice : Nat → Nat → Nat → Bytes) (f : Nat → LinkAct Unit) : Prop :=
  ∀ j < W * m, Queues W kind (f j)
    [.sending src (j / m, ⟨source j * size, source j * size + size⟩),
      .receiving dst ⟨j / m, ⟨target j * size, target j * size + size⟩, slice (j / m) r (j % m)⟩]

/-- The messages of a round that deals out slices. -/
lemma among_dealt (slice : Nat → Nat → Nat → Bytes) (r : Nat) :
    Round.among W (fun p q => (List.range m).map (slice p q)) r =
      ⟨(List.range (W * m)).map fun j => (j / m, slice r (j / m) (j % m)),
        (List.range (W * m)).map fun j => (j / m, slice (j / m) r (j % m))⟩ := by
  rw [map_dealt, map_dealt (fun p => slice p r)]
  rfl

/-- A round that deals out slices. Slice `k` for rank `q` is `slice r q k`; it is the chunk at its
source of what the sending buffer holds. -/
lemma runs_dealt [TensorLibrary] (slice : Nat → Nat → Nat → Bytes)
    (hp : Participant devices g W L r e) (hm : 0 < m) (hc : e.1.heap.Holds src c)
    (hd : e.1.heap.Holds dst d) (hf : ExchangesSlices W m size r kind src dst source target slice f)
    (hslice : ∀ j < W * m, c.chunk size (source j) = slice r (j / m) (j % m))
    (hlength : ∀ p < W, ∀ k < m, (slice p r k).length = size)
    (hroom : ∀ j < W * m, source j * size + size ≤ c.length)
    (hfit : ∀ j < W * m, target j * size + size ≤ d.length) :
    (onLink (Communicator.inRound transport (Act.forEach (List.range (W * m)) f))).Runs g r e
      [Round.among W (fun p q => (List.range m).map (slice p q)) r]
      fun _ e' => Leaves (· = dst.cell) e e' ∧ e'.1.heap.length = e.1.heap.length ∧
        e'.1.heap.Holds dst (Bytes.withBlocks size (W * m) target
          (fun j => slice (j / m) r (j % m)) d) := by
  rw [among_dealt]
  refine runs_parts source target hp hc hd hf hslice (fun j hj => ?_) hroom hfit
  exact hlength (j / m) (div_lt_of_block hj) (j % m) (Nat.mod_lt j hm)

end Scheduler

end ExpertExchange
