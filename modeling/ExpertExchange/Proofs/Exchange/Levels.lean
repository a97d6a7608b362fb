import ExpertExchange.Exchange.Hierarchy
import ExpertExchange.Proofs.Exchange.Regrouped
import ExpertExchange.Proofs.Group.Among

/-!
# The two levels of an exchange

With `N` nodes of `L` devices, rank `n * L + l` is device `l` of node `n`. A first round exchanges
blocks of `N` chunks within the nodes, a second one blocks of `L` chunks among the devices of one
number. With the chunks regrouped before each round, the two do what one round among all ranks
would do.
-/

namespace ExpertExchange

variable {α : Type} {N L size r s n l : Nat}

lemma flatMap_range_mul (f : Nat → List α) :
    (List.range (N * L)).flatMap f =
      (List.range N).flatMap fun p => (List.range L).flatMap fun k => f (p * L + k) := by
  rw [range_mul, List.flatMap_assoc]
  simp only [List.flatMap_map]

/-- Of all ranks those of one node. -/
lemma flatMap_node (hn : n < N) (f : Nat → α) :
    ((List.range (N * L)).flatMap fun q => if q / L = n then [f q] else []) =
      (List.range L).map fun k => f (n * L + k) := by
  rw [flatMap_range_mul, List.map_eq_flatMap]
  refine Eq.trans ?_ (flatMap_range_ite hn fun p => (List.range L).flatMap fun k => [f (p * L + k)])
  refine congrArg (List.flatMap · (List.range N)) (funext fun p => ?_)
  rw [← List.map_eq_flatMap]
  by_cases hp : p = n
  · rw [if_pos hp, List.map_eq_flatMap]
    refine List.flatMap_congr fun k hk => ?_
    rw [block_div (List.mem_range.1 hk), if_pos hp]
  · rw [if_neg hp, List.flatMap_eq_nil_iff]
    intro k hk
    rw [block_div (List.mem_range.1 hk), if_neg hp]

/-- Of all ranks the devices of one number. -/
lemma flatMap_rail (hl : l < L) (f : Nat → α) :
    ((List.range (N * L)).flatMap fun q => if q % L = l then [f q] else []) =
      (List.range N).map fun n => f (n * L + l) := by
  rw [flatMap_range_mul, List.map_eq_flatMap]
  refine congrArg (List.flatMap · (List.range N)) (funext fun p => ?_)
  refine Eq.trans ?_ (flatMap_range_ite hl fun k => [f (p * L + k)])
  refine List.flatMap_congr fun k hk => ?_
  rw [block_mod (List.mem_range.1 hk)]

namespace Hierarchy

variable {data c : Nat → Bytes}

/-- What goes from rank `p` to rank `q` in the round within the nodes. -/
def nodeTable (N L size : Nat) (c : Nat → Bytes) (p q : Nat) : List Bytes :=
  if p / L = q / L then [(c p).chunk (N * size) (q % L)] else []

/-- What goes from rank `p` to rank `q` in the round among devices of one number. -/
def railTable (L size : Nat) (c : Nat → Bytes) (p q : Nat) : List Bytes :=
  if p % L = q % L then [(c p).chunk (L * size) (q / L)] else []

lemma among_nodeTable (hr : r < N * L) :
    Round.among (N * L) (nodeTable N L size c) r =
      ⟨(List.range L).map fun k => (r / L * L + k, (c r).chunk (N * size) k),
        (List.range L).map fun k =>
          (r / L * L + k, (c (r / L * L + k)).chunk (N * size) (r % L))⟩ := by
  have hn : r / L < N := div_lt_of_block hr
  simp only [Round.among, nodeTable, map_ite_singleton, eq_comm (a := r / L)]
  rw [flatMap_node hn fun q => (q, (c r).chunk (N * size) (q % L)),
    flatMap_node hn fun p => (p, (c p).chunk (N * size) (r % L))]
  congr 1
  refine List.map_congr_left fun k hk => ?_
  rw [block_mod (List.mem_range.1 hk)]

lemma among_railTable (hl : r % L < L) :
    Round.among (N * L) (railTable L size c) r =
      ⟨(List.range N).map fun n => (n * L + r % L, (c r).chunk (L * size) n),
        (List.range N).map fun n =>
          (n * L + r % L, (c (n * L + r % L)).chunk (L * size) (r / L))⟩ := by
  simp only [Round.among, railTable, map_ite_singleton, eq_comm (a := r % L)]
  rw [flatMap_rail hl fun q => (q, (c r).chunk (L * size) (q / L)),
    flatMap_rail hl fun p => (p, (c p).chunk (L * size) (r / L))]
  congr 1
  refine List.map_congr_left fun k hk => ?_
  rw [block_div hl]

/-- The layout of rank `r` among `N` nodes of `L` devices, for chunks of `size` bytes. -/
def grid (N L size r : Nat) : Hierarchy := ⟨N, L, r / L, r % L, size⟩

lemma create_eq (hr : r < N * L) :
    create (N * L * size) ⟨N * L, r, L, r % L⟩ = .ok (grid N L size r) := by
  have hW : 0 < N * L := Nat.lt_of_le_of_lt (Nat.zero_le r) hr
  have hL : 0 < L := Nat.pos_of_mul_pos_left hW
  have heven : N * L * size % (N * L) = 0 := Nat.mul_mod_right _ _
  have hnodes : N * L % L = 0 := Nat.mul_mod_left _ _
  simp only [create, Outcome.ensure, heven, hnodes, if_true, Outcome.bind, Topology.nodes,
    Topology.nodeRank, Nat.mul_div_cancel N hL, Nat.mul_div_cancel_left size hW, grid]

variable {ε : Type} {count i k : Nat}

lemma block_eq (hi : i < k) (hsmall : k * count * size < Word.bound) :
    ((grid N L size r).block count i : Outcome ε ByteRange) =
      .ok ⟨i * count * size, i * count * size + count * size⟩ := by
  have hend : (i + 1) * count * size ≤ k * count * size :=
    Nat.mul_le_mul_right size (Nat.mul_le_mul_right count hi)
  rw [Nat.succ_mul, Nat.add_mul] at hend
  have hoffset : i * (count * size) = i * count * size := (Nat.mul_assoc i count size).symm
  simp only [block, grid, Word.mul_eq (show count * size < Word.bound by omega), Outcome.bind,
    Word.mul_eq (show i * (count * size) < Word.bound by omega)]
  rw [hoffset]
  exact ByteRange.span_eq (by omega)

lemma intraPeer_eq (hr : r < N * L) (hl : l < L) (hsmall : N * L < Word.bound) :
    ((grid N L size r).intraPeer l : Outcome ε Nat) = .ok (r / L * L + l) := by
  have hpeer : r / L * L + l < N * L := block_lt (div_lt_of_block hr) hl
  simp only [intraPeer, grid, Word.mul_eq (show r / L * L < Word.bound by omega), Outcome.bind]
  exact Word.add_eq (by omega)

lemma interPeer_eq (hr : r < N * L) (hn : n < N) (hsmall : N * L < Word.bound) :
    ((grid N L size r).interPeer n : Outcome ε Nat) = .ok (n * L + r % L) := by
  have hL : 0 < L := Nat.pos_of_mul_pos_left (Nat.lt_of_le_of_lt (Nat.zero_le r) hr)
  have hpeer : n * L + r % L < N * L := block_lt hn (Nat.mod_lt r hL)
  simp only [interPeer, grid, Word.mul_eq (show n * L < Word.bound by omega), Outcome.bind]
  exact Word.add_eq (by omega)

/-- What the second buffer of rank `r` holds once the chunks are grouped by their device. -/
def byDevice (N L size : Nat) (data : Nat → Bytes) (r : Nat) : Bytes :=
  Regroup.regrouped size L N (data r) (List.replicate (N * L * size) 0)

/-- What the first buffer of rank `r` holds after the round within the nodes. -/
def atDevice (N L size : Nat) (data : Nat → Bytes) (r : Nat) : Bytes :=
  Bytes.withBlocks size L (fun g => g * N)
    (fun g => (byDevice N L size data (r / L * L + g)).chunk (N * size) (r % L)) (data r)

/-- What the second buffer of rank `r` holds once the chunks are grouped by their node. -/
def byNode (N L size : Nat) (data : Nat → Bytes) (r : Nat) : Bytes :=
  Regroup.regrouped size N L (atDevice N L size data r) (byDevice N L size data r)

/-- What the first buffer of rank `r` holds after the round among the devices of its number. -/
def atNode (N L size : Nat) (data : Nat → Bytes) (r : Nat) : Bytes :=
  Bytes.withBlocks size N (fun n => n * L)
    (fun n => (byNode N L size data (n * L + r % L)).chunk (L * size) (r / L))
    (atDevice N L size data r)

/-- What a buffer of rank `r` holds when every rank has sent its chunk directly. -/
def direct (W size : Nat) (data : Nat → Bytes) (r : Nat) : Bytes :=
  Bytes.withBlocks size W (fun p => p) (fun p => (data p).chunk size r)
    (List.replicate (W * size) 0)

section Levels

variable (hlength : ∀ p < N * L, (data p).length = N * L * size)

include hlength

lemma length_byDevice (hr : r < N * L) : (byDevice N L size data r).length = N * L * size := by
  have hgrid : L * N * size = N * L * size := by rw [Nat.mul_comm L]
  rw [byDevice, Regroup.length_regrouped (by rw [hgrid, hlength r hr])
    (by rw [hgrid, List.length_replicate]), List.length_replicate]

lemma chunk_byDevice (hr : r < N * L) (hl : l < L) (hn : n < N) :
    (byDevice N L size data r).chunk size (l * N + n) = (data r).chunk size (n * L + l) := by
  have hgrid : L * N * size = N * L * size := by rw [Nat.mul_comm L]
  rw [byDevice, Nat.mul_comm l, Nat.mul_comm n]
  exact Regroup.chunk_regrouped (by rw [hgrid, hlength r hr])
    (by rw [hgrid, List.length_replicate]) hl hn

lemma blocks_atDevice (hr : r < N * L) :
    Bytes.Blocks size N L (fun g => g * N)
      (fun g => (byDevice N L size data (r / L * L + g)).chunk (N * size) (r % L)) (data r) := by
  have hL : 0 < L := Nat.pos_of_mul_pos_left (Nat.lt_of_le_of_lt (Nat.zero_le r) hr)
  refine Bytes.blocks_in_a_row (fun g hg => Bytes.length_chunk ?_) ?_
  · rw [length_byDevice hlength (block_lt (div_lt_of_block hr) hg), ← Nat.mul_assoc, Nat.mul_comm N]
    exact Nat.mul_le_mul_right size (Nat.mul_le_mul_right N (Nat.mod_lt r hL))
  · rw [hlength r hr, Nat.mul_comm N]

lemma length_atDevice (hr : r < N * L) : (atDevice N L size data r).length = N * L * size := by
  rw [atDevice, (blocks_atDevice hlength hr).length_withBlocks, hlength r hr]

/-- After the round within the nodes a rank has the chunks for its device number, of all ranks of
its node. -/
lemma chunk_atDevice (hr : r < N * L) (hl : l < L) (hn : n < N) :
    (atDevice N L size data r).chunk size (l * N + n) =
      (data (r / L * L + l)).chunk size (n * L + r % L) := by
  have hneighbour := block_lt (div_lt_of_block hr) hl
  have hmod : r % L < L := Nat.mod_lt r (by omega)
  rw [atDevice, (blocks_atDevice hlength hr).chunk_inside hl hn, Bytes.chunk_chunk hn,
    chunk_byDevice hlength hneighbour hmod hn]

lemma length_byNode (hr : r < N * L) : (byNode N L size data r).length = N * L * size := by
  rw [byNode, Regroup.length_regrouped (by rw [length_atDevice hlength hr])
    (by rw [length_byDevice hlength hr]), length_byDevice hlength hr]

lemma chunk_byNode (hr : r < N * L) (hl : l < L) (hn : n < N) :
    (byNode N L size data r).chunk size (n * L + l) =
      (data (r / L * L + l)).chunk size (n * L + r % L) := by
  rw [← chunk_atDevice hlength hr hl hn, byNode, Nat.mul_comm n, Nat.mul_comm l]
  exact Regroup.chunk_regrouped (by rw [length_atDevice hlength hr])
    (by rw [length_byDevice hlength hr]) hn hl

lemma blocks_atNode (hr : r < N * L) :
    Bytes.Blocks size L N (fun n => n * L)
      (fun n => (byNode N L size data (n * L + r % L)).chunk (L * size) (r / L))
      (atDevice N L size data r) := by
  have hL : 0 < L := Nat.pos_of_mul_pos_left (Nat.lt_of_le_of_lt (Nat.zero_le r) hr)
  refine Bytes.blocks_in_a_row (fun n hn => Bytes.length_chunk ?_) (length_atDevice hlength hr)
  rw [length_byNode hlength (block_lt hn (Nat.mod_lt r hL)), ← Nat.mul_assoc]
  exact Nat.mul_le_mul_right size (Nat.mul_le_mul_right L (div_lt_of_block hr))

lemma length_atNode (hr : r < N * L) : (atNode N L size data r).length = N * L * size := by
  rw [atNode, (blocks_atNode hlength hr).length_withBlocks, length_atDevice hlength hr]

/-- After both rounds a rank has the chunks for it, of all ranks. -/
lemma chunk_atNode (hr : r < N * L) (hs : s < N * L) :
    (atNode N L size data r).chunk size s = (data s).chunk size r := by
  have hL : 0 < L := Nat.pos_of_mul_pos_left (Nat.lt_of_le_of_lt (Nat.zero_le r) hr)
  have hn : s / L < N := div_lt_of_block hs
  have hl : s % L < L := Nat.mod_lt s hL
  have hmod : r % L < L := Nat.mod_lt r hL
  have hpeer : s / L * L + r % L < N * L := block_lt hn hmod
  calc (atNode N L size data r).chunk size s
      = (atNode N L size data r).chunk size (s / L * L + s % L) := by rw [Nat.div_add_mod']
    _ = (byNode N L size data (s / L * L + r % L)).chunk size (r / L * L + s % L) := by
        rw [atNode, (blocks_atNode hlength hr).chunk_inside hn hl, Bytes.chunk_chunk hl]
    _ = (data (s / L * L + s % L)).chunk size (r / L * L + r % L) := by
        rw [chunk_byNode hlength hpeer hl (div_lt_of_block hr), block_div hmod, block_mod hmod]
    _ = (data s).chunk size r := by rw [Nat.div_add_mod', Nat.div_add_mod']

end Levels

section Direct

variable {W : Nat} (hlength : ∀ p < W, (data p).length = W * size)

include hlength

lemma blocks_direct (hr : r < W) :
    Bytes.Blocks size 1 W (fun p => p) (fun p => (data p).chunk size r)
      (List.replicate (W * size) 0) where
  length p hp := by
    rw [Nat.one_mul]
    refine Bytes.length_chunk ?_
    rw [hlength p hp]
    exact Nat.mul_le_mul_right size hr
  fits p hp := by
    rw [List.length_replicate]
    exact Nat.mul_le_mul_right size hp
  apart p _ p' _ hne := by omega

lemma length_direct (hr : r < W) : (direct W size data r).length = W * size := by
  rw [direct, (blocks_direct hlength hr).length_withBlocks, List.length_replicate]

lemma chunk_direct (hr : r < W) (hs : s < W) :
    (direct W size data r).chunk size s = (data s).chunk size r := by
  have hblocks := blocks_direct hlength hr
  have hchunk := hblocks.chunk_inside hs Nat.zero_lt_one
  rw [Nat.add_zero] at hchunk
  rw [direct, hchunk]
  exact Bytes.chunk_zero_of_length ((hblocks.length s hs).trans (Nat.one_mul size))

end Direct

/-- Two rounds do what one round does. -/
theorem atNode_eq_direct (hlength : ∀ p < N * L, (data p).length = N * L * size) (hr : r < N * L) :
    atNode N L size data r = direct (N * L) size data r := by
  refine Bytes.ext_chunk (length_atNode hlength hr) (length_direct hlength hr) fun s hs => ?_
  rw [chunk_atNode hlength hr hs, chunk_direct hlength hr hs]

end Hierarchy

end ExpertExchange
