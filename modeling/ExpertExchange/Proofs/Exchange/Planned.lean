import ExpertExchange.Exchange.Hierarchy
import ExpertExchange.Proofs.Exchange.Admitted
import ExpertExchange.Proofs.Group.Rejected

/-!
# Layouts that were accepted

The layout of an exchange is computed from its arguments, and refused where these do not divide
evenly. What is known of an accepted layout is enough for all peers and ranges computed from it:
where the computation does not overflow, peers are ranks of the group, and ranges lie inside their
buffers.
-/

namespace ExpertExchange

lemma Word.mod_eq_ok {a b n : Nat} {ε : Type} (h : (mod a b : Outcome ε Nat) = .ok n) :
    b ≠ 0 ∧ n = a % b := by
  unfold mod at h
  by_cases hb : b = 0
  · rw [if_pos hb] at h
    cases h
  · rw [if_neg hb] at h
    cases h
    exact ⟨hb, rfl⟩

lemma Word.errorless_mod {a b : Nat} {ε : Type} : (mod a b : Outcome ε Nat).Errorless := by
  unfold mod
  by_cases hb : b = 0
  · rw [if_pos hb]
    exact nofun
  · rw [if_neg hb]
    exact .ok _

lemma Word.errorless_div {a b : Nat} {ε : Type} : (div a b : Outcome ε Nat).Errorless := by
  unfold div
  by_cases hb : b = 0
  · rw [if_pos hb]
    exact nofun
  · rw [if_neg hb]
    exact .ok _

lemma ByteRange.span_eq_ok {offset len : Nat} {r : ByteRange} {ε : Type}
    (h : (span offset len : Outcome ε ByteRange) = .ok r) : r = ⟨offset, offset + len⟩ := by
  obtain ⟨stop, hstop, hr⟩ := Outcome.bind_eq_ok_iff.1 h
  cases hr
  rw [Word.add_eq_ok hstop]

namespace Split

variable {total stages slices W capacity j stage n : Nat} {direction : Direction} {p : Split}
  {r : ByteRange} {ε : Type}

/-- What an accepted layout of `total` bytes among `W` ranks keeps to. -/
structure Planned (total W capacity : Nat) (p : Split) : Prop where
  stages_pos : 0 < p.stages
  stages_le : p.stages ≤ capacity
  world_pos : 0 < W
  worldSize : p.worldSize = W
  total : p.totalBytes = total

lemma refuses_create :
    (create total stages slices W capacity direction).Refuses ExchangeError.IsRejection := by
  refine .bind (.ensure _ trivial) ?_
  intro _
  refine .bind (.ensure _ trivial) ?_
  intro _
  refine .bind Word.errorless_mod.refuses ?_
  intro rest
  refine .bind (.ensure _ trivial) ?_
  intro _
  refine .bind (Outcome.Errorless.refuses (.orFault _)) ?_
  intro all
  refine .bind (.ensure _ trivial) ?_
  intro _
  exact .ok _

/-- An accepted layout has admissible counts, for at least one rank. -/
lemma admitted_of_create (h : create total stages slices W capacity direction = .ok p) :
    0 < W ∧ Admissible total stages slices W capacity ∧ stages * slices < Word.bound ∧
      p = ⟨stages, slices, W, total / (stages * slices), direction⟩ := by
  have hworld : 0 < W := by
    obtain ⟨_, -, hlater⟩ := Outcome.bind_eq_ok_iff.1 h
    obtain ⟨_, -, hlater⟩ := Outcome.bind_eq_ok_iff.1 hlater
    obtain ⟨rest, hrest, -⟩ := Outcome.bind_eq_ok_iff.1 hlater
    exact Nat.pos_of_ne_zero (Word.mod_eq_ok hrest).1
  exact ⟨hworld, ((verdict hworld total stages slices capacity direction).accepted p).1 h⟩

lemma planned_of_create (h : create total stages slices W capacity direction = .ok p) :
    Planned total W capacity p := by
  obtain ⟨hworld, hadmissible, -, rfl⟩ := admitted_of_create h
  exact {
    stages_pos := hadmissible.stages_pos
    stages_le := hadmissible.stages_le
    world_pos := hworld
    worldSize := rfl
    total := Nat.mul_div_cancel' hadmissible.slices_dvd }

lemma Planned.peer_lt (hp : Planned total W capacity p) (hj : j < p.slices)
    (h : (p.peer j : Outcome ε Nat) = .ok n) : n < W := by
  obtain ⟨product, hproduct, hn⟩ := Outcome.bind_eq_ok_iff.1 h
  cases hn
  rw [Word.mul_eq_ok hproduct, hp.worldSize]
  refine Nat.div_lt_of_lt_mul ?_
  rw [Nat.mul_comm p.slices]
  exact Nat.mul_lt_mul_of_pos_left hj hp.world_pos

lemma Planned.fusedRange_within (hp : Planned total W capacity p) (hj : j < p.slices)
    (hstage : stage < p.stages) (h : (p.fusedRange j stage : Outcome ε ByteRange) = .ok r) :
    r.Within total := by
  obtain ⟨before, hbefore, h⟩ := Outcome.bind_eq_ok_iff.1 h
  obtain ⟨index, hindex, h⟩ := Outcome.bind_eq_ok_iff.1 h
  obtain ⟨offset, hoffset, h⟩ := Outcome.bind_eq_ok_iff.1 h
  obtain rfl := Word.mul_eq_ok hbefore
  obtain rfl := Word.add_eq_ok hindex
  obtain rfl := Word.mul_eq_ok hoffset
  rw [ByteRange.span_eq_ok h, ← hp.total]
  refine ⟨Nat.le_add_right _ _, ?_⟩
  calc (j * p.stages + stage) * p.sliceSize + p.sliceSize
      = (j * p.stages + stage + 1) * p.sliceSize := (Nat.succ_mul _ _).symm
    _ ≤ (j + 1) * p.stages * p.sliceSize := by
        refine Nat.mul_le_mul_right _ ?_
        rw [Nat.succ_mul]
        omega
    _ ≤ p.slices * p.stages * p.sliceSize :=
        Nat.mul_le_mul_right _ (Nat.mul_le_mul_right _ hj)
    _ = p.totalBytes := by rw [Nat.mul_comm p.slices]; rfl

lemma stageRange_within (hj : j < p.slices) (h : (p.stageRange j : Outcome ε ByteRange) = .ok r) :
    r.Within p.stageBytes := by
  obtain ⟨offset, hoffset, h⟩ := Outcome.bind_eq_ok_iff.1 h
  obtain rfl := Word.mul_eq_ok hoffset
  rw [ByteRange.span_eq_ok h]
  refine ⟨Nat.le_add_right _ _, ?_⟩
  calc j * p.sliceSize + p.sliceSize
      = (j + 1) * p.sliceSize := (Nat.succ_mul _ _).symm
    _ ≤ p.stageBytes := Nat.mul_le_mul_right _ hj

end Split

/-- The place of a rank that the group has, on a device that the node has. -/
structure Topology.Valid (t : Topology) : Prop where
  rank_lt : t.rank < t.worldSize
  localRank_lt : t.localRank < t.localSize

lemma Topology.valid_of_create {worldSize rank localSize : Nat} {t : Topology} {ε : Type}
    (h : (create worldSize rank localSize : Outcome ε Topology) = .ok t) :
    t.Valid ∧ t.worldSize = worldSize := by
  have hensured : ∀ {c : Prop} [Decidable c] {reason : Option String} {u : Unit},
      (Outcome.ensureOrFault c reason : Outcome ε Unit) = .ok u → c := by
    intro c _ reason u hu
    unfold Outcome.ensureOrFault at hu
    by_cases hc : c
    · exact hc
    · rw [if_neg hc] at hu
      cases hu
  obtain ⟨_, -, h⟩ := Outcome.bind_eq_ok_iff.1 h
  obtain ⟨_, hrank, h⟩ := Outcome.bind_eq_ok_iff.1 h
  obtain ⟨_, hlocal, h⟩ := Outcome.bind_eq_ok_iff.1 h
  cases h
  exact ⟨⟨hensured hrank, Nat.mod_lt _ (hensured hlocal)⟩, rfl⟩

namespace Hierarchy

variable {total index count n g : Nat} {place : Topology} {h : Hierarchy} {r : ByteRange}
  {ε : Type}

/-- What an accepted layout of `total` bytes keeps to, in a group of `W` ranks. -/
structure Planned (total W : Nat) (h : Hierarchy) : Prop where
  worldSize : h.worldSize = W
  total : h.worldSize * h.sliceSize = total
  node_lt : h.nodeRank < h.nodes
  local_lt : h.localRank < h.localSize

lemma refuses_create : (create total place).Refuses ExchangeError.IsRejection := by
  refine .bind (.ensure _ trivial) ?_
  intro _
  refine .bind (.ensure _ trivial) ?_
  intro _
  exact .ok _

lemma planned_of_create (hplace : place.Valid) (hcreate : create total place = .ok h) :
    Planned total place.worldSize h := by
  obtain ⟨_, heven, hcreate⟩ := Outcome.bind_eq_ok_iff.1 hcreate
  obtain ⟨_, hnodes, hcreate⟩ := Outcome.bind_eq_ok_iff.1 hcreate
  cases hcreate
  have heven := Nat.dvd_of_mod_eq_zero (Outcome.ensure_eq_ok heven)
  have hnodes := Nat.dvd_of_mod_eq_zero (Outcome.ensure_eq_ok hnodes)
  have hworld : place.nodes * place.localSize = place.worldSize := Nat.div_mul_cancel hnodes
  exact {
    worldSize := hworld
    total := (congrArg (· * _) hworld).trans (Nat.mul_div_cancel' heven)
    node_lt := div_lt_of_block (hworld.symm ▸ hplace.rank_lt)
    local_lt := hplace.localRank_lt }

variable {W : Nat}

lemma Planned.intraPeer_lt (hp : Planned total W h) (hg : g < h.localSize)
    (hn : (h.intraPeer g : Outcome ε Nat) = .ok n) : n < W := by
  obtain ⟨base, hbase, hn⟩ := Outcome.bind_eq_ok_iff.1 hn
  obtain rfl := Word.mul_eq_ok hbase
  rw [Word.add_eq_ok hn, ← hp.worldSize]
  exact block_lt hp.node_lt hg

lemma Planned.interPeer_lt (hp : Planned total W h) (hg : g < h.nodes)
    (hn : (h.interPeer g : Outcome ε Nat) = .ok n) : n < W := by
  obtain ⟨base, hbase, hn⟩ := Outcome.bind_eq_ok_iff.1 hn
  obtain rfl := Word.mul_eq_ok hbase
  rw [Word.add_eq_ok hn, ← hp.worldSize]
  exact block_lt hg hp.local_lt

/-- Block `index` of blocks of `count` chunks, where the buffer has so many of them. -/
lemma Planned.block_within {blocks : Nat} (hp : Planned total W h) (hi : index < blocks)
    (hblocks : blocks * count = h.worldSize)
    (hr : (h.block count index : Outcome ε ByteRange) = .ok r) : r.Within total := by
  obtain ⟨len, hlen, hr⟩ := Outcome.bind_eq_ok_iff.1 hr
  obtain ⟨offset, hoffset, hr⟩ := Outcome.bind_eq_ok_iff.1 hr
  obtain rfl := Word.mul_eq_ok hlen
  obtain rfl := Word.mul_eq_ok hoffset
  rw [ByteRange.span_eq_ok hr, ← hp.total, ← hblocks]
  refine ⟨Nat.le_add_right _ _, ?_⟩
  calc index * (count * h.sliceSize) + count * h.sliceSize
      = (index + 1) * (count * h.sliceSize) := (Nat.succ_mul _ _).symm
    _ ≤ blocks * (count * h.sliceSize) := Nat.mul_le_mul_right _ hi
    _ = blocks * count * h.sliceSize := (Nat.mul_assoc _ _ _).symm

end Hierarchy

end ExpertExchange
