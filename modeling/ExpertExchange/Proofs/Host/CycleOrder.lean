import ExpertExchange.Proofs.Host.PhaseOrder

/-!
# Cycles of a split pipeline in the trace

In a cycle the compute stream hands over a buffer at slot 0, a scatter brings the stages, each stage
is taken over at its slot, worked on and handed over again, and a gather brings the result, which is
taken over at slot 0. What a cycle leaves in the trace orders the work of the compute stream and the
transfers, however the trace goes on.
-/

namespace ExpertExchange

namespace Trace

variable {t t' u work : Trace} {d i n s slot : Nat}

/-- A visit to a stage: the length of the trace when the stage had been acquired, and when it was
about to be released. -/
structure Visit where
  stage : Nat
  acquired : Nat
  released : Nat

/-- What the compute stream writes down when it takes over a buffer at a slot. -/
def taking (slot : Nat) : Trace := [.eventWait slot .compute, .recordStream .compute]

def visiting (s : Nat) (work : Trace) : Trace := taking s ++ work ++ [.eventRecord s .compute]

/-- The visits lead from the first trace to the second. -/
inductive Visits : Trace → List Visit → Trace → Prop where
  | nil (t : Trace) : Visits t [] t
  | visit {t t' work : Trace} {s : Nat} {vs : List Visit} (hwork : ∀ x ∈ work, x.IsKernel)
      (h : Visits (t ++ visiting s work) vs t') :
      Visits t (⟨s, (t ++ taking s).length, (t ++ taking s ++ work).length⟩ :: vs) t'

variable {vs : List Visit} {v : Visit}

/-- A visit records the slot of its stage only. -/
lemma ne_record_of_visiting (hwork : ∀ x ∈ work, x.IsKernel) (hs : slot ≠ s) {e : TraceEvent}
    (he : e ∈ visiting s work) (kind : StreamKind) : e ≠ .eventRecord slot kind := by
  rcases List.mem_append.1 he with he | he
  · rcases List.mem_append.1 he with he | he
    · rintro rfl
      simp [taking] at he
    · exact (hwork e he).ne_record slot kind
  · rw [List.mem_singleton.1 he]
    rintro ⟨⟩
    exact hs rfl

/-- Visits add to the trace, and record no slots but those of their stages. -/
lemma Visits.extends (h : Visits t vs t') : ∃ u, t' = t ++ u ∧
    ∀ slot, slot ∉ vs.map (·.stage) → ∀ e ∈ u, ∀ kind, e ≠ .eventRecord slot kind := by
  induction h with
  | nil t => exact ⟨[], (List.append_nil t).symm, fun _ _ => nofun⟩
  | @visit t t' work s vs hwork _ ih =>
    obtain ⟨u, rfl, hu⟩ := ih
    refine ⟨visiting s work ++ u, List.append_assoc _ _ _, ?_⟩
    intro slot hslot e he kind
    rw [List.map_cons, List.mem_cons, not_or] at hslot
    rcases List.mem_append.1 he with he | he
    · exact ne_record_of_visiting hwork hslot.1 he kind
    · exact hu slot hslot.2 e he kind

lemma Visits.released_le (h : Visits t vs t') (hv : v ∈ vs) : v.released ≤ t'.length := by
  induction h with
  | nil t => cases hv
  | @visit t t' work s vs hwork hrest ih =>
    rcases List.mem_cons.1 hv with rfl | hv
    · obtain ⟨u, rfl, -⟩ := hrest.extends
      simp only [visiting, List.length_append]
      omega
    · exact ih hv

/-- What the slot of a stage stood for comes before what the compute stream does once it has taken
over the stage. -/
lemma Visits.arrived {M : Nat → Nat → Prop} (h : Visits t vs t')
    (hnodup : (vs.map (·.stage)).Nodup)
    (hcarried : ∀ v ∈ vs, ∀ n, M v.stage n → t.Carried d v.stage n) :
    ∀ v ∈ vs, ∀ n, M v.stage n → ∀ u i, (t' ++ u).ComputesAfter d v.acquired i →
      (t' ++ u).Before d n i := by
  induction h with
  | nil t => exact nofun
  | @visit t t' work s vs hwork hrest ih =>
    rw [List.map_cons, List.nodup_cons] at hnodup
    obtain ⟨hs, hnodup⟩ := hnodup
    intro v hv
    rcases List.mem_cons.1 hv with rfl | hv
    · intro n hn u i hi
      have hknown := ((hcarried _ List.mem_cons_self n hn).wait .compute).append
        [.recordStream .compute]
      obtain ⟨w, rfl, -⟩ := hrest.extends
      have hsplit : t ++ visiting s work ++ w ++ u =
          t ++ taking s ++ (work ++ [.eventRecord s .compute] ++ w ++ u) := by
        simp only [visiting, List.append_assoc]
      rw [List.append_assoc] at hknown
      rw [hsplit] at hi ⊢
      exact hknown _ i hi.1 hi.2
    · refine ih hnodup ?_ v hv
      intro v' hv' n hn
      refine (hcarried v' (List.mem_cons_of_mem _ hv') n hn).append ?_
      intro e he kind
      refine ne_record_of_visiting hwork ?_ he kind
      have hmem : v'.stage ∈ vs.map (·.stage) := List.mem_map_of_mem hv'
      intro heq
      exact hs (heq ▸ hmem)

/-- The slot of a visited stage stands for all that the compute stream did before it handed over the
stage. -/
lemma Visits.computed (h : Visits t vs t') (hnodup : (vs.map (·.stage)).Nodup) :
    ∀ v ∈ vs, ∀ i, t'.ComputesBefore d v.released i → t'.Carried d v.stage i := by
  induction h with
  | nil t => exact nofun
  | @visit t t' work s vs hwork hrest ih =>
    rw [List.map_cons, List.nodup_cons] at hnodup
    obtain ⟨hs, hnodup⟩ := hnodup
    intro v hv
    rcases List.mem_cons.1 hv with rfl | hv
    · rintro i ⟨hlt, hon⟩
      obtain ⟨w, rfl, hw⟩ := hrest.extends
      have hsplit : t ++ visiting s work ++ w =
          t ++ taking s ++ work ++ ([.eventRecord s .compute] ++ w) := by
        simp only [visiting, List.append_assoc]
      rw [hsplit, on_append_iff hlt] at hon
      have hrecorded := ((known_of_on hon).record s).append (hw s hs)
      rw [hsplit, ← List.append_assoc]
      exact hrecorded
    · exact ih hnodup v hv

/-- What a cycle's caller can see: the length of the trace when the fused buffer was about to be
released and when the result had been acquired, both exchanges, and the visits. -/
structure Moments where
  released : Nat
  scatter : Phase
  visits : List Visit
  gather : Phase
  taken : Nat

/-- The cycle leads from the first trace to the second. -/
inductive Moments.Leads : Moments → Trace → Trace → Prop where
  | cycle {t t' before uses seg uses' seg' after : Trace} {scatter gather : Phase}
      {visits : List Visit} (hscatter : scatter.Scatters (t ++ before ++ [.eventRecord 0 .compute])
        uses seg)
      (hvisits : Visits (t ++ before ++ [.eventRecord 0 .compute] ++ scattering uses seg) visits t')
      (hgather : gather.Gathers t' uses' seg') :
      Leads ⟨(t ++ before).length, scatter, visits, gather,
        (t' ++ gathering uses' seg' ++ taking 0).length⟩ t
        (t' ++ gathering uses' seg' ++ taking 0 ++ after)

/-- A cycle adds to the trace. -/
lemma Moments.Leads.extends {m : Moments} (h : m.Leads t t') : ∃ u, t' = t ++ u := by
  cases h with
  | cycle _ hvisits _ =>
    obtain ⟨w, rfl, -⟩ := hvisits.extends
    simp only [List.append_assoc]
    exact ⟨_, rfl⟩

/-- The order that a cycle needs: a transfer of a scatter comes after the work that was issued
before the fused buffer was released, and before the work on its stage; a transfer of a gather
comes after the work that was issued before its stage was released, and before the work on the
result. -/
structure Moments.Ordered (d : Nat) (t : Trace) (m : Moments) : Prop where
  scattered : ∀ n, m.scatter.Moves t n → ∃ s ∈ m.scatter.order, m.scatter.MovesStage t s n
  fused : ∀ i n, t.ComputesBefore d m.released i → m.scatter.Moves t n → t.Before d i n
  arrived : ∀ v ∈ m.visits, ∀ n i, m.scatter.MovesStage t v.stage n →
    t.ComputesAfter d v.acquired i → t.Before d n i
  gathered : ∀ n, m.gather.Moves t n → ∃ s ∈ m.gather.order, m.gather.MovesStage t s n
  computed : ∀ v ∈ m.visits, ∀ i n, t.ComputesBefore d v.released i →
    m.gather.MovesStage t v.stage n → t.Before d i n
  taken : ∀ n i, m.gather.Moves t n → t.ComputesAfter d m.taken i → t.Before d n i

/-- A scatter comes after the work that was issued before its slot was released. -/
lemma Phase.Scatters.fused {p : Phase} {base uses seg : Trace}
    (h : p.Scatters (base ++ [.eventRecord 0 .compute]) uses seg) (u : Trace) :
    let t := base ++ [.eventRecord 0 .compute] ++ scattering uses seg
    ∀ i n, (t ++ u).ComputesBefore d base.length i → p.Moves (t ++ u) n →
      (t ++ u).Before d i n := by
  intro t i n hi hm
  obtain ⟨hlt, hon⟩ := hi
  have hsplit : t ++ u = base ++ ([.eventRecord 0 .compute] ++ scattering uses seg ++ u) := by
    simp only [t, List.append_assoc]
  rw [hsplit, on_append_iff hlt] at hon
  rw [Phase.moves_append_iff (Nat.le_of_eq h.stop)] at hm
  exact h.first ((known_of_on hon).record 0) hm u

/-- The work on the result comes after the gather. -/
lemma Phase.Gathers.taken {p : Phase} {base uses seg : Trace} (h : p.Gathers base uses seg)
    (u : Trace) :
    let t := base ++ gathering uses seg ++ taking 0
    ∀ n i, p.Moves (t ++ u) n → (t ++ u).ComputesAfter d t.length i → (t ++ u).Before d n i := by
  intro t n i hm hi
  have hsplit : t ++ u = base ++ gathering uses seg ++ (taking 0 ++ u) := by
    simp only [t, List.append_assoc]
  rw [hsplit, Phase.moves_append_iff (Nat.le_of_eq h.stop)] at hm
  have hknown := ((h.carried hm).wait (d := d) .compute).append [.recordStream .compute]
  rw [List.append_assoc] at hknown
  exact hknown u i hi.1 hi.2

/-- A cycle is ordered, however the trace goes on. -/
theorem Moments.Leads.ordered {m : Moments} (h : m.Leads t t') (horder : m.scatter.order.Nodup)
    (hnodup : (m.visits.map (·.stage)).Nodup) (d : Nat) (u : Trace) : m.Ordered d (t' ++ u) := by
  cases h with
  | @cycle _ t' before uses seg uses' seg' after scatter gather visits hscatter hvisits hgather =>
    let t₂ := t ++ before ++ [.eventRecord 0 .compute] ++ scattering uses seg
    let t₄ := t' ++ gathering uses' seg'
    obtain ⟨w, ht', -⟩ := hvisits.extends
    have h₄ : t₄ ++ taking 0 ++ after ++ u = t₄ ++ (taking 0 ++ after ++ u) := by
      simp only [List.append_assoc]
    have h₃ : t₄ ++ taking 0 ++ after ++ u =
        t' ++ (gathering uses' seg' ++ taking 0 ++ after ++ u) := by
      simp only [t₄, List.append_assoc]
    have h₂ : t₄ ++ taking 0 ++ after ++ u =
        t₂ ++ (w ++ gathering uses' seg' ++ taking 0 ++ after ++ u) := by
      rw [h₃, ht']
      simp only [t₂, List.append_assoc]
    have hstop₂ : scatter.stop ≤ t₂.length := Nat.le_of_eq hscatter.stop
    have hstop₄ : gather.stop ≤ t₄.length := Nat.le_of_eq hgather.stop
    constructor
    · intro n hm
      rw [h₂, Phase.moves_append_iff hstop₂] at hm
      obtain ⟨s, hs, hstage⟩ := hscatter.staged hm
      refine ⟨s, hs, ?_⟩
      rw [h₂, Phase.movesStage_append_iff hstop₂]
      exact hstage
    · rw [h₂]
      exact hscatter.fused _
    · intro v hv n i hm hi
      rw [h₂, Phase.movesStage_append_iff hstop₂] at hm
      have hcarried : ∀ v ∈ visits, ∀ n, scatter.MovesStage t₂ v.stage n →
          t₂.Carried d v.stage n := fun v _ n hn => hscatter.carried horder hn
      rw [h₃] at hi ⊢
      exact hvisits.arrived hnodup hcarried v hv n hm _ i hi
    · intro n hm
      rw [h₄, Phase.moves_append_iff hstop₄] at hm
      obtain ⟨s, hs, hstage⟩ := hgather.staged hm
      refine ⟨s, hs, ?_⟩
      rw [h₄, Phase.movesStage_append_iff hstop₄]
      exact hstage
    · intro v hv i n hi hm
      have hle := hvisits.released_le hv
      rw [h₃] at hi
      obtain ⟨hlt, hon⟩ := hi
      rw [on_append_iff (Nat.lt_of_lt_of_le hlt hle)] at hon
      rw [h₄, Phase.movesStage_append_iff hstop₄] at hm
      rw [h₄]
      exact hgather.first (hvisits.computed hnodup v hv i ⟨hlt, hon⟩) hm _
    · rw [List.append_assoc (t' ++ gathering uses' seg' ++ taking 0)]
      exact hgather.taken _

end Trace

end ExpertExchange
