import ExpertExchange.Proofs.Act.Ends
import ExpertExchange.Proofs.Kernel.Provided

/-!
# How a kernel is fetched

A fetch is refused for its handle or its device, finds its slot filled, or compiles. Compiling
fills the slot when it succeeds and leaves the cache to the closure when it does not. `Fetches`
lists these four ways, with what the closure was run on and what it ended with; a fetch ends in
one of them, and every one of them is an end of it.
-/

namespace ExpertExchange

namespace KernelCache

variable {S : Service} {F τ : Type} {c : KernelCache F} {handle : KernelHandle} {device : Nat}

lemma slot_of_unknown (h : c.size ≤ handle.index) :
    c.slot handle device = .error (.unknownHandle handle) := by
  have hnone : c.kernels[handle.index]? = none := by simpa [size] using h
  simp [slot, get, hnone, Outcome.orError, Outcome.bind]

lemma slot_of_invalid {k : CachedKernel F} (hk : c.kernels[handle.index]? = some k)
    (h : k.slots.length ≤ device) :
    c.slot handle device = .error (.invalidDevice device c.deviceCount) := by
  have hnone : k.slots[device]? = none := by simpa using h
  simp [slot, get, hk, hnone, Outcome.orError, Outcome.bind]

/-- What a cache says about a slot. -/
lemma slot_cases (c : KernelCache F) (handle : KernelHandle) (device : Nat) :
    (c.size ≤ handle.index ∧ c.slot handle device = .error (.unknownHandle handle)) ∨
    (∃ k, c.kernels[handle.index]? = some k ∧ k.slots.length ≤ device ∧
      c.slot handle device = .error (.invalidDevice device c.deviceCount)) ∨
    ∃ k filled, c.kernels[handle.index]? = some k ∧ k.slots[device]? = some filled ∧
      c.slot handle device = .ok (k.source, filled) := by
  cases hk : c.kernels[handle.index]? with
  | none =>
    left
    have hlen : c.size ≤ handle.index := by simpa [size] using hk
    exact ⟨hlen, slot_of_unknown hlen⟩
  | some k =>
    right
    cases hs : k.slots[device]? with
    | none =>
      left
      have hlen : k.slots.length ≤ device := by simpa using hs
      exact ⟨k, rfl, hlen, slot_of_invalid hk hlen⟩
    | some filled =>
      right
      exact ⟨k, filled, rfl, hs, slot_eq_iff.2 ⟨k.slots, hk, hs⟩⟩

lemma getElem?_fill (handle handle' : KernelHandle) (device : Nat) (f : F) :
    (c.fill handle' device f).kernels[handle.index]? =
      c.kernels[handle.index]?.map fun k => if handle' = handle then
        { k with slots := k.slots.modify device fun s => s.or (some f) } else k := by
  cases handle
  cases handle'
  simp only [fill, List.getElem?_modify, KernelHandle.mk.injEq]
  split <;> simp_all

/-- What a cache says about a slot after some slot is filled. -/
lemma slot_fill_eq (handle' : KernelHandle) (device' : Nat) (f : F) :
    (c.fill handle' device' f).slot handle device = (c.slot handle device).bind fun x =>
      .ok (x.1, if handle' = handle ∧ device' = device then x.2.or (some f) else x.2) := by
  rcases slot_cases c handle device with ⟨hlen, h⟩ | ⟨k, hk, hlen, h⟩ | ⟨k, filled, -, -, h⟩
  · rw [h]
    exact slot_of_unknown (by simpa [size, fill] using hlen)
  · rw [h]
    have hk' := getElem?_fill (c := c) handle handle' device' f
    rw [hk] at hk'
    refine slot_of_invalid hk' ?_
    split <;> simpa using hlen
  · rw [slot_fill h, h]
    rfl

/-- What a cache says about a slot after a source is registered: the new source has an empty slot
on every device, and the other slots are as they were. -/
lemma slot_insert_eq (source : KernelSource) :
    (c.insert source).2.slot handle device =
      if handle.index = c.size then
        if device < c.deviceCount then .ok (source, none)
        else .error (.invalidDevice device c.deviceCount)
      else c.slot handle device := by
  have hlen : c.kernels.length = c.size := rfl
  rcases Nat.lt_trichotomy handle.index c.size with hlt | heq | hgt
  · rw [if_neg (Nat.ne_of_lt hlt)]
    simp only [slot, get, insert]
    rw [List.getElem?_append_left (hlen ▸ hlt)]
  · rw [if_pos heq]
    simp only [slot, get, insert]
    rw [List.getElem?_append_right (Nat.le_of_eq heq.symm), heq, hlen, Nat.sub_self]
    by_cases hdevice : device < c.deviceCount
    · simp [hdevice, Outcome.orError, Outcome.bind]
    · simp [hdevice, Outcome.orError, Outcome.bind]
  · rw [if_neg (Nat.ne_of_gt hgt), slot_of_unknown (Nat.le_of_lt hgt)]
    apply slot_of_unknown
    simp only [size, insert, List.length_append, List.length_singleton]
    omega

/-- Registering a source compiles nothing. -/
lemma slot_insert_filled_iff {source source' : KernelSource} {f : F} :
    (c.insert source').2.slot handle device = .ok (source, some f) ↔
      c.slot handle device = .ok (source, some f) := by
  rw [slot_insert_eq]
  by_cases hnew : handle.index = c.size
  · rw [if_pos hnew, slot_of_unknown (Nat.le_of_eq hnew.symm)]
    by_cases hdevice : device < c.deviceCount
    · simp [hdevice]
    · simp [hdevice]
  · rw [if_neg hnew]

/-- A slot counts as compiled when it is filled. -/
lemma isCompiled_iff {k : CachedKernel F} (hk : c.kernels[handle.index]? = some k) :
    k.isCompiled device = true ↔ ∃ f, c.slot handle device = .ok (k.source, some f) := by
  have hslot : ∀ f, c.slot handle device = .ok (k.source, some f) ↔
      k.slots[device]? = some (some f) := by
    intro f
    rw [slot_eq_iff]
    constructor
    · rintro ⟨slots, hk', hs⟩
      rw [hk, Option.some.injEq] at hk'
      rw [hk']
      exact hs
    · intro hs
      exact ⟨k.slots, hk, hs⟩
  simp only [hslot, CachedKernel.isCompiled]
  split
  · rename_i f hs
    simp [hs]
  · rename_i hs
    simpa using hs

/-- Whether a pair is compiled can be told from what the cache says about its slot. -/
lemma tested_eq (c : KernelCache F) (handle : KernelHandle) (device : Nat) :
    ((c.get handle).bind fun k => .ok (k.isCompiled device)) =
      match c.slot handle device with
      | .ok (_, filled) => .ok filled.isSome
      | .error (.unknownHandle unknown) => .error (.unknownHandle unknown)
      | _ => .ok false := by
  rcases slot_cases c handle device with ⟨hlen, h⟩ | ⟨k, hk, hlen, h⟩ | ⟨k, filled, hk, hs, h⟩
  · have hnone : c.kernels[handle.index]? = none := by simpa [size] using hlen
    rw [h, get, hnone]
    rfl
  · have hnone : k.slots[device]? = none := by simpa using hlen
    rw [h, get, hk]
    simp [Outcome.orError, Outcome.bind, CachedKernel.isCompiled, hnone]
  · rw [h, get, hk]
    cases filled with
    | none => simp [Outcome.orError, Outcome.bind, CachedKernel.isCompiled, hs]
    | some f => simp [Outcome.orError, Outcome.bind, CachedKernel.isCompiled, hs]

/-- The ways a fetch can go from the state `t`: what the closure was run on and ended with, if it
was run, what the fetch ends with, and the state after it. -/
inductive Fetches (cache : Part τ (KernelCache F)) (handle : KernelHandle) (device : Nat)
    (compile : KernelSource → Act S τ KernelError F) (t : τ) :
    Option (KernelSource × Outcome KernelError F) → Outcome KernelError F → τ → Prop where
  | refused {why : KernelError} (h : (cache.get t).slot handle device = .error why) :
      Fetches cache handle device compile t none (.error why) t
  | found {source : KernelSource} {f : F}
      (h : (cache.get t).slot handle device = .ok (source, some f)) :
      Fetches cache handle device compile t none (.ok f) t
  | compiled {source : KernelSource} {f : F} {t' : τ}
      (h : (cache.get t).slot handle device = .ok (source, none))
      (hrun : (compile source t).CanEnd (.ok f, t')) :
      Fetches cache handle device compile t (some (source, .ok f)) (.ok f)
        (cache.put t' ((cache.get t').fill handle device f))
  | failed {source : KernelSource} {o : Outcome KernelError F} {t' : τ}
      (h : (cache.get t).slot handle device = .ok (source, none))
      (hrun : (compile source t).CanEnd (o, t')) (ho : ∀ f, o ≠ .ok f) :
      Fetches cache handle device compile t (some (source, o)) o t'

variable {cache : Part τ (KernelCache F)} {compile : KernelSource → Act S τ KernelError F}
  {t t' : τ} {o : Outcome KernelError F}

/-- A slot is read or refused; reading it does not break a rule. -/
lemma slot_ne_fault (reason : Option String) : c.slot handle device ≠ .fault reason := by
  rcases slot_cases c handle device with ⟨-, h⟩ | ⟨k, -, -, h⟩ | ⟨k, filled, -, -, h⟩ <;> simp [h]

/-- A fetch goes in one of the four ways, and in each of them. -/
lemma canEnd_getOrCompile_iff :
    (getOrCompile cache handle device compile t).CanEnd (o, t') ↔
      ∃ ran, Fetches cache handle device compile t ran o t' := by
  constructor
  · intro hend
    obtain ⟨⟨o₁, t₁⟩, h₁, h₂⟩ := Program.canEnd_bind_iff.1 hend
    cases Program.canEnd_done_iff.1 h₁
    cases hslot : (cache.get t).slot handle device with
    | fault reason => exact absurd hslot (slot_ne_fault reason)
    | error why =>
      rw [hslot] at h₂
      cases Program.canEnd_done_iff.1 h₂
      exact ⟨none, .refused hslot⟩
    | ok found =>
      obtain ⟨source, filled⟩ := found
      rw [hslot] at h₂
      cases filled with
      | some f =>
        cases Program.canEnd_done_iff.1 h₂
        exact ⟨none, .found hslot⟩
      | none =>
        obtain ⟨⟨o₂, t₂⟩, hrun, h₃⟩ := Program.canEnd_bind_iff.1 h₂
        cases o₂ with
        | ok f =>
          cases Program.canEnd_done_iff.1 h₃
          exact ⟨_, .compiled hslot hrun⟩
        | error e =>
          cases Program.canEnd_done_iff.1 h₃
          exact ⟨_, .failed hslot hrun (by simp)⟩
        | fault reason =>
          cases Program.canEnd_done_iff.1 h₃
          exact ⟨_, .failed hslot hrun (by simp)⟩
  · -- the slot decides how the program goes on; the closure's end is the one of the constructor
    rintro ⟨ran, h⟩
    refine Program.canEnd_bind_iff.2 ⟨_, .done _, ?_⟩
    cases h with
    | refused h =>
      rw [h]
      exact .done _
    | found h =>
      rw [h]
      exact .done _
    | compiled h hrun =>
      rw [h]
      exact Program.canEnd_bind_iff.2 ⟨_, hrun, .done _⟩
    | failed h hrun ho =>
      rw [h]
      refine Program.canEnd_bind_iff.2 ⟨_, hrun, ?_⟩
      cases o with
      | ok f => exact absurd rfl (ho f)
      | error e => exact .done _
      | fault reason => exact .done _

end KernelCache

end ExpertExchange
