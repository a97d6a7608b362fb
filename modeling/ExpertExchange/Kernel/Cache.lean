import ExpertExchange.Act
import ExpertExchange.Kernel.Source

/-!
# The kernel cache

Sources are registered once and keep their handle forever. Each source has one slot per device;
the first successful compilation on a device fills its slot, and nothing empties or replaces it.
-/

namespace ExpertExchange

/-- A registered source and what was compiled from it, by device. -/
structure CachedKernel (F : Type) where
  source : KernelSource
  slots : List (Option F)

/-- Whether the slot of a device is filled. -/
def CachedKernel.isCompiled {F : Type} (k : CachedKernel F) (device : Nat) : Bool :=
  match k.slots[device]? with
  | some (some _) => true
  | _ => false

/-- All registered sources, by handle. -/
structure KernelCache (F : Type) where
  deviceCount : Nat
  kernels : List (CachedKernel F)

namespace KernelCache

variable {S : Service} {F τ : Type}

/-- No source is registered. -/
def empty (deviceCount : Nat) : KernelCache F := ⟨deviceCount, []⟩

def size (c : KernelCache F) : Nat := c.kernels.length

def insert (c : KernelCache F) (source : KernelSource) : KernelHandle × KernelCache F :=
  (⟨c.kernels.length⟩,
    { c with kernels := c.kernels ++ [⟨source, List.replicate c.deviceCount none⟩] })

def get (c : KernelCache F) (handle : KernelHandle) : Outcome KernelError (CachedKernel F) :=
  Outcome.orError (.unknownHandle handle) c.kernels[handle.index]?

def slot (c : KernelCache F) (handle : KernelHandle) (device : Nat) :
    Outcome KernelError (KernelSource × Option F) :=
  (c.get handle).bind fun k =>
  (Outcome.orError (.invalidDevice device c.deviceCount) k.slots[device]?).bind fun s =>
  .ok (k.source, s)

/-- Fill a slot, unless it is filled already. -/
def fill (c : KernelCache F) (handle : KernelHandle) (device : Nat) (f : F) : KernelCache F :=
  { c with
    kernels := c.kernels.modify handle.index fun k =>
      { k with slots := k.slots.modify device fun s => s.or (some f) } }

/-- What was compiled for a handle on a device; the first time, compile it. The cache is a part of
the state that `compile` works on. -/
def getOrCompile (cache : Part τ (KernelCache F)) (handle : KernelHandle) (device : Nat)
    (compile : KernelSource → Act S τ KernelError F) : Act S τ KernelError F := do
  let (source, filled) ← (fun t => (.done ((cache.get t).slot handle device, t)) :
    Act S τ KernelError (KernelSource × Option F))
  match filled with
  | some f => pure f
  | none =>
    let f ← compile source
    Act.modify fun t => cache.put t ((cache.get t).fill handle device f)
    pure f

end KernelCache

end ExpertExchange
