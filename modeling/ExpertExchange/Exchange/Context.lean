import ExpertExchange.Exchange.Scheduler
import ExpertExchange.Group.Launch
import ExpertExchange.Operator.Add
import ExpertExchange.Operator.RunningLocation

/-!
# The exchange context

What one process holds: its kernels and its two groups. Groups are formed by explicit calls and
left by `shutdown`.
-/

namespace ExpertExchange

/-- Kernels and groups of one process. -/
structure Context (S : Service) (σ F E T : Type) where
  settings : Settings
  invoker : Invoker S σ F
  add : AddKernels
  runningLocation : RunningLocationKernel
  global : Option (Scheduler E T)
  shared : Option (Communicator T)

namespace Context

variable {S : Service} {σ F E T ε α : Type}

/-- A call on the platform and the context of a process. -/
abbrev ContextAct (S : Service) (σ F E T α : Type) : Type :=
  Act S (σ × Context S σ F E T) ExchangeError α

def invokerPart : Part (σ × Context S σ F E T) (σ × Invoker S σ F) :=
  ⟨fun s => (s.1, s.2.invoker), fun s p => (p.1, { s.2 with invoker := p.2 })⟩

def onInvoker (m : Act S (σ × Invoker S σ F) ε α) : Act S (σ × Context S σ F E T) ε α :=
  m.within invokerPart

def onPlatform (m : Act S σ ε α) : Act S (σ × Context S σ F E T) ε α := m.within Part.first

/-- A process without groups, with the kernels of the library registered. -/
def create (P : Platform S σ F E) (B : Backend S σ T) (compilers : List (Compiler S σ))
    (settings : Settings) : Act S σ ExchangeError (Context S σ F E T) := fun s =>
  let install : Act S (σ × Invoker S σ F) ExchangeError (AddKernels × RunningLocationKernel) := do
    let add ← (AddKernels.install P).mapError .kernel
    let runningLocation ← (RunningLocationKernel.install P).mapError .kernel
    (P.log .debug .context "exchange context created"
      [("platform", .text P.name), ("backend", .text B.name),
        ("devices", .number P.deviceCount)]).within Part.first
    pure (add, runningLocation)
  (install (s, Invoker.create P.deviceCount compilers settings)).bind fun
    | (.ok kernels, (s', invoker)) =>
      .done (.ok ⟨settings, invoker, kernels.1, kernels.2, none, none⟩, s')
    | (.error e, (s', _)) => .done (.error e, s')
    | (.fault w, (s', _)) => .done (.fault w, s')

/-- Devices per node: the configured number, else that of the platform; at least one, and no more
than there are participants. -/
def localSize (P : Platform S σ F E) (settings : Settings) (worldSize : Nat) : Nat :=
  min (max (settings.localSize.getD P.deviceCount) 1) (max worldSize 1)

def connect (P : Platform S σ F E) (B : Backend S σ T) (id : Bytes) (worldSize rank device : Nat) :
    ContextAct S σ F E T (Communicator T) := do
  let settings ← Act.view (·.2.settings)
  let link ← onPlatform (B.connect id worldSize rank device settings.timeoutMillis)
  let place := Topology.create (B.transport.worldSize link) (B.transport.rank link)
    (localSize P settings worldSize)
  let topology ← (Act.ofOutcome place).orElseClean
    (onPlatform (B.transport.close.alongside link))
  pure ⟨link, topology⟩

/-- The group must not be formed yet. -/
def checkAbsent (group : GroupKind) : ContextAct S σ F E T Unit := do
  let formed ← Act.view fun s => match group with
    | .global => s.2.global.isSome
    | .shared => s.2.shared.isSome
  Act.ensure (formed = false) (.alreadyInitialized group)

def initGlobal (P : Platform S σ F E) (B : Backend S σ T) (id : Bytes)
    (worldSize rank device : Nat) : ContextAct S σ F E T Unit := do
  checkAbsent .global
  let comm ← connect P B id worldSize rank device
  let place := comm.topology
  let settings ← Act.view (·.2.settings)
  let scheduler ← onInvoker (Scheduler.create P B.transport settings comm)
  onPlatform (P.log .info .context "global communicator initialized"
    [("backend", .text B.name), ("world_size", .number place.worldSize),
      ("world_rank", .number place.rank), ("local_size", .number place.localSize),
      ("local_rank", .number place.localRank), ("device", .number device)])
  Act.modify fun s => (s.1, { s.2 with global := some scheduler })

def initShared (P : Platform S σ F E) (B : Backend S σ T) (id : Bytes)
    (worldSize rank device : Nat) : ContextAct S σ F E T Unit := do
  checkAbsent .shared
  let comm ← connect P B id worldSize rank device
  onPlatform (P.log .info .context "shared communicator initialized"
    [("backend", .text B.name), ("world_size", .number worldSize), ("world_rank", .number rank),
      ("device", .number device)])
  Act.modify fun s => (s.1, { s.2 with shared := some comm })

def init (P : Platform S σ F E) (B : Backend S σ T) (group : GroupKind) (id : Bytes)
    (worldSize rank device : Nat) : ContextAct S σ F E T Unit :=
  match group with
  | .global => initGlobal P B id worldSize rank device
  | .shared => initShared P B id worldSize rank device

def initFrom (P : Platform S σ F E) (B : Backend S σ T) (group : GroupKind) (launch : Launch) :
    ContextAct S σ F E T Unit := do
  checkAbsent group
  let id ← onPlatform (launch.groupId B)
  init P B group id launch.worldSize launch.rank launch.localRank

def shutdown (P : Platform S σ F E) (B : Backend S σ T) : ContextAct S σ F E T Unit := do
  let rankOf := fun (comm : Communicator T) => LogValue.number comm.topology.rank
  match (← Act.view (·.2.global)) with
  | none => pure ()
  | some scheduler => do
    onPlatform (P.log .info .context "global communicator shut down"
      [("rank", rankOf scheduler.comm)])
    fun s => (Scheduler.close P B.transport (s.1, (s.2.invoker, scheduler))).bind fun r =>
      .done (r.1, (r.2.1, { s.2 with invoker := r.2.2.1, global := none }))
  match (← Act.view (·.2.shared)) with
  | none => pure ()
  | some comm => do
    onPlatform (P.log .info .context "shared communicator shut down" [("rank", rankOf comm)])
    onPlatform ((Communicator.close B.transport).alongside comm)
    Act.modify fun s => (s.1, { s.2 with shared := none })

def close (P : Platform S σ F E) (B : Backend S σ T) : ContextAct S σ F E T Unit := do
  shutdown P B
  onInvoker ((Invoker.close P).mapError .kernel)

def onGlobal (m : Act S (Engine S σ F E T) ExchangeError α) : ContextAct S σ F E T α := fun s =>
  match s.2.global with
  | none => .done (.error (.notInitialized .global), s)
  | some scheduler => (m (s.1, (s.2.invoker, scheduler))).bind fun r =>
      .done (r.1, (r.2.1, { s.2 with invoker := r.2.2.1, global := some r.2.2.2 }))

def onShared (m : Act S (σ × Communicator T) ExchangeError α) : ContextAct S σ F E T α := fun s =>
  match s.2.shared with
  | none => .done (.error (.notInitialized .shared), s)
  | some comm => (m (s.1, comm)).bind fun r =>
      .done (r.1, (r.2.1, { s.2 with shared := some r.2.2 }))

def onComm (group : GroupKind) (m : Act S (σ × Communicator T) ExchangeError α) :
    ContextAct S σ F E T α :=
  match group with
  | .global => onGlobal (Scheduler.onComm m)
  | .shared => onShared m

def onSlots (m : Act S (σ × Slots E) ExchangeError α) : ContextAct S σ F E T α :=
  onGlobal (Scheduler.onSlots m)

def inject (P : Platform S σ F E) (text : String) : ContextAct S σ F E T KernelHandle :=
  onInvoker ((Invoker.inject P text).mapError .kernel)

def invoke (P : Platform S σ F E) (handle : KernelHandle) (device : Nat) (buffers : List Buffer)
    (scalars : List Scalar) (geometry : GeometryOverride) : ContextAct S σ F E T Unit :=
  onInvoker ((Invoker.invoke P handle device buffers scalars geometry).mapError .kernel)

/-- Split a fused buffer into stage buffers over the global group. -/
def scatter (P : Platform S σ F E) (B : Backend S σ T) (input : Buffer) (shape : List Nat)
    (stages slices : Nat) (direction : Direction) : ContextAct S σ F E T (List Buffer) :=
  onGlobal (Scheduler.scatter P B.transport input shape stages slices direction)

/-- Join stage buffers into a fused buffer over the global group. -/
def gather (P : Platform S σ F E) (B : Backend S σ T) (inputs : List Buffer) (shape : List Nat)
    (stages slices : Nat) (direction : Direction) : ContextAct S σ F E T Buffer :=
  onGlobal (Scheduler.gather P B.transport inputs shape stages slices direction)

/-- Exchange the chunks of a buffer, one per rank of the global group. -/
def exchangeAll (P : Platform S σ F E) (B : Backend S σ T) (input : Buffer) :
    ContextAct S σ F E T Buffer := onGlobal (Scheduler.exchangeAll P B.transport input)

def allToAll (P : Platform S σ F E) (B : Backend S σ T) (inputs outputs : List Buffer)
    (inSizes outSizes : List Nat) : ContextAct S σ F E T Unit :=
  onShared (Communicator.allToAll P B.transport inputs outputs inSizes outSizes)

def allGather (P : Platform S σ F E) (B : Backend S σ T) (inputs outputs : List Buffer)
    (sizes : List Nat) : ContextAct S σ F E T Unit :=
  onShared (Communicator.allGather P B.transport inputs outputs sizes)

def broadcast (P : Platform S σ F E) (B : Backend S σ T) (b : Buffer) (root : Nat) :
    ContextAct S σ F E T Unit := onShared (Communicator.broadcast P B.transport b root)

def allReduce (P : Platform S σ F E) (B : Backend S σ T) (b : Buffer) :
    ContextAct S σ F E T Unit := onShared (Communicator.allReduce P B.transport b)

/-- Sum `t` over the shared group, in place, and add it to `x` in a fresh buffer. -/
def allReduceAdd (P : Platform S σ F E) (B : Backend S σ T) (x t : Buffer) :
    ContextAct S σ F E T Buffer := do
  allReduce P B t
  let kernels ← Act.view (·.2.add)
  onInvoker ((kernels.add P x t).mapError .operator)

def runningLocations (P : Platform S σ F E) (mask : Buffer) : ContextAct S σ F E T Buffer := do
  let kernel ← Act.view (·.2.runningLocation)
  onInvoker ((kernel.run P mask).mapError .operator)

end Context

end ExpertExchange
