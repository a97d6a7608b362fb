import ExpertExchange.Exchange.Hierarchy
import ExpertExchange.Exchange.Regroup
import ExpertExchange.Exchange.Slots
import ExpertExchange.Exchange.Split
import ExpertExchange.Group.Communicator

/-!
# The exchange scheduler

Pipelined and two-level all-to-all exchanges of one process. A pipelined exchange moves a fused
buffer in one round per stage, so that computing on the stages that have arrived overlaps with the
other rounds. All transfers run on the communication stream, and event slots order it after and
before the compute stream: a scatter waits for slot 0 and releases the slot of each stage as soon
as the stage is there; a gather waits for the slot of each stage and releases slot 0 at its end.
-/

namespace ExpertExchange

/-- What the exchanges of a process need besides its platform and kernels. -/
structure Scheduler (E T : Type) where
  comm : Communicator T
  slots : Slots E
  regroup : RegroupKernels
  /-- Gate for the record of a two-level exchange that runs in one round. -/
  notice : Notice

/-- A scheduler at work: the platform, the kernels of the process, and the scheduler. -/
abbrev Engine (S : Service) (σ F E T : Type) := σ × (Invoker S σ F × Scheduler E T)

namespace Scheduler

variable {S : Service} {σ F E T ε α : Type}

def invokerPart : Part (Engine S σ F E T) (σ × Invoker S σ F) :=
  ⟨fun s => (s.1, s.2.1), fun s p => (p.1, (p.2, s.2.2))⟩

def commPart : Part (Engine S σ F E T) (σ × Communicator T) :=
  ⟨fun s => (s.1, s.2.2.comm), fun s p => (p.1, (s.2.1, { s.2.2 with comm := p.2 }))⟩

def linkPart : Part (Engine S σ F E T) (σ × T) := commPart.inside Communicator.linkPart

def slotsPart : Part (Engine S σ F E T) (σ × Slots E) :=
  ⟨fun s => (s.1, s.2.2.slots), fun s p => (p.1, (s.2.1, { s.2.2 with slots := p.2 }))⟩

def onPlatform (m : Act S σ DeviceError α) : Act S (Engine S σ F E T) ExchangeError α :=
  (m.mapError .device).within Part.first

def onComm (m : Act S (σ × Communicator T) ε α) : Act S (Engine S σ F E T) ε α :=
  m.within commPart

def onLink (m : Act S (σ × T) ε α) : Act S (Engine S σ F E T) ε α := m.within linkPart

def onSlots (m : Act S (σ × Slots E) ε α) : Act S (Engine S σ F E T) ε α := m.within slotsPart

/-- A scheduler for a communicator: event slots, and the regrouping kernels built for the
communicator's device. When this fails, the communicator leaves its group. -/
def create (P : Platform S σ F E) (X : Transport S σ T) (settings : Settings)
    (comm : Communicator T) : Act S (σ × Invoker S σ F) ExchangeError (Scheduler E T) :=
  let device := X.device comm.link
  let make : Act S (σ × Invoker S σ F) ExchangeError (Scheduler E T) := do
    let slots ← (Slots.create P device settings.maxNumSplitOrDefault).within Part.first
    let destroy := ((Slots.close P).alongside slots).within Part.first
    let regroup ← ((RegroupKernels.install P device).mapError .kernel).orElseClean destroy
    (P.log .info .scheduler "exchange scheduler ready"
      [("rank", .number comm.topology.rank), ("world_size", .number comm.topology.worldSize),
        ("local_size", .number comm.topology.localSize), ("device", .number device),
        ("max_num_split", .number slots.capacity)]).within Part.first
    pure ⟨comm, slots, regroup, .ofPolicy settings.fallbackLogOrDefault⟩
  make.orElseClean (((Communicator.close X).alongside comm).within Part.first)

def stream (P : Platform S σ F E) (X : Transport S σ T) (kind : StreamKind) :
    Act S (Engine S σ F E T) ExchangeError Stream := onComm (Communicator.stream P X kind)

/-- The layout of a pipelined exchange of `total` bytes. -/
def plan (total stages slices : Nat) (direction : Direction) :
    Act S (Engine S σ F E T) ExchangeError Split := do
  let s ← Act.view (·.2.2)
  Act.ofOutcome
    (Split.create total stages slices s.comm.topology.worldSize s.slots.capacity direction)

def checkStageShape (op : String) (p : Split) (dtype : Dtype) (shape : List Nat) :
    Outcome ExchangeError Unit :=
  (Buffer.sizeOf dtype shape).bind fun bytes =>
  if bytes = p.stageBytes then .ok ()
  else (Word.div p.stageBytes dtype.size).bind fun count =>
    .error (.shapeMismatch op [count] shape)

/-- So many buffers for stages, allocated on one stream and used by another; when one cannot be
had, all go away again. -/
def allocStages (P : Platform S σ F E) (dtype : Dtype) (shape : List Nat) (owner user : Stream) :
    (count : Nat) → (made : List Buffer) → Act S σ DeviceError (List Buffer)
  | 0, made => pure made
  | count + 1, made =>
    let make := Act.bind (P.alloc dtype shape owner) fun b =>
      Act.bind ((P.recordStream b user).orElseClean (P.release b)) fun _ => pure b
    Act.bind (make.orElseClean (P.releaseAll made)) fun b =>
    allocStages P dtype shape owner user count (made ++ [b])

/-- Send a range of a buffer to a peer and receive a range of another from it. The range to receive
is worked out once the other is sent. -/
def exchangeRanges (X : Transport S σ T) (input output : Buffer) (stream : Stream)
    (peer : Outcome ExchangeError Nat) (sent received : Outcome ExchangeError ByteRange) :
    Act S (σ × T) ExchangeError Unit := do
  let peer ← Act.ofOutcome peer
  X.send input (← Act.ofOutcome sent) peer stream
  X.recv output (← Act.ofOutcome received) peer stream

def scatterSlice (X : Transport S σ T) (p : Split) (input output : Buffer) (stream : Stream)
    (stage j : Nat) : Act S (σ × T) ExchangeError Unit :=
  exchangeRanges X input output stream (p.peer j) (p.fusedRange j stage) (p.stageRange j)

/-- One stage of a scatter: a round, after which the slot of the stage is released. -/
def scatterStage (P : Platform S σ F E) (X : Transport S σ T) (p : Split) (input : Buffer)
    (outputs : List Buffer) (stream : Stream) (stage : Nat) :
    Act S (Engine S σ F E T) ExchangeError Unit := do
  let output ← Act.ofOutcome (Outcome.orFault outputs[stage]?)
  onLink (Communicator.inRound X
    (Act.forEach (List.range p.slices) (scatterSlice X p input output stream stage)))
  onSlots (Slots.release P stage stream)

/-- Split a fused buffer into stage buffers of the given shape, exchanging slice `j` of every stage
with the rank it belongs to. -/
def scatter (P : Platform S σ F E) (X : Transport S σ T) (input : Buffer) (shape : List Nat)
    (stages slices : Nat) (direction : Direction) :
    Act S (Engine S σ F E T) ExchangeError (List Buffer) := do
  onComm (Communicator.checkDevice X input)
  let total ← Act.ofOutcome input.byteCount
  let p ← plan total stages slices direction
  Act.ofOutcome (checkStageShape "scatter_async" p input.dtype shape)
  let comm ← stream P X .comm
  let compute ← stream P X .compute
  onPlatform (P.recordStream input comm)
  let outputs ← onPlatform (allocStages P input.dtype shape comm compute stages [])
  let exchange : Act S (Engine S σ F E T) ExchangeError Unit := do
    onSlots (Slots.acquire P 0 comm [])
    Act.forEach p.stageOrder (scatterStage P X p input outputs comm)
  exchange.orElseClean (onPlatform (P.releaseAll outputs))
  pure outputs

def gatherSlice (X : Transport S σ T) (p : Split) (input output : Buffer) (stream : Stream)
    (stage j : Nat) : Act S (σ × T) ExchangeError Unit :=
  exchangeRanges X input output stream (p.peer j) (p.stageRange j) (p.fusedRange j stage)

/-- One stage of a gather: a round, before which the slot of the stage is acquired. -/
def gatherStage (P : Platform S σ F E) (X : Transport S σ T) (p : Split) (inputs : List Buffer)
    (output : Buffer) (stream : Stream) (stage : Nat) :
    Act S (Engine S σ F E T) ExchangeError Unit := do
  let input ← Act.ofOutcome (Outcome.orFault inputs[stage]?)
  onSlots (Slots.acquire P stage stream [])
  onLink (Communicator.inRound X
    (Act.forEach (List.range p.slices) (gatherSlice X p input output stream stage)))

def checkStageBuffers (op : String) (p : Split) (dtype : Dtype) (inputs : List Buffer) :
    Act S (Engine S σ F E T) ExchangeError Unit :=
  Act.forEach inputs fun b => do
    let bytes ← Act.ofOutcome b.byteCount
    if bytes = p.stageBytes then pure ()
    else
      let count ← Act.ofOutcome (Word.div p.stageBytes dtype.size)
      Act.fail (.shapeMismatch op [count] b.shape)

/-- Exchange stage buffers back into a fused buffer of the given shape. -/
def gather (P : Platform S σ F E) (X : Transport S σ T) (inputs : List Buffer) (shape : List Nat)
    (stages slices : Nat) (direction : Direction) :
    Act S (Engine S σ F E T) ExchangeError Buffer := do
  let op := "gather_async"
  Act.ensure (inputs.length = stages)
    (.invalidSplit (.stageBuffers op inputs.length stages))
  match inputs with
  | [] => Act.fail (.invalidSplit (.noStages op))
  | first :: _ => do
    onComm (Communicator.checkAlike X op first.dtype inputs)
    let total ← Act.ofOutcome (Buffer.sizeOf first.dtype shape)
    let p ← plan total stages slices direction
    checkStageBuffers op p first.dtype inputs
    let comm ← stream P X .comm
    let compute ← stream P X .compute
    Act.forEach inputs fun b => onPlatform (P.recordStream b comm)
    let output ← onPlatform (P.alloc first.dtype shape comm)
    let exchange : Act S (Engine S σ F E T) ExchangeError Unit := do
      onPlatform (P.recordStream output compute)
      Act.forEach p.stageOrder (gatherStage P X p inputs output comm)
      onSlots (Slots.release P 0 comm)
    exchange.orElseClean (onPlatform (P.release output))
    pure output

def exchangeBlock (X : Transport S σ T) (input output : Buffer) (stream : Stream)
    (peer : Outcome ExchangeError Nat) (range : Outcome ExchangeError ByteRange) :
    Act S (σ × T) ExchangeError Unit := do
  let peer ← Act.ofOutcome peer
  let range ← Act.ofOutcome range
  X.send input range peer stream
  X.recv output range peer stream

theorem exchangeBlock_eq {X : Transport S σ T} {input output : Buffer} {stream : Stream}
    {peer : Outcome ExchangeError Nat} {range : Outcome ExchangeError ByteRange} :
    exchangeBlock X input output stream peer range =
      exchangeRanges X input output stream peer range range := by
  cases range <;> rfl

/-- Record that a two-level exchange runs in one round, if the policy lets it through. -/
def noteFlat (P : Platform S σ F E) (h : Hierarchy) :
    Act S (Engine S σ F E T) ExchangeError Unit := do
  let fired ← Act.view fun s => s.2.2.notice.fire
  Act.modify fun s => (s.1, (s.2.1, { s.2.2 with notice := fired.2 }))
  if fired.1 then
    (P.log .info .scheduler "single-level topology, hierarchical exchange runs flat"
      [("nodes", .number h.nodes), ("local_size", .number h.localSize)]).within Part.first
  else pure ()

def exchangeFlat (P : Platform S σ F E) (X : Transport S σ T) (h : Hierarchy)
    (input output : Buffer) (comm compute : Stream) :
    Act S (Engine S σ F E T) ExchangeError Unit := do
  noteFlat P h
  onLink (Communicator.inRound X (Act.forEach (List.range h.worldSize) fun peer =>
    exchangeBlock X input output comm (.ok peer) (h.block 1 peer)))
  onPlatform (P.recordStream output compute)

def regroupChunks (P : Platform S σ F E) (stream : Stream) (out input : Buffer)
    (chunk height width : Nat) : Act S (Engine S σ F E T) ExchangeError Unit := do
  let kernels ← Act.view fun s => s.2.2.regroup
  ((kernels.launch P stream out input chunk height width).mapError .kernel).within invokerPart

/-- The exchange in two rounds, in place, by way of another buffer. -/
def exchangeNested (P : Platform S σ F E) (X : Transport S σ T) (h : Hierarchy)
    (input between : Buffer) (comm compute : Stream) :
    Act S (Engine S σ F E T) ExchangeError Unit := do
  regroupChunks P comm between input h.sliceSize h.localSize h.nodes
  onLink (Communicator.inRound X (Act.forEach (List.range h.localSize) fun g =>
    exchangeBlock X between input comm (h.intraPeer g) (h.intraBlock g)))
  regroupChunks P comm between input h.sliceSize h.nodes h.localSize
  onLink (Communicator.inRound X (Act.forEach (List.range h.nodes) fun n =>
    exchangeBlock X between input comm (h.interPeer n) (h.interBlock n)))
  onPlatform (P.recordStream input compute)

/-- Exchange the chunks of a buffer, one per rank. With several nodes of several devices this takes
two rounds, and the result is a further handle to the buffer itself; else it takes one round, into
a fresh buffer. -/
def exchangeAll (P : Platform S σ F E) (X : Transport S σ T) (input : Buffer) :
    Act S (Engine S σ F E T) ExchangeError Buffer := do
  onComm (Communicator.checkDevice X input)
  let total ← Act.ofOutcome input.byteCount
  let place ← Act.view fun s => s.2.2.comm.topology
  let h ← Act.ofOutcome (Hierarchy.create total place)
  let comm ← stream P X .comm
  let compute ← stream P X .compute
  onPlatform (P.recordStream input comm)
  let between ← onPlatform (P.alloc input.dtype input.shape comm)
  if h.isFlat then
    (exchangeFlat P X h input between comm compute).orElseClean (onPlatform (P.release between))
    pure between
  else
    let exchange : Act S (Engine S σ F E T) ExchangeError Unit := do
      exchangeNested P X h input between comm compute
      onPlatform (P.retain input)
    exchange.andFinally (onPlatform (P.release between))
    pure input

/-- Leave the group and let go of the event slots. -/
def close (P : Platform S σ F E) (X : Transport S σ T) :
    Act S (Engine S σ F E T) ExchangeError Unit := do
  onComm (Communicator.close X)
  onSlots (Slots.close P)

end Scheduler

end ExpertExchange
