import ExpertExchange.Session.Buffers

/-!
# Commands on event slots, groups and exchanges

With them, all commands that a session on any platform understands.
-/

namespace ExpertExchange

/-- How a buffer is handed over at a slot. -/
structure Handoff where
  /-- Released, or else acquired. -/
  releases : Bool
  stream : StreamKind
  deriving Repr, DecidableEq

/-- A command on event slots: of the session's own pool, or of the global group. -/
inductive SlotCommand where
  /-- A new pool; the old one goes away first. -/
  | create (device capacity : Nat)
  | drop
  | release (global : Bool) (slot : Nat) (stream : StreamSource)
  | acquire (global : Bool) (slot : Nat) (stream : StreamSource) (buffers : List String)
  | handOver (global : Bool) (slot : Nat) (how : Handoff) (buffer : String)
  | inspect (global : Bool) (slot : Nat)
  deriving Repr, DecidableEq

def SlotState.text : SlotState → String
  | .idle => "idle"
  | .released s => "released by " ++ s.name
  | .acquired s => "acquired by " ++ s.name

namespace SlotCommand

open Session

variable {S : Service} {σ F E T : Type}

/-- The state of a slot, the state before, and its handoffs. -/
def slotReply (slot : Option Slot) : Reply :=
  let part (f : Slot → Reply) : Reply := Reply.orNothing f slot
  .fields [("state", part fun s => .text s.state.text),
    ("previous", part fun s => .text s.previous.text),
    ("handoffs", part fun s => .count s.handoffs)]

def slotStream (P : Platform S σ F E) (source : StreamSource) :
    Act S (σ × Slots E) ExchangeError Stream := Slots.onPlatform (streamOf P source)

/-- Hand a buffer over; the answer says whether it still has its allocation. -/
def handBuffer (P : Platform S σ F E) (slot : Nat) (how : Handoff) (b : Buffer) :
    Act S (σ × Slots E) ExchangeError Reply := do
  let given ← if how.releases then Slots.releaseOn P how.stream b slot
    else Slots.acquireOn P how.stream b slot
  Slots.onPlatform (P.release given)
  pure (.fields [("same", .flag (b.sameAllocation given))])

def dropPool (P : Platform S σ F E) : SessionAct S σ F E T Unit := do
  match (← Act.view fun s => s.pool) with
  | some _ => onPool false (Slots.close P)
  | none => pure ()
  Act.modify fun s => { s with pool := none }

def run (site : Site S σ F E) (c : SlotCommand) : SessionAct S σ F E T Reply :=
  let P := site.platform
  match c with
  | .create device capacity => do
    dropPool P
    let pool ← onState .exchange (Slots.create P device capacity)
    Act.modify fun s => { s with pool := some pool }
    pure (.fields [("capacity", .count pool.capacity), ("device", .count pool.device)])
  | .drop => do
    dropPool P
    pure .nothing
  | .release global slot source => do
    onPool global (do Slots.release P slot (← slotStream P source))
    pure .nothing
  | .acquire global slot source buffers => do
    let bs ← findAll buffers
    onPool global (do Slots.acquire P slot (← slotStream P source) bs)
    pure .nothing
  | .handOver global slot how buffer => do
    let b ← find buffer
    onPool global (handBuffer P slot how b)
  | .inspect global slot => do
    pure (slotReply (← onPool global (Act.view fun s => s.2.slots[slot]?)))

end SlotCommand

/-- Which link a transfer goes over: one kept under a name, or the one of a group. -/
inductive LinkSource where
  | named (name : String)
  | ofGroup (group : GroupKind)
  deriving Repr, DecidableEq

/-- A transfer, or the start or end of a round of them. -/
inductive TransferCommand where
  | startRound
  | endRound
  | send (buffer : String) (range : ByteRange) (peer : Nat) (stream : StreamSource)
  | recv (buffer : String) (range : ByteRange) (peer : Nat) (stream : StreamSource)
  | broadcast (buffer : String) (root : Nat) (stream : StreamSource)
  | allReduce (buffer : String) (stream : StreamSource)
  deriving Repr, DecidableEq

inductive GroupCommand where
  | freshId
  /-- Join a group and keep the link under a name. -/
  | connect (name : String) (id : Bytes) (worldSize rank device timeout : Nat)
  | disconnect (name : String)
  | init (group : GroupKind) (id : Bytes) (worldSize rank device : Nat)
  /-- Join a group as a launcher would say. -/
  | initFrom (group : GroupKind) (worldSize rank localRank : Nat)
  | shutdown
  /-- The place in a group; of the global one, more if asked. -/
  | place (group : GroupKind) (detailed : Bool)
  | initialized
  | transfer (link : LinkSource) (c : TransferCommand)
  deriving Repr, DecidableEq

namespace GroupCommand

open Session

variable {S : Service} {σ F E T : Type}

def placeFields (t : Topology) : List (String × Reply) :=
  [("world_size", .count t.worldSize), ("world_rank", .count t.rank),
    ("local_size", .count t.localSize), ("local_rank", .count t.localRank),
    ("num_nodes", .count t.nodes), ("node_rank", .count t.nodeRank)]

/-- What the global group adds to its place: stages, and launches so far. -/
def globalFields (c : Context S σ F E T) : List (String × Reply) :=
  match c.global with
  | some s =>
    [("max_num_split", .count s.slots.capacity), ("launches", .count c.invoker.launches)]
  | none => []

/-- Run on the link of a name, which has to be there. -/
def onNamed {α : Type} (name : String) (m : Act S (σ × T) ExchangeError α) :
    SessionAct S σ F E T α := fun s =>
  match s.links.find? name with
  | none => .done (.fault none, s)
  | some link => (m (s.state, link)).bind fun r =>
      .done (r.1.mapError .exchange,
        { s with state := r.2.1, links := s.links.put name r.2.2 })

def onLink {α : Type} (link : LinkSource) (m : Act S (σ × T) ExchangeError α) :
    SessionAct S σ F E T α :=
  match link with
  | .named name => onNamed name m
  | .ofGroup group => onContext (Context.onComm group (Communicator.onLink m))

def closeLink (B : Backend S σ T) (link : Option T) : SessionAct S σ F E T Unit :=
  match link with
  | some l => onState .exchange (B.transport.close.alongside l)
  | none => pure ()

def withStream (P : Platform S σ F E) (source : StreamSource) (link : LinkSource)
    (m : Stream → Act S (σ × T) ExchangeError Unit) : SessionAct S σ F E T Reply := do
  let s ← onDevice (streamOf P source)
  onLink link (m s)
  pure .nothing

def transferOn (P : Platform S σ F E) (X : Transport S σ T) (link : LinkSource) :
    TransferCommand → SessionAct S σ F E T Reply
  | .startRound => do
    onLink link X.groupStart
    pure .nothing
  | .endRound => do
    onLink link X.groupEnd
    pure .nothing
  | .send buffer range peer source => do
    let b ← find buffer
    withStream P source link (X.send b range peer)
  | .recv buffer range peer source => do
    let b ← find buffer
    withStream P source link (X.recv b range peer)
  | .broadcast buffer root source => do
    let b ← find buffer
    withStream P source link (X.broadcast b root)
  | .allReduce buffer source => do
    let b ← find buffer
    withStream P source link (X.allReduce b)

def settings : SessionAct S σ F E T Settings := onContext (Act.view fun s => s.2.settings)

def run (site : Site S σ F E) (B : Backend S σ T) (c : GroupCommand) :
    SessionAct S σ F E T Reply :=
  let P := site.platform
  let X := B.transport
  match c with
  | .freshId => do pure (.bytes (← onState .exchange B.freshId))
  | .connect name id worldSize rank device timeout => do
    let link ← onState .exchange (B.connect id worldSize rank device timeout)
    let old ← Act.view fun s => s.links.find? name
    Act.modify fun s => { s with links := s.links.put name link }
    closeLink B old
    pure (.fields [("rank", .count (X.rank link)), ("world_size", .count (X.worldSize link)),
      ("device", .count (X.device link))])
  | .disconnect name => do
    let old ← Act.view fun s => s.links.find? name
    Act.modify fun s => { s with links := s.links.without name }
    closeLink B old
    pure .nothing
  | .init group id worldSize rank device => do
    onContext (Context.init P B group id worldSize rank device)
    pure .nothing
  | .initFrom group worldSize rank localRank => do
    let current ← settings
    onContext (Context.initFrom P B group
      ⟨rank, worldSize, localRank, "", 0, current.timeoutSecsOrDefault⟩)
    pure .nothing
  | .shutdown => do
    onContext (Context.shutdown P B)
    pure .nothing
  | .place group detailed => do
    let t ← onContext (Context.onComm group Communicator.topology?)
    let more ← onContext (Act.view fun s => globalFields s.2)
    pure (.fields (placeFields t ++ if detailed && group = .global then more else []))
  | .initialized => onContext (Act.view fun s =>
      .fields [("initialized", .flag s.2.global.isSome),
        ("max_num_split", Reply.orNothing (fun g => .count g.slots.capacity) s.2.global),
        ("config", .settings s.2.settings)])
  | .transfer link t => transferOn P X link t

end GroupCommand

/-- A command on the exchange context; buffers are given by name. -/
inductive ExchangeCommand where
  | inject (source : String)
  | invoke (handle : KernelHandle) (device : Nat) (buffers : List String) (scalars : List Scalar)
      (geometry : GeometryOverride)
  | runningLocations (mask result : String)
  | scatter (input : String) (shape : List Nat) (stages slices : Nat) (direction : Direction)
      (result : String)
  | gather (inputs : List String) (shape : List Nat) (stages slices : Nat) (direction : Direction)
      (result : String)
  | exchangeAll (input result : String)
  | allToAll (inputs outputs : List String) (inSizes outSizes : List Nat)
  | allGather (inputs outputs : List String) (sizes : List Nat)
  | broadcast (buffer : String) (root : Nat)
  | allReduce (buffer : String)
  | allReduceAdd (x t result : String)
  deriving Repr, DecidableEq

namespace ExchangeCommand

open Session

variable {S : Service} {σ F E T : Type}

def run (site : Site S σ F E) (B : Backend S σ T) (c : ExchangeCommand) :
    SessionAct S σ F E T Reply :=
  let P := site.platform
  match c with
  | .inject source => do pure (.count (← onContext (Context.inject P source)).index)
  | .invoke handle device buffers scalars geometry => do
    let bs ← findAll buffers
    onContext (Context.invoke P handle device bs scalars geometry)
    pure .nothing
  | .runningLocations mask result => do
    let b ← find mask
    store P result (← onContext (Context.runningLocations P b))
  | .scatter input shape stages slices direction result => do
    let b ← find input
    let outs ← onContext (Context.scatter P B b shape stages slices direction)
    pure (.list (← storeAll P result 0 outs))
  | .gather inputs shape stages slices direction result => do
    let bs ← findAll inputs
    store P result (← onContext (Context.gather P B bs shape stages slices direction))
  | .exchangeAll input result => do
    let b ← find input
    let out ← onContext (Context.exchangeAll P B b)
    let stored ← store P result out
    pure (.fields [("in_place", .flag (b.sameAllocation out)), ("buffer", stored)])
  | .allToAll inputs outputs inSizes outSizes => do
    let ins ← findAll inputs
    let outs ← findAll outputs
    onContext (Context.allToAll P B ins outs inSizes outSizes)
    pure .nothing
  | .allGather inputs outputs sizes => do
    let ins ← findAll inputs
    let outs ← findAll outputs
    onContext (Context.allGather P B ins outs sizes)
    pure .nothing
  | .broadcast buffer root => do
    let b ← find buffer
    onContext (Context.broadcast P B b root)
    pure .nothing
  | .allReduce buffer => do
    let b ← find buffer
    onContext (Context.allReduce P B b)
    pure .nothing
  | .allReduceAdd x t result => do
    let x ← find x
    let t ← find t
    store P result (← onContext (Context.allReduceAdd P B x t))

end ExchangeCommand

inductive Command where
  | buffer (c : BufferCommand)
  | platform (c : PlatformCommand)
  | kernel (c : KernelCommand)
  | slot (c : SlotCommand)
  | group (c : GroupCommand)
  | exchange (c : ExchangeCommand)
  deriving Repr, DecidableEq

namespace Command

def run {S : Service} {σ F E T : Type} (site : Site S σ F E) (B : Backend S σ T) :
    Command → Session.SessionAct S σ F E T Reply
  | .buffer c => c.run site
  | .platform c => c.run site
  | .kernel c => Session.onBench (c.run site)
  | .slot c => c.run site
  | .group c => c.run site B
  | .exchange c => c.run site B

end Command

end ExpertExchange
