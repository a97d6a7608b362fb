import ExpertExchange.Session.Basic
import ExpertExchange.StandIn.Tensors

/-!
# Commands on buffers and on the platform
-/

namespace ExpertExchange

inductive BufferCommand where
  /-- Zeroed host memory. -/
  | zeros (name : String) (dtype : Dtype) (shape : List Nat) (device : Nat)
  | ofBytes (name : String) (dtype : Dtype) (shape : List Nat) (device : Nat) (content : Bytes)
  | ofWords (name : String) (dtype : Dtype) (shape : List Nat) (device : Nat) (words : List Nat)
  /-- From a tensor, with its last two axes exchanged if asked. -/
  | ofTensor (name : String) (tensor : StandIn.RowMajor) (transposed : Bool) (device : Nat)
  /-- By way of a tensor, into a new buffer. -/
  | throughTensor (name result : String) (device : Nat)
  /-- The extents of the tensor that the buffer is read as. -/
  | tensorShape (name : String)
  | alloc (name : String) (dtype : Dtype) (shape : List Nat) (stream : StreamSource)
  | clone (name result : String)
  | drop (name : String)
  /-- The elements. -/
  | contents (name : String)
  | contentsOf (names : List String)
  /-- The bytes of host memory. -/
  | hostBytes (name : String)
  /-- The elements, read as a type. -/
  | words (name : String) (dtype : Dtype)
  | setWords (name : String) (dtype : Dtype) (words : List Nat)
  /-- Copy bytes in or out by the platform. -/
  | write (name : String) (content : Bytes)
  | read (name : String)
  | sameAllocation (name other : String)
  | recordStream (name : String) (stream : StreamSource)
  | inspect (name : String)
  deriving Repr, DecidableEq

/-- Sessions use the stand-in for the tensor library. -/
instance (priority := low) : TensorLibrary := StandIn.RowMajor.library Number.add?

namespace BufferCommand

open Session StandIn

variable {S : Service} {σ F E T : Type}

def contentsEach (site : Site S σ F E) : List Buffer → SessionAct S σ F E T (List Reply)
  | [] => pure []
  | b :: rest =>
    Act.bind (onHeap site (Heap.bytes b)) fun content =>
    Act.bind (contentsEach site rest) fun others => pure (.elements b.dtype content :: others)

def inspection (heap : Heap) (b : Buffer) : Inspection :=
  ⟨b, heap.isHost b, heap.address? b, heap.usedBy b, heap.describe b⟩

def run (site : Site S σ F E) (c : BufferCommand) : SessionAct S σ F E T Reply :=
  let P := site.platform
  match c with
  | .zeros name dtype shape device => do
    store P name (← onHeap site (Heap.zeros dtype shape (Heap.hostOwner device)))
  | .ofBytes name dtype shape device content => do
    store P name (← onHeap site (Heap.ofBytes device dtype shape content))
  | .ofWords name dtype shape device ws => do
    store P name (← onHeap site (Heap.ofWords device dtype ws shape))
  | .ofTensor name tensor transposed device => do
    let made ← onHeap site (Act.ofOutcome ((RowMajor.make tensor.dtype tensor.elements
      tensor.shape).mapError .tensor))
    let t : Tensor := if transposed then made.transpose else made
    store P name (← onHeap site (t.toBuffer device))
  | .throughTensor name result device => do
    let b ← find name
    let t ← onHeap site (Tensor.ofBuffer b)
    store P result (← onHeap site (t.toBuffer device))
  | .tensorShape name => do
    let b ← find name
    pure (.numbers (TensorLibrary.shape (← onHeap site (Tensor.ofBuffer b))))
  | .alloc name dtype shape source => do
    let s ← onDevice (streamOf P source)
    store P name (← onDevice (P.alloc dtype shape s))
  | .clone name result => do
    let b ← find name
    onDevice (P.retain b)
    store P result b
  | .drop name => do
    match (← Act.view fun s => s.buffers.find? name) with
    | some b => do
      Act.modify fun s => { s with buffers := s.buffers.without name }
      release P b
    | none => pure ()
    pure .nothing
  | .contents name => do
    let b ← find name
    pure (.elements b.dtype (← onHeap site (Heap.bytes b)))
  | .contentsOf names => do
    let bs ← findAll names
    pure (.list (← contentsEach site bs))
  | .hostBytes name => do
    let b ← find name
    pure (.bytes (← onHeap site (Heap.bytes b)))
  | .words name dtype => do
    let b ← find name
    pure (.words dtype (← onHeap site (Heap.words b dtype)))
  | .setWords name dtype ws => do
    let b ← find name
    onHeap site (Heap.setWords b dtype ws)
    pure .nothing
  | .write name content => do
    let b ← find name
    onDevice (P.write b content)
    pure .nothing
  | .read name => do
    let b ← find name
    pure (.bytes (← onDevice (P.read b)))
  | .sameAllocation name other => do
    let b ← find name
    let c ← find other
    pure (.flag (b.sameAllocation c))
  | .recordStream name source => do
    let b ← find name
    let s ← onDevice (streamOf P source)
    onDevice (P.recordStream b s)
    pure .nothing
  | .inspect name => do
    let b ← find name
    let heap ← Act.view fun s => site.memory.get s.state
    pure (.inspection (inspection heap b))

end BufferCommand

inductive PlatformCommand where
  | overview
  | arch (device : Nat)
  /-- A stream, drained if asked. -/
  | stream (device : Nat) (kind : StreamKind) (drained : Bool)
  | synchronize (stream : StreamSource)
  /-- Load an image and keep the kernel under a name. -/
  | load (name : String) (device : Nat) (image : Image) (entry : String) (bound : Nat)
  | unload (name : String)
  | occupancy (name : String)
  | launch (name : String) (geometry : Geometry) (args : List NamedArgument)
      (stream : StreamSource)
  /-- Load an image, and ask how the kernel would occupy its device. -/
  | tryLoad (device : Nat) (image : Image) (entry : String)
  /-- Load an image and launch the kernel. -/
  | tryLaunch (device : Nat) (image : Image) (entry : String) (geometry : Geometry)
      (args : List NamedArgument) (stream : Stream)
  deriving Repr, DecidableEq

namespace PlatformCommand

open Session

variable {S : Service} {σ F E T : Type}

/-- The bound on the threads of a block where a command gives none. -/
def usualBound : Nat := 1024

/-- Take the kernel of a name off the shelf, and let go of it. -/
def dropFunction (P : Platform S σ F E) (f : Option F) : SessionAct S σ F E T Unit :=
  match f with
  | some f => onDevice (P.unload f)
  | none => pure ()

def findFunction (name : String) : SessionAct S σ F E T F := do
  Act.ofOutcome (Outcome.orFault ((← Act.get).functions.find? name))

def run (site : Site S σ F E) (c : PlatformCommand) : SessionAct S σ F E T Reply :=
  let P := site.platform
  match c with
  | .overview => pure (.fields [("name", .text P.name), ("devices", .count P.deviceCount),
      ("host", .flag P.isHost)])
  | .arch device => do pure (.text (← onDevice (P.arch device)))
  | .stream device kind drained => do
    let s ← onDevice (P.stream device kind)
    if drained then onDevice (P.synchronize s) else pure ()
    pure (.stream s)
  | .synchronize source => do
    let s ← onDevice (streamOf P source)
    onDevice (P.synchronize s)
    pure .nothing
  | .load name device image entry bound => do
    let f ← onDevice (P.load device image entry bound)
    let old ← Act.view fun s => s.functions.find? name
    Act.modify fun s => { s with functions := s.functions.put name f }
    dropFunction P old
    pure (.text (site.entryOf f))
  | .unload name => do
    let old ← Act.view fun s => s.functions.find? name
    Act.modify fun s => { s with functions := s.functions.without name }
    dropFunction P old
    pure .nothing
  | .occupancy name => do
    let f ← findFunction name
    let (b, t) ← onDevice (P.occupancy f)
    pure (.numbers [b, t])
  | .launch name geometry args source => do
    let args ← arguments args
    let f ← findFunction name
    let s ← onDevice (streamOf P source)
    onDevice (P.launch f geometry args s)
    pure .nothing
  | .tryLoad device image entry => do
    let f ← onDevice (P.load device image entry usualBound)
    let (b, t) ← onDevice (P.occupancy f)
    pure (.fields [("entry", .text (site.entryOf f)), ("image", .text image.kind),
      ("potential", .numbers [b, t])])
  | .tryLaunch device image entry geometry args s => do
    let args ← arguments args
    let f ← onDevice (P.load device image entry usualBound)
    onDevice (P.launch f geometry args s)
    pure .nothing

end PlatformCommand

end ExpertExchange
