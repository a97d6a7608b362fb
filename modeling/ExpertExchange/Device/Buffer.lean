import ExpertExchange.Act
import ExpertExchange.Bytes
import ExpertExchange.Device.Error

/-!
# Streams and buffers

Every device has two execution queues: one for the compute kernels of the surrounding model, one
for communication. Work on one stream runs in order; work on two streams is ordered only through
events.

A buffer is a typed, shaped handle to one allocation. Handles can be copied; the copies share the
allocation. An allocation is host memory, whose bytes are at hand, or device memory, of which only
the address is known, and it remembers every stream that used it, the allocating one first.
-/

namespace ExpertExchange

/-- Which of the two queues of a device. -/
inductive StreamKind where
  | compute | comm
  deriving Repr, DecidableEq

def StreamKind.name : StreamKind → String
  | .compute => "compute"
  | .comm => "comm"

/-- An execution queue: device, kind, and the platform's own handle for it. -/
structure Stream where
  device : Nat
  kind : StreamKind
  handle : Nat
  deriving Repr, DecidableEq

/-- A typed, shaped handle to the allocation `cell`. -/
structure Buffer where
  dtype : Dtype
  shape : List Nat
  device : Nat
  cell : Nat
  deriving Repr, DecidableEq

/-- The memory of an allocation. Device memory is freed on the stream that owns it. -/
inductive Memory where
  | host (content : Bytes)
  | cuda (address : Nat) (owner : Stream)
  deriving Repr, DecidableEq

def Memory.kind : Memory → MemoryKind
  | .host _ => .host
  | .cuda _ _ => .cuda

/-- One allocation: its memory, the streams that use it, and the number of live handles. -/
structure Allocation where
  memory : Memory
  usedBy : List Stream
  handles : Nat
  deriving Repr, DecidableEq

/-- All allocations ever made, by cell. -/
abbrev Heap := List Allocation

namespace Buffer

variable {ε : Type}

/-- Number of elements. A fault if a product of extents is not a word. -/
def count (b : Buffer) : Outcome ε Nat := Word.product b.shape

/-- Bytes of `shape` elements of type `t`. A fault if the product is not a word. -/
def sizeOf (t : Dtype) (shape : List Nat) : Outcome ε Nat :=
  (Word.product shape).bind fun n => Word.mul n t.size

/-- Number of bytes. A fault if the product is not a word. -/
def byteCount (b : Buffer) : Outcome ε Nat := sizeOf b.dtype b.shape

/-- Whether two handles share their allocation. -/
def sameAllocation (a b : Buffer) : Bool := a.cell == b.cell

end Buffer

namespace Heap

variable {S : Service} {ε : Type}

def allocation? (h : Heap) (b : Buffer) : Option Allocation := h[b.cell]?

/-- The streams that use the allocation of a buffer, the allocating stream first. -/
def usedBy (h : Heap) (b : Buffer) : List Stream :=
  match h.allocation? b with
  | some a => a.usedBy
  | none => []

def isHost (h : Heap) (b : Buffer) : Bool :=
  match h.allocation? b with
  | some ⟨.host _, _, _⟩ => true
  | _ => false

def address? (h : Heap) (b : Buffer) : Option Nat :=
  match h.allocation? b with
  | some ⟨.cuda address _, _, _⟩ => some address
  | _ => none

def describe (h : Heap) (b : Buffer) : String :=
  let memory := if h.isHost b then MemoryKind.host.name else MemoryKind.cuda.name
  "DeviceBuffer \x7b dtype: " ++ b.dtype.name ++ ", shape: " ++ Text.bracketed b.shape ++
    ", device: " ++ toString b.device ++ ", memory: " ++ Text.quoted memory ++ " \x7d"

/-- Register a stream as a user of the buffer, unless it is one already. -/
def markUsed (h : Heap) (b : Buffer) (stream : Stream) : Heap :=
  h.modify b.cell fun a =>
    if stream ∈ a.usedBy then a else { a with usedBy := a.usedBy ++ [stream] }

/-- A new allocation owned by `owner`, with one handle to it. -/
def place (memory : Memory) (dtype : Dtype) (shape : List Nat) (owner : Stream) :
    Act S Heap ε Buffer := fun h =>
  .done (.ok ⟨dtype, shape, owner.device, h.length⟩, h ++ [⟨memory, [owner], 1⟩])

def zeros (dtype : Dtype) (shape : List Nat) (owner : Stream) : Act S Heap ε Buffer := do
  let size ← Act.ofOutcome (Buffer.sizeOf dtype shape)
  if Word.allocationBound < size then Act.fault none
  else place (.host (List.replicate size 0)) dtype shape owner

def hostOwner (device : Nat) : Stream := ⟨device, .compute, 0⟩

/-- A host buffer holding `content`, which has to fill it. -/
def ofBytes (device : Nat) (dtype : Dtype) (shape : List Nat) (content : Bytes) :
    Act S Heap DeviceError Buffer := do
  let expected ← Act.ofOutcome (Buffer.sizeOf dtype shape)
  Act.ensure (content.length = expected) (.sizeMismatch expected content.length)
  place (.host content) dtype shape (hostOwner device)

/-- A host buffer holding the given elements, as bit patterns. -/
def ofWords (device : Nat) (dtype : Dtype) (words : List Nat) (shape : List Nat) :
    Act S Heap DeviceError Buffer :=
  ofBytes device dtype shape (Bytes.encodeWords dtype.size words)

def bytes (b : Buffer) : Act S Heap DeviceError Bytes := fun h =>
  match h.allocation? b with
  | some ⟨.host content, _, _⟩ => .done (.ok content, h)
  | _ => .done (.error (.memoryKind .host .cuda), h)

/-- Replace the bytes of a host buffer. A fault if their number is not the buffer's. -/
def setBytes (b : Buffer) (content : Bytes) : Act S Heap DeviceError Unit := do
  let old ← bytes b
  if content.length = old.length then
    Act.modify fun h => h.modify b.cell fun a => { a with memory := .host content }
  else Act.fault none

/-- The elements of a host buffer, as bit patterns, read as type `t`. -/
def words (b : Buffer) (t : Dtype) : Act S Heap DeviceError (List Nat) := do
  Act.ensure (t = b.dtype) (.invalidArguments "to_vec" (.readAs b.dtype t))
  let content ← bytes b
  pure (Bytes.decodeWords t.size content)

/-- Replace the elements of a host buffer by elements of type `t`. -/
def setWords (b : Buffer) (t : Dtype) (values : List Nat) : Act S Heap DeviceError Unit := do
  Act.ensure (t = b.dtype) (.invalidArguments "write_slice" (.writtenAs b.dtype t))
  let content := Bytes.encodeWords t.size values
  let size ← Act.ofOutcome b.byteCount
  Act.ensure (content.length = size) (.sizeMismatch size content.length)
  setBytes b content

def copyIn (b : Buffer) (content : Bytes) : Act S Heap DeviceError Unit := do
  let size ← Act.ofOutcome b.byteCount
  Act.ensure (content.length = size) (.sizeMismatch size content.length)
  setBytes b content

end Heap

end ExpertExchange
