import ExpertExchange.Device.Buffer
import ExpertExchange.Number.Arithmetic

/-!
# Tensors

Sums on the host are left to a tensor library, which is not part of this one. What it is asked for
is a parameter of everything that sums: tensors are made from elements, flattened, read back and
added. Here are the conversions between buffers and tensors, which are this library's own.
-/

namespace ExpertExchange

/-- A tensor library. Elements are given and read as bit patterns, in row-major order. -/
class TensorLibrary where
  Tensor : Type
  /-- The tensor of a type and shape with these elements. -/
  ofElements (dtype : Dtype) (elements shape : List Nat) : Outcome TensorError Tensor
  dtype : Tensor → Dtype
  shape : Tensor → List Nat
  /-- All elements, with one axis left. -/
  flatten : Tensor → Outcome TensorError Tensor
  /-- The elements of a tensor with one axis. -/
  elements : Tensor → Outcome TensorError (List Nat)
  /-- Elementwise sum. -/
  add : Tensor → Tensor → Outcome TensorError Tensor

/-- The tensors of the library at hand. -/
abbrev Tensor [library : TensorLibrary] : Type := library.Tensor

/-- The strides of a shape in row-major order are words. They are the products of the last extents,
and are computed from the last extent on, with the product of all of them at the end. -/
def Strided (shape : List Nat) : Prop := (Word.product? shape.reverse).isSome

instance (shape : List Nat) : Decidable (Strided shape) := inferInstanceAs (Decidable (_ = true))

namespace Tensor

variable [TensorLibrary] {S : Service}

/-- The content of a host buffer as a tensor. -/
def ofBuffer (b : Buffer) : Act S Heap DeviceError Tensor := do
  Act.ensure (b.dtype.hasTensor = true) (.unsupported (.bufferType b.dtype))
  let elements ← Heap.words b b.dtype
  Act.ofOutcome ((TensorLibrary.ofElements b.dtype elements b.shape).mapError .tensor)

/-- The bytes of the elements of a tensor. -/
def content (t : Tensor) : Outcome DeviceError Bytes :=
  ((TensorLibrary.flatten t).mapError .tensor).bind fun flat =>
  (Outcome.ensure ((TensorLibrary.dtype t).hasTensor = true)
    (.unsupported (.tensorType (TensorLibrary.dtype t)))).bind fun _ =>
  ((TensorLibrary.elements flat).mapError .tensor).bind fun elements =>
  .ok (Bytes.encodeWords (TensorLibrary.dtype t).size elements)

/-- A host buffer with the content of a tensor. -/
def toBuffer (t : Tensor) (device : Nat) : Act S Heap DeviceError Buffer := do
  let content ← Act.ofOutcome t.content
  Heap.ofBytes device (TensorLibrary.dtype t) (TensorLibrary.shape t) content

/-- Bytes, which have to fill a shape, as a tensor. -/
def ofBytes (dtype : Dtype) (shape : List Nat) (content : Bytes) : Outcome DeviceError Tensor :=
  (Buffer.sizeOf dtype shape).bind fun expected =>
  (Outcome.ensure (content.length = expected) (.sizeMismatch expected content.length)).bind fun _ =>
  (Outcome.ensure (dtype.hasTensor = true) (.unsupported (.bufferType dtype))).bind fun _ =>
  (TensorLibrary.ofElements dtype (Bytes.decodeWords dtype.size content) shape).mapError .tensor

/-- The bytes of a tensor, which have to fill its shape. -/
def bytes (t : Tensor) : Outcome DeviceError Bytes :=
  t.content.bind fun content =>
  (Buffer.sizeOf (TensorLibrary.dtype t) (TensorLibrary.shape t)).bind fun expected =>
  (Outcome.ensure (content.length = expected) (.sizeMismatch expected content.length)).bind fun _ =>
  .ok content

end Tensor

end ExpertExchange
