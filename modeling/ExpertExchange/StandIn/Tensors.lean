import ExpertExchange.Device.Tensor

/-!
# A tensor library to stand in

Tensors as lists of elements in row-major order. As in the library that is stood in for, a tensor
remembers the strides of its axes, so there is none of a shape whose strides are not words, and no
elements need to be added for tensors that have none.
-/

namespace ExpertExchange

namespace StandIn

/-- A shaped list of elements. -/
structure RowMajor where
  dtype : Dtype
  shape : List Nat
  elements : List Nat
  deriving Repr, DecidableEq

namespace RowMajor

/-- The matrix of `rows` rows of `cols` values with rows and columns exchanged. -/
def transposeMatrix (rows cols : Nat) (values : List Nat) : List Nat :=
  (List.range cols).flatMap fun c =>
    (List.range rows).filterMap fun r => values[r * cols + c]?

/-- The values in parts of `size`. -/
def parts (size : Nat) : (count : Nat) → List Nat → List (List Nat)
  | 0, _ => []
  | n + 1, values => values.take size :: parts size n (values.drop size)

/-- The tensor with its last two axes exchanged. -/
def transpose (t : RowMajor) : RowMajor :=
  match t.shape.reverse with
  | cols :: rows :: outer =>
    let count := outer.foldl (· * ·) 1
    { t with
      shape := (rows :: cols :: outer).reverse
      elements := (parts (rows * cols) count t.elements).flatMap (transposeMatrix rows cols) }
  | _ => t

/-- The tensor of these elements. A fault where its strides are not words. -/
def make (dtype : Dtype) (elements shape : List Nat) : Outcome TensorError RowMajor :=
  (Outcome.ensureOrFault (Strided shape) none).bind fun _ => .ok ⟨dtype, shape, elements⟩

/-- Shapes have to agree; types too, unless there are no elements. -/
def add (plus : Addition) (x y : RowMajor) : Outcome TensorError RowMajor :=
  if x.shape ≠ y.shape then .error (.shape x.shape y.shape)
  else if x.elements = [] then .ok x
  else if x.dtype ≠ y.dtype then .error (.dtype x.dtype y.dtype)
  else (Outcome.orFault (Number.addAll? plus x.dtype x.elements y.elements)).bind fun sum =>
    .ok { x with elements := sum }

/-- The library that adds elements by `plus`. -/
@[reducible] def library (plus : Addition) : TensorLibrary where
  Tensor := RowMajor
  ofElements := make
  dtype := dtype
  shape := shape
  flatten t := .ok { t with shape := [t.elements.length] }
  elements t := .ok t.elements
  add := add plus

end RowMajor

scoped instance : TensorLibrary := RowMajor.library Number.add?

end StandIn

end ExpertExchange
