import ExpertExchange.Group.Error

/-!
# Types of the collective library

Element types as the collective library numbers them, and its group ids.
-/

namespace ExpertExchange

namespace Nccl

/-- An element type of the collective library. -/
inductive Datatype where
  | int8 | uint8 | int32 | uint32 | int64 | uint64 | float16 | float32 | float64 | bfloat16
  deriving Repr, DecidableEq

namespace Datatype

def code : Datatype → Nat
  | .int8 => 0
  | .uint8 => 1
  | .int32 => 2
  | .uint32 => 3
  | .int64 => 4
  | .uint64 => 5
  | .float16 => 6
  | .float32 => 7
  | .float64 => 8
  | .bfloat16 => 9

def name : Datatype → String
  | .int8 => "Int8"
  | .uint8 => "Uint8"
  | .int32 => "Int32"
  | .uint32 => "Uint32"
  | .int64 => "Int64"
  | .uint64 => "Uint64"
  | .float16 => "Float16"
  | .float32 => "Float32"
  | .float64 => "Float64"
  | .bfloat16 => "Bfloat16"

def ofDtype? : Dtype → Option Datatype
  | .u8 => some .uint8
  | .u32 => some .uint32
  | .i64 => some .int64
  | .bf16 => some .bfloat16
  | .f16 => some .float16
  | .f32 => some .float32
  | .f64 => some .float64
  | _ => none

end Datatype

def sumCode : Nat := 0

def idLength : Nat := 128

/-- The id that is given where none is known. -/
def blankId : Bytes := List.replicate idLength 0

/-- A group id has to be of the library's length. -/
def checkId (id : Bytes) : Outcome ExchangeError Bytes :=
  if id.length = idLength then .ok id else .error (.rendezvous (.idLength idLength id.length))

end Nccl

end ExpertExchange
