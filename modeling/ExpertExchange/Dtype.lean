/-!
# Element types

The element types a buffer can have. Types below one byte per element, and the scale type, are
carried but not computed with.
-/

namespace ExpertExchange

/-- Type of the elements of a buffer. -/
inductive Dtype where
  | u8 | u32 | i16 | i32 | i64 | bf16 | f16 | f32 | f64
  | f8e4m3 | f6e2m3 | f6e3m2 | f4 | f8e8m0
  deriving Repr, DecidableEq

namespace Dtype

/-- Bytes per element; zero where several elements share a byte. -/
def size : Dtype → Nat
  | .u8 | .f8e4m3 | .f8e8m0 => 1
  | .i16 | .bf16 | .f16 => 2
  | .u32 | .i32 | .f32 => 4
  | .i64 | .f64 => 8
  | .f6e2m3 | .f6e3m2 | .f4 => 0

def name : Dtype → String
  | .u8 => "U8"
  | .u32 => "U32"
  | .i16 => "I16"
  | .i32 => "I32"
  | .i64 => "I64"
  | .bf16 => "BF16"
  | .f16 => "F16"
  | .f32 => "F32"
  | .f64 => "F64"
  | .f8e4m3 => "F8E4M3"
  | .f6e2m3 => "F6E2M3"
  | .f6e3m2 => "F6E3M2"
  | .f4 => "F4"
  | .f8e8m0 => "F8E8M0"

def symbol (t : Dtype) : String := t.name.toLower

def all : List Dtype :=
  [.u8, .u32, .i16, .i32, .i64, .bf16, .f16, .f32, .f64, .f8e4m3, .f6e2m3, .f6e3m2, .f4, .f8e8m0]

def ofSymbol? (s : String) : Option Dtype := all.find? (·.symbol = s)

/-- Whether buffers of this type can be turned into tensors, and so be summed. -/
def hasTensor : Dtype → Bool
  | .u8 | .u32 | .i64 | .bf16 | .f16 | .f32 | .f64 => true
  | _ => false

end Dtype

end ExpertExchange
