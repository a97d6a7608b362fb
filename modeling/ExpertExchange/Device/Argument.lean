import ExpertExchange.Device.Buffer
import ExpertExchange.Text.Lossy

/-!
# Kernel images and launch arguments

What a compiler hands to a platform, and what a launch passes to a kernel: buffers first, and
scalars after them.
-/

namespace ExpertExchange

/-- Compiled code, ready to be loaded: a native binary, assembly text, or for the host platform
the name under which its kernel is registered. -/
inductive Image where
  | binary (content : Bytes)
  | ptx (text : String)
  | host (entry : String)
  deriving Repr, DecidableEq

def Image.kind : Image → String
  | .binary _ => "binary"
  | .ptx _ => "ptx"
  | .host _ => "host"

def Image.content : Image → String
  | .binary content => Text.lossy content
  | .ptx text => text
  | .host entry => entry

/-- A value passed to a kernel; floating-point values by their bits. -/
inductive Scalar where
  | i32 (n : Int)
  | i64 (n : Int)
  | u64 (n : Nat)
  | f32 (bits : Nat)
  | f64 (bits : Nat)
  deriving Repr, DecidableEq

namespace Scalar

/-- The 64 bits of the parameter slot; a value of 32 bits fills the low half. -/
def bits : Scalar → Nat
  | .i32 n => (n % (Word.bound32 : Int)).toNat
  | .i64 n => Word.ofInt n
  | .u64 n => n
  | .f32 b => b
  | .f64 b => b

/-- The value as a count, if it is a whole number and not negative. -/
def toNat? : Scalar → Option Nat
  | .i32 n | .i64 n => if 0 ≤ n then some n.toNat else none
  | .u64 n => some n
  | .f32 _ | .f64 _ => none

end Scalar

inductive Argument where
  | buffer (b : Buffer)
  | scalar (s : Scalar)
  deriving Repr, DecidableEq

namespace Argument

def list (buffers : List Buffer) (scalars : List Scalar) : List Argument :=
  buffers.map .buffer ++ scalars.map .scalar

/-- The buffers and the scalars, or `none` if a buffer follows a scalar. -/
def split? : List Argument → Option (List Buffer × List Scalar)
  | [] => some ([], [])
  | .buffer b :: rest => (split? rest).map fun p => (b :: p.1, p.2)
  | .scalar s :: rest =>
    (split? rest).bind fun p => if p.1 = [] then some ([], s :: p.2) else none

/-- The buffers and scalars of kernel `entry`, which expects `buffers` and `scalars` of them. -/
def split (entry : String) (args : List Argument) (buffers scalars : Nat) :
    Outcome DeviceError (List Buffer × List Scalar) :=
  (Outcome.orError (.invalidArguments entry .bufferAfterScalar) (split? args)).bind fun p =>
  (Outcome.ensure (p.1.length = buffers ∧ p.2.length = scalars)
    (.invalidArguments entry (.counts buffers scalars p.1.length p.2.length))).bind fun _ =>
  .ok p

def countAt (entry : String) (scalars : List Scalar) (index : Nat) : Outcome DeviceError Nat :=
  Outcome.orError (.invalidArguments entry (.notACount index))
    ((scalars[index]?).bind Scalar.toNat?)

end Argument

end ExpertExchange
