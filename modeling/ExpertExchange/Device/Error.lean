import ExpertExchange.Dtype
import ExpertExchange.Text.Quoted

/-!
# Errors of a device platform

What can go wrong in a call to a platform, each cause with the values it depends on. The wording
of all of them is in `DeviceError.message`.
-/

namespace ExpertExchange

/-- Where the bytes of a buffer live. -/
inductive MemoryKind where
  | host | cuda
  deriving Repr, DecidableEq

def MemoryKind.name : MemoryKind → String
  | .host => "host"
  | .cuda => "cuda"

/-- Why an image or a buffer type is not supported. -/
inductive Unsupported where
  /-- A tensor whose element type has no buffer form. -/
  | tensorType (t : Dtype)
  /-- A buffer whose element type has no tensor form. -/
  | bufferType (t : Dtype)
  /-- The host platform loads host images only. -/
  | foreignImage (kind : String)
  /-- A host image that names another kernel. -/
  | otherEntry (exported requested : String)
  /-- Host images run on the host platform only. -/
  | hostImage
  deriving Repr, DecidableEq

namespace Unsupported

def platform : Unsupported → String
  | .hostImage => "cuda"
  | _ => "host"

def reason : Unsupported → String
  | .tensorType t => s!"tensor dtype {t.name} has no buffer mapping"
  | .bufferType t => s!"buffer dtype {t.name} has no tensor mapping"
  | .foreignImage kind => s!"cannot load a {kind} image"
  | .otherEntry exported requested =>
    "image exports \x60" ++ exported ++ "\x60, requested \x60" ++ requested ++ "\x60"
  | .hostImage => "host images only run on the host platform"

end Unsupported

/-- Why a kernel or a typed access rejected its arguments. -/
inductive BadArguments where
  /-- Buffers come before scalars. -/
  | bufferAfterScalar
  /-- The numbers of buffers and scalars, expected and given. -/
  | counts (buffers scalars givenBuffers givenScalars : Nat)
  /-- A scalar that has to be a count. -/
  | notACount (index : Nat)
  /-- A scalar that has to be a single-precision number. -/
  | notSingle (index : Nat)
  /-- The bytes that a permutation needs, more than a buffer has. -/
  | tooFewBytes (needed : Nat)
  /-- The values of a buffer do not make up the grid to be scanned. -/
  | scanSize (values samples batch : Nat)
  /-- Every buffer has to hold this many values. -/
  | valueCount (n : Nat)
  /-- The elements were asked for as another type. -/
  | readAs (held requested : Dtype)
  /-- The elements were supplied as another type. -/
  | writtenAs (held given : Dtype)
  /-- A name that cannot be passed to the driver. -/
  | nulInEntry
  deriving Repr, DecidableEq

def BadArguments.reason : BadArguments → String
  | .bufferAfterScalar => "buffer argument after a scalar"
  | .counts b s gb gs => s!"expected {b} buffers and {s} scalars, got {gb} and {gs}"
  | .notACount i => s!"scalar {i} must be a non-negative integer"
  | .notSingle i => s!"scalar {i} must be f32"
  | .tooFewBytes n => s!"{n} bytes exceed a buffer argument"
  | .scanSize v n b => s!"buffer of {v} values for a {n}x{b} scan"
  | .valueCount n => s!"every buffer must hold {n} values"
  | .readAs held requested => s!"buffer holds {held.name}, requested {requested.name}"
  | .writtenAs held given => s!"buffer holds {held.name}, got {given.name}"
  | .nulInEntry => "entry name contains a NUL byte"

/-- Why the tensor library refused a call. -/
inductive TensorError where
  /-- Tensors of two shapes were to be added. -/
  | shape (left right : List Nat)
  | dtype (left right : Dtype)
  /-- A reason that only the library knows. -/
  | other (reason : String)
  deriving Repr, DecidableEq

def TensorError.message : TensorError → String
  | .shape l r =>
    "shape mismatch in add, lhs: " ++ Text.bracketed l ++ ", rhs: " ++ Text.bracketed r
  | .dtype l r => s!"dtype mismatch in add, lhs: {l.name}, rhs: {r.name}"
  | .other reason => reason

inductive DeviceError where
  /-- A vendor library or one of its symbols is missing. -/
  | libraryLoad (library message : String)
  /-- A vendor call returned a code other than success. -/
  | driver (op : String) (code : Int) (message : String)
  /-- The platform has no such device. -/
  | invalidDevice (device count : Nat)
  /-- The buffer's memory is of another kind than the platform's. -/
  | memoryKind (expected actual : MemoryKind)
  /-- The bytes supplied do not fill the buffer, or overfill it. -/
  | sizeMismatch (expected actual : Nat)
  | unsupported (why : Unsupported)
  /-- The host platform has no kernel of this name. -/
  | missingHostKernel (entry : String)
  | invalidArguments (entry : String) (why : BadArguments)
  | tensor (why : TensorError)
  deriving Repr, DecidableEq

def DeviceError.message : DeviceError → String
  | .libraryLoad library message => s!"failed to load {library}: {message}"
  | .driver op code message => s!"{op} failed: {message} ({code})"
  | .invalidDevice device count => s!"invalid device {device}: platform has {count} devices"
  | .memoryKind expected actual =>
    s!"buffer on {actual.name} memory cannot be used by the {expected.name} runtime"
  | .sizeMismatch expected actual =>
    s!"buffer size mismatch: buffer holds {expected} bytes, got {actual}"
  | .unsupported why => s!"unsupported kernel image for {why.platform}: {why.reason}"
  | .missingHostKernel entry =>
    "no host implementation registered for kernel \x60" ++ entry ++ "\x60"
  | .invalidArguments entry why =>
    "kernel \x60" ++ entry ++ "\x60 rejected its arguments: " ++ why.reason
  | .tensor why => "tensor error: " ++ why.message

end ExpertExchange
