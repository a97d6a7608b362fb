import ExpertExchange.Kernel.Invoker

/-!
# What the operators share

An operator runs on a platform and on the kernels that an invoker holds for it.
-/

namespace ExpertExchange

/-- Errors of the operators; `op` names the operator. -/
inductive OperatorError where
  | shapeMismatch (op : String) (expected actual : List Nat)
  | dtypeMismatch (op : String) (expected actual : Dtype)
  | unsupportedDtype (op : String) (dtype : Dtype)
  /-- A sample is routed to a row that is not inside the dispatched buffer. -/
  | indexOutOfRange (op : String) (sample offset len : Nat)
  | kernel (cause : KernelError)
  | device (cause : DeviceError)
  deriving Repr, DecidableEq

def OperatorError.message : OperatorError → String
  | .shapeMismatch op expected actual =>
    s!"{op}: shape mismatch, expected " ++ Text.bracketed expected ++ ", got " ++
      Text.bracketed actual
  | .dtypeMismatch op expected actual =>
    s!"{op}: dtype mismatch, expected {expected.name}, got {actual.name}"
  | .unsupportedDtype op dtype => s!"{op}: no kernel for dtype {dtype.name}"
  | .indexOutOfRange op sample offset len =>
    s!"{op}: sample {sample} routes to offset {offset}, buffer holds {len} values"
  | .kernel cause => cause.message
  | .device cause => cause.message

abbrev OperatorAct (S : Service) (σ F α : Type) := Act S (σ × Invoker S σ F) OperatorError α

def Operator.onPlatform {S : Service} {σ F α : Type} (m : Act S σ DeviceError α) :
    OperatorAct S σ F α :=
  (m.mapError .device).within Part.first

end ExpertExchange
