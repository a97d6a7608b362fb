import ExpertExchange.Device.Error

/-!
# Errors of kernel compilation and launch
-/

namespace ExpertExchange

/-- Number of a registered kernel, in the order of registration. -/
structure KernelHandle where
  index : Nat
  deriving Repr, DecidableEq

def KernelHandle.text (h : KernelHandle) : String := s!"#{h.index}"

/-- Why a text is not a kernel source. -/
inductive Malformation where
  /-- The marker of the entry point is missing. -/
  | noMarker
  /-- The marker occurs more than once. -/
  | markers (count : Nat)
  /-- What follows the marker does not declare a function. -/
  | noName
  /-- A reason stated elsewhere. -/
  | other (reason : String)
  deriving Repr, DecidableEq

def Malformation.reason : Malformation → String
  | .noMarker => "no \x60__global__\x60 entry point"
  | .markers n =>
    "\x60__global__\x60 appears " ++ toString n ++ " times, expected exactly once"
  | .noName => "\x60__global__\x60 is not followed by \x60void <name>(\x60"
  | .other reason => reason

inductive KernelError where
  | malformed (why : Malformation)
  /-- Every compiler failed. -/
  | compilation (entry : String) (device : Nat) (arch details : String)
  | unknownHandle (handle : KernelHandle)
  | invalidDevice (device count : Nat)
  /-- A buffer lives on another device than the launch. -/
  | deviceMismatch (index expected actual : Nat)
  | device (cause : DeviceError)
  deriving Repr, DecidableEq

def KernelError.message : KernelError → String
  | .malformed why => "malformed kernel source: " ++ why.reason
  | .compilation entry target arch details =>
    "failed to compile \x60" ++ entry ++ "\x60 for device " ++ toString target ++
      " (arch " ++ arch ++ "): " ++ details
  | .unknownHandle handle => s!"unknown kernel handle {handle.text}"
  | .invalidDevice number count => s!"invalid device {number}: platform has {count} devices"
  | .deviceMismatch index expected actual =>
    s!"buffer {index} is on device {actual}, launch targets device {expected}"
  | .device cause => cause.message

end ExpertExchange
