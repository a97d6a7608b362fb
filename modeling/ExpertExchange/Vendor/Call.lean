import ExpertExchange.Act
import ExpertExchange.Bytes
import ExpertExchange.Device.Geometry

/-!
# Calls to the vendor

What the library asks of the machine it runs on when there is a real accelerator: functions of the
vendor's shared libraries, the libraries themselves, the toolkit's compiler driver, and the
environment. All of it is one service; nothing here says what the answers are.
-/

namespace ExpertExchange

/-- How a program ended. -/
inductive ExitStatus where
  | code (n : Nat)
  | signal (n : Nat) (name : String)
  deriving Repr, DecidableEq

def ExitStatus.text : ExitStatus → String
  | .code n => s!"exit status: {n}"
  | .signal n name => s!"signal: {n} ({name})"

inductive CompilerRun where
  /-- It could not be started. -/
  | notStarted (cause : String)
  /-- It ended; what it wrote as diagnostics, and the image file, or why that cannot be read. -/
  | ended (status : ExitStatus) (diagnostics : Bytes) (image : Except String Bytes)

/-- Functions of the vendor's libraries. Handles and addresses are numbers, and zero is none. -/
inductive VendorCall where
  | setDevice (device : Int)
  | deviceCount
  | deviceAttribute (index : Nat) (device : Int)
  | deviceSynchronize
  | streamCreate (flags : Nat)
  | streamSynchronize (stream : Nat)
  | eventCreate (flags : Nat)
  | eventRecord (event stream : Nat)
  | streamWaitEvent (stream event flags : Nat)
  | eventDestroy (event : Nat)
  | malloc (size : Nat)
  | free (address : Nat)
  | mallocAsync (size stream : Nat)
  | freeAsync (address stream : Nat)
  /-- Copy bytes of the host to the device. -/
  | copyIn (target : Nat) (content : Bytes)
  /-- Copy bytes of the device to the host. -/
  | copyOut (source size : Nat)
  | moduleLoad (image : Bytes) (options : List (Nat × Nat))
  | moduleFunction (handle : Nat) (name : String)
  | moduleUnload (handle : Nat)
  | launch (function : Nat) (geometry : Geometry) (shared stream : Nat) (slots : List Nat)
  | occupancy (function dynamic limit : Nat)
  | compilerCreate (source : String)
  | compilerCompile (program : Nat) (options : List String)
  | compilerPtxSize (program : Nat)
  | compilerPtx (program : Nat)
  | compilerLogSize (program : Nat)
  | compilerLog (program : Nat)
  | compilerDestroy (program : Nat)
  | ncclVersion
  | ncclId
  /-- Waits for the other ranks. -/
  | ncclInit (worldSize : Int) (id : Bytes) (rank : Int)
  | ncclDevice (comm : Nat)
  | ncclDestroy (comm : Nat)
  | ncclAllReduce (source target count datatype op comm stream : Nat)
  | ncclBroadcast (source target count datatype : Nat) (root : Int) (comm stream : Nat)
  | ncclSend (source count datatype : Nat) (peer : Int) (comm stream : Nat)
  | ncclRecv (target count datatype : Nat) (peer : Int) (comm stream : Nat)
  | ncclGroupStart
  | ncclGroupEnd
  deriving Repr, DecidableEq

namespace VendorCall

/-- What a call gives besides its code, if it succeeds: a handle or a number, bytes, two numbers,
or for joining a group the handle and the milliseconds waited. -/
def Value : VendorCall → Type
  | .copyOut _ _ | .compilerPtx _ | .compilerLog _ | .ncclId => Bytes
  | .occupancy _ _ _ => Int × Int
  | .deviceCount | .deviceAttribute _ _ | .ncclVersion | .ncclDevice _ => Int
  | .ncclInit _ _ _ => Nat × Nat
  | _ => Nat

end VendorCall

/-- The libraries that describe their error codes. -/
inductive CodeSpace where
  | runtime | driver | compiler | nccl
  deriving Repr, DecidableEq

inductive MachineRequest where
  /-- The value of an environment variable. -/
  | environment (name : String)
  /-- Open a shared library; its handle, or why it cannot be opened. -/
  | openLibrary (name : String)
  /-- Look for a function in an open library; why it is not there, if it is not. -/
  | symbol (library : Nat) (name : String)
  /-- Whether there is a file. -/
  | fileExists (path : String)
  /-- Run the compiler driver on a source, with further options. -/
  | runCompiler (path source : String) (options : List String)
  /-- The description of an error code, if there is one. -/
  | errorText (space : CodeSpace) (code : Int)
  /-- Start a thread; why it cannot be started, if it cannot. -/
  | startThread (name : String)
  | call (c : VendorCall)
  deriving Repr, DecidableEq

/-- The machine as a service. A call gives its code, zero for success, and its value. -/
def Machine : Service where
  Request := MachineRequest
  Answer
    | .environment _ => Option String
    | .openLibrary _ => Except String Nat
    | .symbol _ _ => Option String
    | .fileExists _ => Bool
    | .runCompiler _ _ _ => CompilerRun
    | .errorText _ _ => Option String
    | .startThread _ => Option String
    | .call c => Int × c.Value

namespace Machine

variable {σ ε : Type}

def call (c : VendorCall) : Act Machine σ ε (Int × c.Value) := Act.request (S := Machine) (.call c)

/-- The description of an error code, if there is one. -/
def errorText (space : CodeSpace) (code : Int) : Act Machine σ ε (Option String) :=
  Act.request (S := Machine) (.errorText space code)

/-- Start a thread; why it cannot be started, if it cannot. -/
def startThread (name : String) : Act Machine σ ε (Option String) :=
  Act.request (S := Machine) (.startThread name)

def environment? (name : String) : Act Machine σ ε (Option String) :=
  Act.request (S := Machine) (.environment name)

def openLibrary (name : String) : Act Machine σ ε (Except String Nat) :=
  Act.request (S := Machine) (.openLibrary name)

/-- Every one of these functions has to be in the library; `fail` states which one is not, and
why. -/
def checkSymbols (library : Nat) (fail : String → String → ε) :
    List String → Act Machine σ ε Unit
  | [] => pure ()
  | name :: rest => do
    let missing : Option String ← Act.request (S := Machine) (.symbol library name)
    match missing with
    | some cause => Act.fail (fail name cause)
    | none => checkSymbols library fail rest

def openFirst : List String → Act Machine σ ε (Option Nat)
  | [] => pure none
  | name :: rest => do
    match (← openLibrary name) with
    | .ok library => pure (some library)
    | .error _ => openFirst rest

end Machine

end ExpertExchange
