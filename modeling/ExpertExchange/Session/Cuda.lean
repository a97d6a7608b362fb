import ExpertExchange.Cuda.Compilers
import ExpertExchange.Host.Kernels
import ExpertExchange.Nccl.Backend
import ExpertExchange.Session.Groups

/-!
# Sessions over the vendor's libraries

A session on the CUDA platform and the collective library.
-/

namespace ExpertExchange

/-- A session on the CUDA platform, with the number of devices once the platform has started. -/
structure CudaSession where
  devices : Nat
  session : Session Machine CudaState CudaFunction CudaEvent NcclLink

inductive CudaCommand where
  | common (c : Command)
  /-- Start the platform. -/
  | start
  /-- Force the context of a device to exist. -/
  | wake (device : Nat)
  /-- Launch a kernel that fills a buffer, read it and write it, all on the host platform. -/
  | probeHost (name : String)
  /-- Whether the collective library can be used. -/
  | hasNccl
  | startNccl
  /-- A new exchange context; the old one goes away first. -/
  | openContext (settings : Settings)
  | closeContext
  deriving Repr, DecidableEq

namespace CudaSession

/-- Nothing has started. -/
def empty : CudaSession := ⟨0, Session.start .empty⟩

def sessionPart : Part CudaSession (Session Machine CudaState CudaFunction CudaEvent NcclLink) :=
  ⟨CudaSession.session, fun s t => { s with session := t }⟩

def site (devices : Nat) : Site Machine CudaState CudaFunction CudaEvent where
  platform := Cuda.platform devices
  memory := CudaState.memory
  entryOf f := f.entry

end CudaSession

namespace CudaCommand

open Session CudaSession

abbrev CudaSessionAct (α : Type) := Act Machine CudaSession SessionError α

def onSession {α : Type}
    (m : Act Machine (Session Machine CudaState CudaFunction CudaEvent NcclLink) SessionError α) :
    CudaSessionAct α := m.within sessionPart

def onCuda {ε α : Type} (fail : ε → SessionError) (m : Act Machine CudaState ε α) :
    CudaSessionAct α := onSession (onState fail m)

def probeEntry : String := "probe"

def hostOutcome {α : Type} (f : α → Reply) (m : Act Machine HostState DeviceError α) :
    Act Machine HostState SessionError Reply := do
  let o ← ((m.mapError SessionError.device).attempt : Act Machine HostState SessionError _)
  pure (.ended (o.bind fun a => .ok (f a)))

def launchProbe (P : Platform Machine HostState HostFunction HostEvent) (b : Buffer) :
    Act Machine HostState DeviceError Unit := do
  let f ← P.load 0 (.host probeEntry) probeEntry PlatformCommand.usualBound
  P.launch f .unit [.buffer b] (Heap.hostOwner 0)

/-- Use a buffer on the host platform: launch the filling kernel, read it, and write it. -/
def probe (b : Buffer) : Act Machine HostState SessionError Reply := do
  let P : Platform Machine HostState HostFunction HostEvent := Host.platform 1
  let launched ← hostOutcome (fun _ => .nothing) (launchProbe P b)
  let read ← hostOutcome .bytes (P.read b)
  let size ← Act.ofOutcome b.byteCount
  let written ← hostOutcome (fun _ => .nothing) (P.write b (List.replicate size 2))
  let trace ← Act.view HostState.trace
  pure (.fields [("launch", launched), ("read", read), ("write", written),
    ("events", .list (trace.map fun e => .text e.text))])

/-- Run on a fresh host platform that has the same buffers. -/
def onFreshHost {α : Type} (m : Act Machine HostState SessionError α) :
    Act Machine CudaState SessionError α := fun s =>
  (m ⟨s.heap, [(probeEntry, SampleKernel.probe.kernel probeEntry)], [], []⟩).bind fun r =>
    .done (r.1, { s with heap := r.2.heap })

def leaveContext (devices : Nat) : CudaSessionAct Unit := do
  match (← Act.view fun s => s.session.context) with
  | none => pure ()
  | some _ => onSession (onContext (Context.close (Cuda.platform devices) (Nccl.backend devices)))
  Act.modify fun s => { s with session := { s.session with context := none } }

/-- Start the platform; a platform that is started anew has no streams yet. -/
def startPlatform : CudaSessionAct Reply := do
  let devices ← onCuda .device Cuda.start
  onCuda id (Act.modify fun s => { s with streams := [] })
  Act.modify fun s => { s with devices := devices }
  onSession (PlatformCommand.overview.run (site devices))

def enterContext (devices : Nat) (settings : Settings) : CudaSessionAct Reply := do
  let P := Cuda.platform devices
  let B := Nccl.backend devices
  leaveContext devices
  let _ ← onCuda .exchange Nccl.start
  let context ← onCuda .exchange (Context.create P B (Cuda.compilers settings) settings)
  Act.modify fun s => { s with session := { s.session with context := some context } }
  pure (.fields [("backend", .text B.name), ("platform", .text P.name)])

/-- Carry out a command on a platform with so many devices. -/
def run (devices : Nat) : CudaCommand → CudaSessionAct Reply
  | .common c => onSession (c.run (site devices) (Nccl.backend devices))
  | .start => startPlatform
  | .wake device => do
    onCuda .device (Cuda.wakeDevice devices device)
    pure .nothing
  | .probeHost name => do
    let b ← onSession (find name)
    onCuda id (onFreshHost (probe b))
  | .hasNccl => do pure (.flag (← onCuda .exchange Nccl.isAvailable))
  | .startNccl => do
    let version ← onCuda .exchange Nccl.start
    pure (.fields [("name", .text (Nccl.backend devices).name),
      ("version", .list ((Nccl.versionParts version).map .number))])
  | .openContext settings => enterContext devices settings
  | .closeContext => do
    leaveContext devices
    pure .nothing

end CudaCommand

end ExpertExchange
