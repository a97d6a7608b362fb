import ExpertExchange.Kernel.Cache
import ExpertExchange.Kernel.Compiler
import ExpertExchange.Settings.Basic

/-!
# The kernel invoker

Registers kernel sources, compiles each one on the first use on a device, and launches it.
-/

namespace ExpertExchange

structure Invoker (S : Service) (σ F : Type) where
  compilers : List (Compiler S σ)
  notice : Notice
  cache : KernelCache F
  /-- Architectures asked for so far, by device. -/
  archs : List (Option String)
  sdkHome : String
  compilations : Nat
  launches : Nat

namespace Invoker

variable {S : Service} {σ F E ε : Type}

/-- An invoker without sources, on a platform with `devices` devices. -/
def create (devices : Nat) (compilers : List (Compiler S σ)) (settings : Settings) :
    Invoker S σ F where
  compilers := compilers
  notice := .ofPolicy settings.fallbackLogOrDefault
  cache := .empty devices
  archs := List.replicate devices none
  sdkHome := settings.sdkHomeOrDefault
  compilations := 0
  launches := 0

def cachePart : Part (σ × Invoker S σ F) (KernelCache F) :=
  ⟨fun s => s.2.cache, fun s c => (s.1, { s.2 with cache := c })⟩

/-- The platform and the gate for fallback records, as a part of platform and invoker. -/
def noticePart : Part (σ × Invoker S σ F) (σ × Notice) :=
  ⟨fun s => (s.1, s.2.notice), fun s n => (n.1, { s.2 with notice := n.2 })⟩

def onPlatform {α : Type} (m : Act S σ DeviceError α) :
    Act S (σ × Invoker S σ F) KernelError α :=
  (m.mapError .device).within Part.first

def log (P : Platform S σ F E) (level : LogLevel) (message : String)
    (fields : List (String × LogValue)) : Act S (σ × Invoker S σ F) KernelError Unit :=
  (P.log level .invoker message fields).within Part.first

def inject (P : Platform S σ F E) (text : String) :
    Act S (σ × Invoker S σ F) KernelError KernelHandle := do
  match KernelSource.parse text with
  | .error why => Act.fail (.malformed why)
  | .ok source =>
    log P .debug "injected kernel source"
      [("entry", .text source.entry), ("blocks", .shown source.geometry.blocks.text),
        ("threads", .shown source.geometry.threads.text)]
    let inserted ← Act.view fun s => s.2.cache.insert source
    Act.modify fun s => (s.1, { s.2 with cache := inserted.2 })
    pure inserted.1

def setSdkHome (P : Platform S σ F E) (path : String) :
    Act S (σ × Invoker S σ F) KernelError Unit := do
  Act.modify fun s => (s.1, { s.2 with sdkHome := path })
  log P .debug "updated SDK home" [("sdk_home", .shown path)]

def source (handle : KernelHandle) : Act S (σ × Invoker S σ F) KernelError KernelSource := do
  let k ← (fun s => .done (s.2.cache.get handle, s) :
    Act S (σ × Invoker S σ F) KernelError (CachedKernel F))
  pure k.source

def checkDevice (device : Nat) : Act S (σ × Invoker S σ F) KernelError Unit := do
  let devices ← Act.view fun s => s.2.archs.length
  Act.ensure (device < devices) (.invalidDevice device devices)

/-- The architecture of a device; the platform is asked once. -/
def arch (P : Platform S σ F E) (device : Nat) :
    Act S (σ × Invoker S σ F) KernelError String := do
  checkDevice device
  match (← Act.view fun s => s.2.archs[device]?) with
  | some (some name) => pure name
  | _ =>
    let name ← onPlatform (P.arch device)
    Act.modify fun s => (s.1, { s.2 with archs := s.2.archs.set device (some name) })
    pure name

def build (P : Platform S σ F E) (device : Nat) (source : KernelSource) :
    Act S (σ × Invoker S σ F) KernelError F := do
  let name ← arch P device
  let inv ← Act.view (·.2)
  let image ← (Compiler.compileWith P inv.compilers source ⟨name, inv.sdkHome⟩ device).within
    noticePart
  let f ← onPlatform (P.load device image source.entry source.launchBound)
  Act.modify fun s => (s.1, { s.2 with compilations := s.2.compilations + 1 })
  pure f

/-- The loaded kernel of a handle on a device; the first time, build it. -/
def function (P : Platform S σ F E) (handle : KernelHandle) (device : Nat) :
    Act S (σ × Invoker S σ F) KernelError F := do
  checkDevice device
  KernelCache.getOrCompile cachePart handle device (build P device)

def checkBuffers (device : Nat) : (index : Nat) → List Buffer → Outcome KernelError Unit
  | _, [] => .ok ()
  | index, b :: rest =>
    if b.device = device then checkBuffers device (index + 1) rest
    else .error (.deviceMismatch index device b.device)

def invokeOn (P : Platform S σ F E) (stream : Stream) (handle : KernelHandle)
    (buffers : List Buffer) (scalars : List Scalar) (geometry : GeometryOverride) :
    Act S (σ × Invoker S σ F) KernelError Unit := do
  Act.ofOutcome (checkBuffers stream.device 0 buffers)
  let f ← function P handle stream.device
  let declared ← source handle
  let resolved := geometry.resolve declared.geometry
  log P .trace "launching kernel"
    [("handle", .shown handle.text), ("device", .number stream.device),
      ("stream", .shown stream.kind.name), ("blocks", .shown resolved.blocks.text),
      ("threads", .shown resolved.threads.text)]
  onPlatform (P.launch f resolved (Argument.list buffers scalars) stream)
  Act.modify fun s => (s.1, { s.2 with launches := s.2.launches + 1 })

def invoke (P : Platform S σ F E) (handle : KernelHandle) (device : Nat)
    (buffers : List Buffer) (scalars : List Scalar) (geometry : GeometryOverride) :
    Act S (σ × Invoker S σ F) KernelError Unit := do
  checkDevice device
  let stream ← onPlatform (P.stream device .compute)
  invokeOn P stream handle buffers scalars geometry

def close (P : Platform S σ F E) : Act S (σ × Invoker S σ F) KernelError Unit := do
  let inv ← Act.view (·.2)
  Act.forEach inv.cache.kernels fun k =>
    Act.forEach k.slots fun
      | some f => onPlatform (P.unload f)
      | none => pure ()

end Invoker

end ExpertExchange
