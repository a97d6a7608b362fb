import ExpertExchange.Device.Platform
import ExpertExchange.Kernel.Source
import ExpertExchange.Notice

/-!
# Compilers

A compiler turns a kernel source into an image, or fails with a log. Compilers are tried in order
until one succeeds; each hand-over to the next one is a fallback.
-/

namespace ExpertExchange

/-- What to compile for: the device architecture and the toolkit location. -/
structure CompileTarget where
  arch : String
  sdkHome : String
  deriving Repr, DecidableEq

/-- One way of turning a kernel source into an image; the error is the compiler's log. -/
structure Compiler (S : Service) (σ : Type) where
  name : String
  compile : KernelSource → CompileTarget → Act S σ String Image

def joinPath (directory name : String) : String :=
  if name.startsWith "/" then name
  else if directory = "" ∨ directory.endsWith "/" then directory ++ name
  else directory ++ "/" ++ name

namespace Compiler

variable {S : Service} {σ F E : Type}

/-- The compiler of the host platform: the image names the entry point. -/
def host : Compiler S σ := ⟨"host", fun source _ => pure (.host source.entry)⟩

def failing (name log : String) : Compiler S σ := ⟨name, fun _ _ => Act.fail log⟩

def nvccPath (sdkHome : String) : String := joinPath (joinPath sdkHome "bin") "nvcc"

/-- The log where the toolkit has no compiler driver. -/
def nvccMissing (path : String) : String :=
  s!"CUDA compiler not found at {path}; set CUDA_HOME to the toolkit location"

def nvrtcNames : List String := ["libnvrtc.so.12", "libnvrtc.so.11.2", "libnvrtc.so"]

/-- The log where the runtime compiler is not installed. -/
def nvrtcMissing : String := "failed to load NVRTC, tried " ++ ", ".intercalate nvrtcNames

def nvrtcOptions (target : CompileTarget) : List String :=
  ["--restrict", "--include-path=" ++ joinPath target.sdkHome "include",
    "--gpu-architecture=compute_" ++ target.arch, "--use_fast_math",
    "--extra-device-vectorization"]

/-- The compilers for a device: the driver first, unless the settings skip it. -/
def forDevice (skipsNvcc : Bool) (nvcc nvrtc : Compiler S σ) : List (Compiler S σ) :=
  if skipsNvcc then [nvrtc] else [nvcc, nvrtc]

/-- Record a hand-over to the next compiler, if there is one and the policy lets it through. -/
def noteFallback (P : Platform S σ F E) (entry : String) (failed : Compiler S σ) (log : String) :
    List (Compiler S σ) → Act S (σ × Notice) KernelError Unit
  | [] => pure ()
  | next :: _ => do
    let fires ← Act.view fun s => s.2.fire.1
    Act.modify fun s => (s.1, s.2.fire.2)
    if fires then
      (P.log .warn .compiler "kernel compilation failed, falling back"
        [("entry", .text entry), ("backend", .text failed.name), ("next", .text next.name),
          ("error", .shown log)]).within Part.first
    else pure ()

/-- Try the compilers in order; `logs` are those of the ones that failed already. -/
def tryEach (P : Platform S σ F E) (source : KernelSource) (target : CompileTarget)
    (device : Nat) : List (Compiler S σ) → (logs : List String) →
    Act S (σ × Notice) KernelError Image
  | [], logs =>
    Act.fail (.compilation source.entry device target.arch ("; ".intercalate logs))
  | c :: rest, logs =>
    Act.bind ((c.compile source target).attempt.within Part.first) fun
      | .ok image => Act.bind
          ((P.log .debug .compiler "compiled kernel"
            [("entry", .text source.entry), ("device", .number device),
              ("arch", .text target.arch), ("backend", .text c.name),
              ("image", .text image.kind)]).within Part.first)
          fun _ => pure image
      | .error log => Act.bind (noteFallback P source.entry c log rest) fun _ =>
          tryEach P source target device rest (logs ++ [s!"{c.name}: {log}"])
      | .fault reason => Act.fault reason

def compileWith (P : Platform S σ F E) (compilers : List (Compiler S σ)) (source : KernelSource)
    (target : CompileTarget) (device : Nat) : Act S (σ × Notice) KernelError Image :=
  tryEach P source target device compilers []

/-- What is said about a list of compilers that is empty. -/
def emptyChain : String := "compiler chain needs at least one backend"

end Compiler

end ExpertExchange
