import ExpertExchange.Kernel.Compiler
import ExpertExchange.Settings.Basic
import ExpertExchange.Text.Lossy
import ExpertExchange.Vendor.Call

/-!
# The vendor's compilers

The toolkit's compiler driver turns a source into a native image ahead of time; the runtime
compiler turns it into assembly text.
-/

namespace ExpertExchange

namespace Cuda

variable {σ : Type}

/-- Options for the compiler driver, after the source and the image file. -/
def nvccOptions (arch : String) : List String :=
  ["--fatbin", "-O4", "-gencode", s!"arch=compute_{arch},code=sm_{arch}"]

def imageOfRun (path : String) : CompilerRun → Except String Image
  | .notStarted cause => .error s!"failed to run {path}: {cause}"
  | .ended status diagnostics image =>
    if status ≠ .code 0 then
      .error (s!"nvcc exited with {status.text}: " ++ Text.trim (Text.lossy diagnostics))
    else match image with
      | .error cause => .error cause
      | .ok [] => .error "nvcc produced an empty image"
      | .ok content => .ok (.binary content)

def nvcc : Compiler Machine σ where
  name := "nvcc"
  compile source target := do
    let path := Compiler.nvccPath target.sdkHome
    let present : Bool ← Act.request (S := Machine) (.fileExists path)
    if present then
      let run : CompilerRun ← Act.request (S := Machine)
        (.runCompiler path source.text (nvccOptions target.arch))
      match imageOfRun path run with
      | .ok image => pure image
      | .error log => Act.fail log
    else Act.fail (Compiler.nvccMissing path)

def nvrtcSymbols : List String :=
  ["nvrtcCreateProgram", "nvrtcCompileProgram", "nvrtcGetProgramLogSize", "nvrtcGetProgramLog",
    "nvrtcGetPTXSize", "nvrtcGetPTX", "nvrtcDestroyProgram", "nvrtcGetErrorString"]

def nvrtcText (code : Int) : Act Machine σ String String := do
  let text ← Machine.errorText .compiler code
  pure (text.getD s!"NVRTC error {code}")

/-- Call the runtime compiler; the call has to succeed. -/
def nvrtcRun (op : String) (c : VendorCall) : Act Machine σ String c.Value := do
  let answer ← Machine.call c
  if answer.1 = 0 then pure answer.2
  else Act.fail (s!"{op} failed: " ++ (← nvrtcText answer.1))

def untilNuls (content : Bytes) : String :=
  Text.lossy (content.reverse.dropWhile (· == 0)).reverse

def nvrtcPtx (program : Nat) : Act Machine σ String String := do
  let _ ← nvrtcRun "nvrtcGetPTX" (.compilerPtxSize program)
  let content : Bytes ← nvrtcRun "nvrtcGetPTX" (.compilerPtx program)
  pure (untilNuls content)

def nvrtcLog (program : Nat) : Act Machine σ String String := do
  let _ ← nvrtcRun "nvrtcGetProgramLog" (.compilerLogSize program)
  let content : Bytes ← nvrtcRun "nvrtcGetProgramLog" (.compilerLog program)
  pure (untilNuls content)

/-- Compile a program: its assembly text, or the log. -/
def nvrtcProgram (program : Nat) (options : List String) : Act Machine σ String String := do
  let answer ← Machine.call (.compilerCompile program options)
  if answer.1 = 0 then nvrtcPtx program
  else
    let log ← (nvrtcLog program).attempt
    let text ← nvrtcText answer.1
    Act.fail (s!"{text}: " ++ Text.trim (log.toOption.getD ""))

def nvrtcCompile (source : String) (options : List String) : Act Machine σ String Image := do
  Act.ensure ('\x00' ∉ source.toList) "kernel source contains a NUL byte"
  Act.ensure (∀ o ∈ options, '\x00' ∉ o.toList) "compiler option contains a NUL byte"
  let program : Nat ← nvrtcRun "nvrtcCreateProgram" (.compilerCreate source)
  let destroy : Act Machine σ String Unit := do
    let _ ← Machine.call (.compilerDestroy program)
    pure ()
  let text ← (nvrtcProgram program options).andFinally destroy
  pure (.ptx text)

def nvrtc : Compiler Machine σ where
  name := "nvrtc"
  compile source target := do
    match (← Machine.openFirst Compiler.nvrtcNames) with
    | none => Act.fail Compiler.nvrtcMissing
    | some library => do
      Machine.checkSymbols library (fun name cause => s!"{name}: {cause}") nvrtcSymbols
      nvrtcCompile source.text (Compiler.nvrtcOptions target)

def compilers (settings : Settings) : List (Compiler Machine σ) :=
  Compiler.forDevice settings.skipsNvcc nvcc nvrtc

end Cuda

end ExpertExchange
