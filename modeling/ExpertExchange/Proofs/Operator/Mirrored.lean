import ExpertExchange.Operator.Add
import ExpertExchange.Operator.RunningLocation
import ExpertExchange.Proofs.Kernel.Mirrored

/-!
# Operators on mirrored platforms

On platforms that mirror each other the operators register the same kernels and do the same.
-/

namespace ExpertExchange

open Act Invoker

variable {S : Service} {σ τ F E α : Type} {R : τ → σ → Prop} {P' : Platform S τ F E}
  {P : Platform S σ F E} {compilers' : List (Compiler S τ)} {compilers : List (Compiler S σ)}

lemma Operator.mirrors_onPlatform {m' : Act S τ DeviceError α} {m : Act S σ DeviceError α}
    (hm : m'.Mirrors R m) :
    (onPlatform m' : OperatorAct S τ F α).Mirrors (Twins R compilers' compilers) (onPlatform m) :=
  .first (.mapError hm)

namespace AddKernels

lemma mirrors_installEach (hP : P'.Mirrors R P) (types : List Dtype) :
    (installEach P' types).Mirrors (Twins R compilers' compilers) (installEach P types) := by
  induction types with
  | nil => exact .pure []
  | cons t rest ih =>
    rw [installEach, installEach]
    cases Add.source? t with
    | none => exact ih
    | some source =>
      refine .bind (mirrors_inject hP source) ?_
      intro handle
      refine .bind ih ?_
      intro handles
      exact .pure _

lemma mirrors_install (hP : P'.Mirrors R P) :
    (install P').Mirrors (Twins R compilers' compilers) (install P) := by
  refine .bind (mirrors_installEach hP _) ?_
  intro handles
  exact .pure _

lemma mirrors_add (k : AddKernels) (hP : P'.Mirrors R P)
    (hcompilers : List.Forall₂ (Compiler.Mirrors R) compilers' compilers) {x y : Buffer} :
    (k.add P' x y).Mirrors (Twins R compilers' compilers) (k.add P x y) := by
  refine .bind (.ensure (x.dtype = y.dtype) _) ?_
  intro _
  refine .bind (.ensure (x.shape = y.shape) _) ?_
  intro _
  cases k.handle? x.dtype with
  | none => exact .fail _
  | some handle =>
    refine .bind (Operator.mirrors_onPlatform hP.stream) ?_
    intro stream
    refine .bind (Operator.mirrors_onPlatform hP.alloc) ?_
    intro out
    refine .bind (.ofOutcome x.count) ?_
    intro n
    refine .ite (.pure out) (.bind (.orElseClean (.mapError ?_) ?_) ?_)
    · exact mirrors_invokeOn hP hcompilers
    · exact Operator.mirrors_onPlatform hP.release
    · intro _
      exact .pure out

end AddKernels

namespace RunningLocationKernel

lemma mirrors_install (hP : P'.Mirrors R P) :
    (install P').Mirrors (Twins R compilers' compilers) (install P) := by
  refine .bind (mirrors_inject hP _) ?_
  intro handle
  exact .pure _

lemma mirrors_run (k : RunningLocationKernel) (hP : P'.Mirrors R P)
    (hcompilers : List.Forall₂ (Compiler.Mirrors R) compilers' compilers) {input : Buffer} :
    (k.run P' input).Mirrors (Twins R compilers' compilers) (k.run P input) := by
  refine .bind (.ensure (input.dtype = .i64) _) ?_
  intro _
  rcases input with ⟨dtype, _ | ⟨samples, _ | ⟨batch, _ | ⟨more, rest⟩⟩⟩, device, cell⟩
  · exact .fail _
  · exact .fail _
  · refine .bind (.ensure (samples ≤ maxSamples ∧ batch < Word.bound32) _) ?_
    intro _
    refine .bind (Operator.mirrors_onPlatform hP.stream) ?_
    intro stream
    refine .bind (Operator.mirrors_onPlatform hP.alloc) ?_
    intro output
    refine .ite (.pure output) (.bind (.orElseClean (.mapError ?_) ?_) ?_)
    · exact mirrors_invokeOn hP hcompilers
    · exact Operator.mirrors_onPlatform hP.release
    · intro _
      exact .pure output
  · exact .fail _

end RunningLocationKernel

end ExpertExchange
