import ExpertExchange.Session.Compiling
import ExpertExchange.Session.Host

/-!
# A trial run

Everything that one process records when it forms a group of its own on one simulated device,
leaves it, and compiles a kernel for an accelerator that the machine does not have.
-/

namespace ExpertExchange

namespace Trial

/-- One simulated device, and no settings. -/
def setup : Setup := ⟨1, 30000, .none⟩

/-- A group with the process as its only member is formed and left. -/
def groupRecords : List LogRecord :=
  match World.participant setup with
  | .ok p =>
    let joining := (World.call setup (.common (.group (.init .global [1] 1 0 0))) p).runWith
      Network.answer .empty
    let leaving := (World.call setup (.common (.group .shutdown)) joining.1.2).runWith
      Network.answer joining.2
    p.state.log ++ joining.1.1.records ++ leaving.1.1.records
  | _ => []

/-- A kernel is compiled where there is neither a toolkit nor a vendor library. -/
def compiling : Compiling where
  text := "__global__ void k(int* x) \x7b\x7d"
  chain := .forDevice
  settings := .none
  target := ⟨"80", "/nonexistent"⟩
  device := 0
  times := 1

def compilingRecords : List LogRecord :=
  match compiling.run .bare with
  | .ok (_, answers) => answers.flatMap (·.records)
  | _ => []

def records : List LogRecord := groupRecords ++ compilingRecords

end Trial

end ExpertExchange
