import ExpertExchange.Text.Quoted

/-!
# Log records

A record says what happened and where, with named values. Records are data: an act appends them
to its log, and who shows which of them, and how, is decided later.
-/

namespace ExpertExchange

/-- Severity of a record, most severe first. -/
inductive LogLevel where
  | error | warn | info | debug | trace
  deriving Repr, DecidableEq

namespace LogLevel

def name : LogLevel → String
  | .error => "ERROR"
  | .warn => "WARN"
  | .info => "INFO"
  | .debug => "DEBUG"
  | .trace => "TRACE"

/-- How much detail the level admits; a filter at a level lets through what is not above it. -/
def detail : LogLevel → Nat
  | .error => 1
  | .warn => 2
  | .info => 3
  | .debug => 4
  | .trace => 5

end LogLevel

/-- The component that wrote a record. -/
inductive LogOrigin where
  | cudaPlatform | invoker | compiler | nvrtc | stride | dispatch
  | communicator | slots | network | nccl | scheduler | context
  deriving Repr, DecidableEq

/-- The target path of a component, which filters refer to. -/
def LogOrigin.path : LogOrigin → String
  | .cudaPlatform => "expertlink_core::runtime::cuda"
  | .invoker => "expertlink_core::jit::invoker"
  | .compiler => "expertlink_core::jit::compiler"
  | .nvrtc => "expertlink_core::jit::nvrtc"
  | .stride => "expertlink_core::exchange::stride_copy"
  | .dispatch => "expertlink_core::ops::sparse_dispatch"
  | .communicator => "expertlink_core::distributed::communicator"
  | .slots => "expertlink_core::distributed::events"
  | .network => "expertlink_core::distributed::sim"
  | .nccl => "expertlink_core::distributed::nccl"
  | .scheduler => "expertlink_core::exchange::scheduler"
  | .context => "expertlink_core::context"

/-- A value in a record: a text, the shown form of something else, a number, or the address of a
device allocation. -/
inductive LogValue where
  | text (s : String)
  | shown (s : String)
  | number (n : Int)
  | address (a : Nat)
  deriving Repr, DecidableEq

structure LogRecord where
  level : LogLevel
  origin : LogOrigin
  message : String
  fields : List (String × LogValue)
  deriving Repr, DecidableEq

namespace LogRecord

/-- The record on one line, texts as they are; `address` names device memory. -/
def line (address : Nat → String) (r : LogRecord) : String :=
  let value : LogValue → String
    | .text s => s
    | .shown s => s
    | .number n => toString n
    | .address a => address a
  r.level.name ++ " " ++ r.message ++
    String.join (r.fields.map fun f => " " ++ f.1 ++ "=" ++ value f.2)

/-- The record on one line with its origin, texts between quotes. -/
def prettyLine (r : LogRecord) : String :=
  let value : LogValue → String
    | .text s => Text.quoted s
    | .shown s => s
    | .number n => toString n
    | .address a => toString a
  r.level.name ++ " " ++ r.origin.path ++ ": " ++ r.message ++
    String.join (r.fields.map fun f => " " ++ f.1 ++ "=" ++ value f.2)

end LogRecord

end ExpertExchange
