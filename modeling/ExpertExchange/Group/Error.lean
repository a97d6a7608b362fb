import ExpertExchange.Bytes
import ExpertExchange.Operator.Basic
import ExpertExchange.Text.Number

/-!
# Errors of groups and exchanges

What can go wrong when participants form a group or exchange data. The wording of all causes is in
`ExchangeError.message`.
-/

namespace ExpertExchange

/-- The two groups of a process: the global one carries the pipelined exchange, the shared one the
batched collectives. -/
inductive GroupKind where
  | global | shared
  deriving Repr, DecidableEq

def GroupKind.name : GroupKind → String
  | .global => "global"
  | .shared => "shared"

/-- Why a layout is refused. -/
inductive SplitFault where
  /-- Every stage needs a slot of its own. -/
  | stageCount (stages maxStages : Nat)
  /-- Every rank gets the same positive number of slices of a stage. -/
  | sliceCount (slices worldSize : Nat)
  | unevenSlices (total slices : Nat)
  | unevenRanks (total worldSize : Nat)
  | unevenNodes (worldSize localSize : Nat)
  /-- A gather takes one buffer per stage. -/
  | stageBuffers (op : String) (given stages : Nat)
  | noStages (op : String)
  /-- A list of sizes has one entry per participant. -/
  | entries (op list : String) (given worldSize : Nat)
  deriving Repr, DecidableEq

def SplitFault.reason : SplitFault → String
  | .stageCount n limit => s!"num_split {n} must be in 1..={limit}"
  | .sliceCount n w =>
    s!"num_slices_per_split {n} is not a positive multiple of world_size {w}"
  | .unevenSlices total n => s!"{total} bytes do not divide into {n} slices"
  | .unevenRanks total w => s!"{total} bytes do not divide among {w} ranks"
  | .unevenNodes w l => s!"world_size {w} is not a multiple of local_size {l}"
  | .stageBuffers op given n => s!"{op}: {given} stage buffers for num_split {n}"
  | .noStages op => s!"{op}: num_split must be positive"
  | .entries op list given w => s!"{op}: {list} has {given} entries for {w} participants"

/-- Why a transfer over the simulated network failed; waiting times are in milliseconds. -/
inductive TransferFault where
  | outside (range : ByteRange) (size : Nat)
  | silence (rank peer timeout : Nat)
  | wrongLength (rank expected peer actual : Nat)
  /-- A round was closed that was never opened. -/
  | noOpenRound
  deriving Repr, DecidableEq

def TransferFault.reason : TransferFault → String
  | .outside range size => s!"byte range {range.text} outside a {size}-byte buffer"
  | .silence rank peer timeout =>
    s!"rank {rank} received nothing from rank {peer} within {Text.milliseconds timeout}"
  | .wrongLength rank expected peer actual =>
    s!"rank {rank} expected {expected} bytes from rank {peer}, got {actual}"
  | .noOpenRound => "group_end without a matching group_start"

/-- Why a group could not be joined. -/
inductive JoinFault where
  /-- The group has another size than the participant was told. -/
  | otherSize (formed joined : Nat)
  /-- Group ids of the collective library have a fixed length. -/
  | idLength (expected actual : Nat)
  deriving Repr, DecidableEq

def JoinFault.reason : JoinFault → String
  | .otherSize formed joined =>
    s!"group already formed with world_size {formed}, joined with {joined}"
  | .idLength expected actual => s!"NCCL unique id must be {expected} bytes, got {actual}"

/-- Why a call to the collective library failed. -/
inductive NcclFault where
  /-- None of the places to look for the library has it. -/
  | notFound (tried : List String)
  | missingSymbol (name cause : String)
  | noVersion
  /-- A call returned a code other than success. -/
  | call (op cause : String)
  /-- A reason stated elsewhere. -/
  | other (reason : String)
  deriving Repr, DecidableEq

def NcclFault.reason : NcclFault → String
  | .notFound tried => "failed to load NCCL, tried " ++ ", ".intercalate tried
  | .missingSymbol name cause => s!"{name}: {cause}"
  | .noVersion => "failed to get NCCL version"
  | .call op cause => s!"{op}: {cause}"
  | .other reason => reason

/-- Errors of groups and exchanges; `op` names the operation. -/
inductive ExchangeError where
  | invalidRank (rank worldSize : Nat)
  | shapeMismatch (op : String) (expected actual : List Nat)
  /-- Without an expected type, any type of the collective library would do. -/
  | dtypeMismatch (op : String) (expected : Option Dtype) (actual : Dtype)
  | invalidSplit (why : SplitFault)
  | slotOutOfRange (slot capacity : Nat)
  /-- Not all participants joined in time, in milliseconds. -/
  | rendezvousTimeout (timeout : Nat)
  | rendezvous (why : JoinFault)
  | notInitialized (group : GroupKind)
  | alreadyInitialized (group : GroupKind)
  | nccl (why : NcclFault)
  | transport (why : TransferFault)
  | deviceMismatch (expected actual : Nat)
  | device (cause : DeviceError)
  | kernel (cause : KernelError)
  | operator (cause : OperatorError)
  /-- Contributions to a sum were not added. -/
  | tensor (why : TensorError)
  deriving Repr, DecidableEq

def ExchangeError.message : ExchangeError → String
  | .invalidRank rank worldSize => s!"invalid rank {rank}: must be < world_size {worldSize}"
  | .shapeMismatch op expected actual =>
    s!"{op}: shape mismatch, expected " ++ Text.bracketed expected ++ ", got " ++
      Text.bracketed actual
  | .dtypeMismatch op expected actual =>
    s!"{op}: dtype mismatch, expected " ++
      (match expected with
        | some t => t.name
        | none => "an NCCL-supported dtype") ++ s!", got {actual.name}"
  | .invalidSplit why => "invalid split: " ++ why.reason
  | .slotOutOfRange slot capacity =>
    s!"event slot {slot} out of range: pool holds {capacity} slots"
  | .rendezvousTimeout timeout => s!"rendezvous timed out after {timeout}ms"
  | .rendezvous why => "rendezvous failed: " ++ why.reason
  | .notInitialized group => s!"{group.name} communicator is not initialized"
  | .alreadyInitialized group => s!"{group.name} communicator is already initialized"
  | .nccl why => "NCCL error: " ++ why.reason
  | .transport why => "transport error: " ++ why.reason
  | .deviceMismatch expected actual =>
    s!"buffer on device {actual}, communicator bound to device {expected}"
  | .device cause => cause.message
  | .kernel cause => cause.message
  | .operator cause => cause.message
  | .tensor why => "tensor error: " ++ why.message

end ExpertExchange
