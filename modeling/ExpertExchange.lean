import ExpertExchange.Log.View
import ExpertExchange.Proofs.Bytes.Chunk
import ExpertExchange.Proofs.Cuda.Released
import ExpertExchange.Proofs.Cuda.Unloaded
import ExpertExchange.Proofs.Device.Converted
import ExpertExchange.Proofs.Device.Held
import ExpertExchange.Proofs.Device.Touched
import ExpertExchange.Proofs.Exchange.AllExchanged
import ExpertExchange.Proofs.Exchange.Checked
import ExpertExchange.Proofs.Exchange.Courses
import ExpertExchange.Proofs.Exchange.Dealt
import ExpertExchange.Proofs.Exchange.Gathered
import ExpertExchange.Proofs.Exchange.Joined
import ExpertExchange.Proofs.Exchange.Layout
import ExpertExchange.Proofs.Exchange.Levels
import ExpertExchange.Proofs.Exchange.Narrowed
import ExpertExchange.Proofs.Exchange.OpenRounds
import ExpertExchange.Proofs.Exchange.Participant
import ExpertExchange.Proofs.Exchange.Pipeline
import ExpertExchange.Proofs.Exchange.Registered
import ExpertExchange.Proofs.Exchange.Regrouped
import ExpertExchange.Proofs.Exchange.Scattered
import ExpertExchange.Proofs.Exchange.Screened
import ExpertExchange.Proofs.Exchange.SlotHistory
import ExpertExchange.Proofs.Exchange.SumAdded
import ExpertExchange.Proofs.Exchange.SumRefused
import ExpertExchange.Proofs.Exchange.Tiled
import ExpertExchange.Proofs.Exchange.Touched
import ExpertExchange.Proofs.Exchange.Transposed
import ExpertExchange.Proofs.Group.Agreed
import ExpertExchange.Proofs.Group.Among
import ExpertExchange.Proofs.Group.Assembly
import ExpertExchange.Proofs.Group.Batched
import ExpertExchange.Proofs.Group.Bracketed
import ExpertExchange.Proofs.Group.Exchanged
import ExpertExchange.Proofs.Group.Lockstep
import ExpertExchange.Proofs.Group.Member
import ExpertExchange.Proofs.Group.Packed
import ExpertExchange.Proofs.Group.Unsummable
import ExpertExchange.Proofs.Host.OwnKernels
import ExpertExchange.Proofs.Host.Process
import ExpertExchange.Proofs.Kernel.Annotated
import ExpertExchange.Proofs.Kernel.CompiledOnce
import ExpertExchange.Proofs.Kernel.FallenBack
import ExpertExchange.Proofs.Kernel.Invoked
import ExpertExchange.Proofs.Kernel.Provided
import ExpertExchange.Proofs.Nccl.HandedOver
import ExpertExchange.Proofs.Operator.Accepted
import ExpertExchange.Proofs.Operator.Adjoint
import ExpertExchange.Proofs.Operator.Atomic
import ExpertExchange.Proofs.Operator.Scanned
import ExpertExchange.Proofs.Operator.TopOne
import ExpertExchange.Proofs.Settings.Resolved
import ExpertExchange.Session.Cached
import ExpertExchange.Session.Recorded
import ExpertExchange.Session.Rehearsal
import ExpertExchange.Session.Trial
import ExpertExchange.Settings.Revision
