import ExpertExchange.Group.Transport
import ExpertExchange.Settings.Basic

/-!
# Launch settings

A launcher tells each process its rank, the number of processes and its device by environment
variables. Rank 0 makes the group id; with more than one process it has to reach the others.
-/

namespace ExpertExchange

structure Launch where
  rank : Nat
  worldSize : Nat
  /-- Device on this node. -/
  localRank : Nat
  masterAddr : String
  masterPort : Nat
  timeoutSecs : Nat
  deriving Repr, DecidableEq

namespace Launch

/-- A variable as a count; what is not a count is not read. -/
def count? (env : Settings.Environment) (name : String) : Option Nat :=
  (env name).bind fun value => Text.natural? Word.bound (Text.trim value)

/-- The launch settings given by environment variables; a process on its own has rank 0 of 1, and
the device is numbered like the rank. -/
def ofEnvironment (env : Settings.Environment) (settings : Settings) : Launch :=
  let rank := (count? env "RANK").getD 0
  { rank := rank
    worldSize := (count? env "WORLD_SIZE").getD 1
    localRank := (count? env "LOCAL_RANK").getD rank
    masterAddr := settings.masterAddrOrDefault
    masterPort := settings.masterPortOrDefault
    timeoutSecs := settings.timeoutSecsOrDefault }

def alone : Launch := ofEnvironment (fun _ => none) .none

/-- Whether there are other processes. -/
def isDistributed (l : Launch) : Bool := decide (1 < l.worldSize)

/-- The id of the group of all processes. Rank 0 makes it and hands it to the others, which takes a
connection between processes. There is none here, so that only a process on its own gets an id,
and the others wait in vain. -/
def groupId {S : Service} {σ T : Type} (B : Backend S σ T) (l : Launch) :
    Act S σ ExchangeError Bytes := do
  Act.ensure (l.rank < l.worldSize) (.invalidRank l.rank l.worldSize)
  let waited := Act.fail (.rendezvousTimeout (reportedTimeout (1000 * l.timeoutSecs)))
  if l.rank = 0 then
    let id ← B.freshId
    if l.isDistributed then waited else pure id
  else waited

end Launch

end ExpertExchange
