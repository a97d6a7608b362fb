import ExpertExchange.Group.Communicator
import ExpertExchange.Group.Launch
import ExpertExchange.Proofs.Kernel.Mirrored

/-!
# Transports that mirror each other

Where every operation of a transport mirrors the operation of another, on mirrored platforms, the
collectives over the two mirror each other as well.
-/

namespace ExpertExchange

open Act

variable {S : Service} {σ τ F E T ε α : Type} {R : τ → σ → Prop} {P' : Platform S τ F E}
  {P : Platform S σ F E}

/-- Every operation of the first transport does what that of the second one does, on the same
link. -/
structure Transport.Mirrors (R : τ → σ → Prop) (X' : Transport S τ T) (X : Transport S σ T) :
    Prop where
  rank : X'.rank = X.rank
  worldSize : X'.worldSize = X.worldSize
  device : X'.device = X.device
  groupStart : X'.groupStart.Mirrors (Both R Eq) X.groupStart
  groupEnd : X'.groupEnd.Mirrors (Both R Eq) X.groupEnd
  send : ∀ {b range peer stream},
    (X'.send b range peer stream).Mirrors (Both R Eq) (X.send b range peer stream)
  recv : ∀ {b range peer stream},
    (X'.recv b range peer stream).Mirrors (Both R Eq) (X.recv b range peer stream)
  broadcast : ∀ {b root stream},
    (X'.broadcast b root stream).Mirrors (Both R Eq) (X.broadcast b root stream)
  allReduce : ∀ {b stream}, (X'.allReduce b stream).Mirrors (Both R Eq) (X.allReduce b stream)
  close : X'.close.Mirrors (Both R Eq) X.close

/-- The first collective library does what the second one does. -/
structure Backend.Mirrors (R : τ → σ → Prop) (B' : Backend S τ T) (B : Backend S σ T) : Prop where
  name : B'.name = B.name
  transport : B'.transport.Mirrors R B.transport
  freshId : B'.freshId.Mirrors R B.freshId
  connect : ∀ {id worldSize rank device timeout},
    (B'.connect id worldSize rank device timeout).Mirrors R
      (B.connect id worldSize rank device timeout)

lemma Launch.mirrors_groupId {B' : Backend S τ T} {B : Backend S σ T} (hB : B'.Mirrors R B)
    (launch : Launch) : (launch.groupId B').Mirrors R (launch.groupId B) := by
  refine .bind (.ensure (launch.rank < launch.worldSize) _) ?_
  intro _
  refine .ite (.bind hB.freshId ?_) (.fail _)
  intro id
  exact .ite (.fail _) (.pure id)

namespace Communicator

variable {X' : Transport S τ T} {X : Transport S σ T} {op : String} {b : Buffer}
  {inputs outputs : List Buffer}

abbrev Twins (R : τ → σ → Prop) : τ × Communicator T → σ × Communicator T → Prop := Both R Eq

lemma mirrors_onPlatform {m' : Act S τ DeviceError α} {m : Act S σ DeviceError α}
    (hm : m'.Mirrors R m) :
    (onPlatform m' : Act S (τ × Communicator T) ExchangeError α).Mirrors (Twins R) (onPlatform m) :=
  .first (.mapError hm)

lemma mirrors_onLink {m' : Act S (τ × T) ε α} {m : Act S (σ × T) ε α}
    (hm : m'.Mirrors (Both R Eq) m) : (onLink m').Mirrors (Twins R) (onLink m) := by
  refine .within ⟨?_, ?_⟩ hm
  · rintro ⟨t, c⟩ ⟨s, _⟩ ⟨h, rfl⟩
    exact ⟨h, rfl⟩
  · rintro ⟨t, c⟩ ⟨s, _⟩ ⟨t₁, l⟩ ⟨s₁, _⟩ ⟨h, rfl⟩ ⟨h₁, rfl⟩
    exact ⟨h₁, rfl⟩

lemma mirrors_topology :
    (topology? : Act S (τ × Communicator T) ε Topology).Mirrors (Twins R) topology? := by
  rintro ⟨t, c⟩ ⟨s, _⟩ ⟨h, rfl⟩
  exact .done ⟨rfl, h, rfl⟩

lemma mirrors_device (hX : X'.Mirrors R X) :
    (device X' : Act S (τ × Communicator T) ε Nat).Mirrors (Twins R) (device X) := by
  rintro ⟨t, c⟩ ⟨s, _⟩ ⟨h, rfl⟩
  exact .done ⟨congrArg Outcome.ok (congrFun hX.device c.link), h, rfl⟩

lemma mirrors_stream (hP : P'.Mirrors R P) (hX : X'.Mirrors R X) {kind : StreamKind} :
    (stream P' X' kind).Mirrors (Twins R) (stream P X kind) := by
  refine .bind (mirrors_device hX) ?_
  intro number
  exact mirrors_onPlatform hP.stream

lemma mirrors_checkDevice (hX : X'.Mirrors R X) :
    (checkDevice X' b).Mirrors (Twins R) (checkDevice X b) := by
  refine .bind (mirrors_device hX) ?_
  intro number
  exact .ensure (b.device = number) _

lemma mirrors_checkAlike (hX : X'.Mirrors R X) {dtype : Dtype} {buffers : List Buffer} :
    (checkAlike X' op dtype buffers).Mirrors (Twins R) (checkAlike X op dtype buffers) := by
  refine .forEach ?_
  intro b
  refine .bind (mirrors_checkDevice hX) ?_
  intro _
  exact .ensure (b.dtype = dtype) _

lemma mirrors_checkCounts {first : Buffer} :
    (checkCounts op first inputs : Act S (τ × Communicator T) ExchangeError Unit).Mirrors (Twins R)
      (checkCounts op first inputs) := by
  refine .forEach ?_
  intro b
  refine .bind (.ofOutcome b.count) ?_
  intro count
  refine .bind (.ofOutcome first.count) ?_
  intro expected
  exact .ensure (count = expected) _

lemma mirrors_checkBatch (hX : X'.Mirrors R X) :
    (checkBatch X' op inputs outputs).Mirrors (Twins R) (checkBatch X op inputs outputs) := by
  refine .bind (.ensure (inputs.length = outputs.length) _) ?_
  intro _
  cases inputs with
  | nil => exact .pure none
  | cons first rest =>
    refine .bind (mirrors_checkAlike hX) ?_
    intro _
    refine .bind mirrors_checkCounts ?_
    intro _
    exact .pure _

lemma mirrors_checkCapacity {needed : Nat} {buffers : List Buffer} :
    (checkCapacity op needed buffers : Act S (τ × Communicator T) ExchangeError Unit).Mirrors
      (Twins R) (checkCapacity op needed buffers) := by
  refine .forEach ?_
  intro b
  refine .bind (.ofOutcome b.count) ?_
  intro held
  exact .ensure (needed ≤ held) _

lemma mirrors_inRound (hX : X'.Mirrors R X) {m' : Act S (τ × T) ExchangeError Unit}
    {m : Act S (σ × T) ExchangeError Unit} (hm : m'.Mirrors (Both R Eq) m) :
    (inRound X' m').Mirrors (Both R Eq) (inRound X m) := by
  refine .bind hX.groupStart ?_
  intro _
  refine .bind hm ?_
  intro _
  exact hX.groupEnd

lemma mirrors_exchangeParts (hX : X'.Mirrors R X) {str : Stream} {size : Nat}
    {input output : Buffer} (sizes : List (Nat × Nat)) (peer sent received : Nat) :
    (exchangeParts X' str size input output peer sent received sizes).Mirrors (Both R Eq)
      (exchangeParts X str size input output peer sent received sizes) := by
  induction sizes generalizing peer sent received with
  | nil => exact .pure ()
  | cons part rest ih =>
    refine .bind hX.send ?_
    intro _
    refine .bind hX.recv ?_
    intro _
    exact ih _ _ _

lemma mirrors_allToAll (hP : P'.Mirrors R P) (hX : X'.Mirrors R X) {inSizes outSizes : List Nat} :
    (allToAll P' X' inputs outputs inSizes outSizes).Mirrors (Twins R)
      (allToAll P X inputs outputs inSizes outSizes) := by
  refine .bind mirrors_topology ?_
  intro place
  refine .bind (.ofOutcome _) ?_
  intro _
  refine .bind (.ofOutcome _) ?_
  intro _
  refine .bind (mirrors_checkBatch hX) ?_
  rintro (_ | dtype)
  · exact .pure ()
  refine .bind (.ofOutcome _) ?_
  intro sent
  refine .bind mirrors_checkCapacity ?_
  intro _
  refine .bind (.ofOutcome _) ?_
  intro received
  refine .bind mirrors_checkCapacity ?_
  intro _
  refine .bind (mirrors_stream hP hX) ?_
  intro compute
  refine .forEach ?_
  intro pair
  exact mirrors_onLink (mirrors_inRound hX (mirrors_exchangeParts hX _ _ _ _))

lemma mirrors_gatherParts (hX : X'.Mirrors R X) {str : Stream} {size own : Nat}
    {input output : Buffer} (sizes : List Nat) (peer received : Nat) :
    (gatherParts X' str size own input output peer received sizes).Mirrors (Both R Eq)
      (gatherParts X str size own input output peer received sizes) := by
  induction sizes generalizing peer received with
  | nil => exact .pure ()
  | cons count rest ih =>
    refine .bind (.ite hX.send (.pure ())) ?_
    intro _
    refine .bind (.ite hX.recv (.pure ())) ?_
    intro _
    exact ih _ _

lemma mirrors_allGather (hP : P'.Mirrors R P) (hX : X'.Mirrors R X) {sizes : List Nat} :
    (allGather P' X' inputs outputs sizes).Mirrors (Twins R)
      (allGather P X inputs outputs sizes) := by
  refine .bind mirrors_topology ?_
  intro place
  refine .bind (.ofOutcome _) ?_
  intro _
  refine .bind (mirrors_checkBatch hX) ?_
  rintro (_ | dtype)
  · exact .pure ()
  refine .bind (.ofOutcome _) ?_
  intro own
  refine .bind (.ofOutcome _) ?_
  intro total
  refine .bind mirrors_checkCapacity ?_
  intro _
  refine .bind mirrors_checkCapacity ?_
  intro _
  refine .bind (mirrors_stream hP hX) ?_
  intro compute
  refine .forEach ?_
  intro pair
  exact mirrors_onLink (mirrors_inRound hX (mirrors_gatherParts hX _ _ _))

lemma mirrors_broadcast (hP : P'.Mirrors R P) (hX : X'.Mirrors R X) {root : Nat} :
    (broadcast P' X' b root).Mirrors (Twins R) (broadcast P X b root) := by
  refine .bind mirrors_topology ?_
  intro place
  refine .bind (.ensure (root < place.worldSize) _) ?_
  intro _
  refine .bind (mirrors_checkDevice hX) ?_
  intro _
  refine .bind (mirrors_stream hP hX) ?_
  intro compute
  exact mirrors_onLink hX.broadcast

lemma mirrors_allReduce (hP : P'.Mirrors R P) (hX : X'.Mirrors R X) :
    (allReduce P' X' b).Mirrors (Twins R) (allReduce P X b) := by
  refine .bind (mirrors_checkDevice hX) ?_
  intro _
  refine .bind (mirrors_stream hP hX) ?_
  intro compute
  exact mirrors_onLink hX.allReduce

end Communicator

end ExpertExchange
