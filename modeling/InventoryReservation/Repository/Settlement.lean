import InventoryReservation.Repository.Inventory

/-! # Settling allocations

Confirming and releasing walk the allocations of a reservation in the same way and differ in their
values only: the status an allocation ends in, the update of an internal offer, the provider call, the
texts, and how outcomes are summed up. `Settlement` holds these values; `confirmation` and `releasing`
are its two instances, and the functions of the repository are the walk applied to one of them.
-/

namespace InventoryReservation
set_option autoImplicit false

open Relational

/-! ## Context of an attempt -/

structure ProviderOperationContext where
  reservationId : Uuid
  retryUnknown : Bool
  maxAttempts : ℕ
  retryStartedAt : Option Instant
  retryBaseDelay : Option Duration

/-- The context of a request, which never retries an unknown outcome. -/
def ProviderOperationContext.request (reservationId : Uuid) : ProviderOperationContext where
  reservationId
  retryUnknown := false
  maxAttempts := 1
  retryStartedAt := none
  retryBaseDelay := none

/-- The instant of the next attempt; an interval or instant out of range raises. -/
def ProviderOperationContext.nextAttemptAt (context : ProviderOperationContext) (attemptCount : ℕ) :
    Except Failure (Option Instant) :=
  match context.retryStartedAt, context.retryBaseDelay with
  | some retryStartedAt, some retryBaseDelay =>
    let retryNumber := attemptCount - 2
    let delay := retryBaseDelay * 2 ^ retryNumber
    if Duration.longest < delay then .error .overflow
    else if Instant.last < retryStartedAt + delay then .error .overflow
    else .ok (some (retryStartedAt + delay))
  | _, _ => .ok none

/-- The outcome of this operation is unknown and the context does not retry it. -/
def ProviderOperationContext.keepsUnknown (context : ProviderOperationContext)
    (operation : ProviderOperationModel) : Prop :=
  operation.status = .unknown ∧
    (¬ context.retryUnknown ∨ context.maxAttempts ≤ operation.attemptCount)

instance (context : ProviderOperationContext) (operation : ProviderOperationModel) :
    Decidable (context.keepsUnknown operation) :=
  inferInstanceAs (Decidable (_ ∧ _))

/-! ## Rows of a walk -/

/-- A row of the query that joins allocations with their item and provider. -/
structure AllocationRow where
  allocation : InventoryAllocationModel
  productId : Uuid
  provider : InventoryProviderModel
  deriving DecidableEq

/-- The joined row of an allocation, when it belongs to the reservation. -/
def Database.joinAllocation (database : Database) (reservationId : Uuid)
    (allocation : InventoryAllocationModel) : Option AllocationRow :=
  match database.items.find? allocation.reservationItemId,
      database.providers.find? allocation.providerId with
  | some item, some provider =>
    if item.reservationId = reservationId then some ⟨allocation, item.productId, provider⟩ else none
  | _, _ => none

def Database.allocationRows (database : Database) (reservationId : Uuid) : List AllocationRow :=
  database.allocations.rows.filterMap (database.joinAllocation reservationId)

/-- The same rows in the order the query happens to yield them. -/
def Database.scanAllocations (database : Database) (environment : Environment) (reservationId : Uuid) :
    List AllocationRow :=
  (database.allocationRows reservationId).insertionSort fun a b =>
    environment.scanRank a.allocation.id ≤ environment.scanRank b.allocation.id

/-! ## The two kinds -/

inductive SettlementKind where
  | confirm
  | release
  deriving DecidableEq, Repr

def SettlementKind.key : SettlementKind → Uuid → Uuid → ProviderKey
  | confirm => .confirm
  | release => .release

def SettlementKind.operationType : SettlementKind → ProviderOperationType
  | confirm => .confirm
  | release => .release

/-- The local variables `.._pending` and `.._failed` of a walk. -/
structure PassFlags where
  pending : Bool
  failed : Bool
  deriving DecidableEq

/-- What a walk does with outcomes of type `ω`. -/
structure Settlement (ω : Type) where
  kind : SettlementKind
  operationType : ProviderOperationType
  settledStatus : AllocationStatus
  settled : ω
  unknown : ω
  value : ω → String
  allocationStatus : ω → AllocationStatus
  note : PassFlags → ω → PassFlags
  supported : InventoryProviderModel → Bool
  failure : Failure
  statement : ℤ → OfferStatement
  unknownMessage : String
  failedMessage : String
  send : Environment → Uuid → OperationCommand → OperationReply ω
  exchange : Uuid → OperationCommand → OperationReply ω → Exchange

def ProviderOperationModel.restart (operation : ProviderOperationModel) : ProviderOperationModel :=
  { operation with
    status := .inProgress
    attemptCount := operation.attemptCount + 1
    nextAttemptAt := none
    errorCode := none
    errorMessage := none }

namespace Settlement
variable {ω : Type} [DecidableEq ω] (S : Settlement ω)

/-- The row added before the first attempt. -/
def newOperation (key : ProviderKey) (allocation : InventoryAllocationModel) : ProviderOperationModel where
  allocationId := allocation.id
  operation := S.operationType
  status := .inProgress
  idempotencyKey := key
  attemptCount := 1
  nextAttemptAt := none
  externalReference := allocation.providerHoldReference
  errorCode := none
  errorMessage := none

/-- What an outcome writes into the row of the attempt. -/
def recordOutcome (context : ProviderOperationContext) (outcome : ω) (operation : ProviderOperationModel) :
    Except Failure ProviderOperationModel :=
  if outcome = S.settled then .ok { operation with status := .succeeded, nextAttemptAt := none }
  else if outcome = S.unknown then
    (context.nextAttemptAt operation.attemptCount).map fun nextAttemptAt =>
      { operation with
        status := .unknown
        nextAttemptAt
        errorCode := some "unknown_outcome"
        errorMessage := some S.unknownMessage }
  else .ok { operation with
    status := .failed
    nextAttemptAt := none
    errorCode := some (S.value outcome)
    errorMessage := some S.failedMessage }

/-- Call the provider for an operation that is in progress and record what it answers. -/
def attempt (environment : Environment) (context : ProviderOperationContext)
    (provider : InventoryProviderModel) (holdReference : String) (operation : ProviderOperationModel) :
    TransactionM ω := do
  let command : OperationCommand := ⟨holdReference, operation.idempotencyKey⟩
  let reply := S.send environment provider.id command
  recordExchange (S.exchange provider.id command reply)
  match reply with
  | .raised => throw (.unclassifiedProviderError provider.id)
  | .attempt outcome => do
    let recorded ← ofExcept (S.recordOutcome context outcome operation)
    let database ← readDatabase
    writeDatabase { database with operations := database.operations.replace recorded }
    pure outcome

def settleExternalHold (environment : Environment) (context : ProviderOperationContext)
    (allocation : InventoryAllocationModel) (provider : InventoryProviderModel) : TransactionM ω :=
  if ¬ environment.providerRegistry ∨ ¬ S.supported provider ∨ provider.baseUrl.isNone ∨
      provider.driver ≠ "http" then throw S.failure
  else
    match allocation.providerHoldReference with
    | none => throw S.failure
    | some holdReference => do
      let key := S.kind.key context.reservationId allocation.id
      let database ← readDatabase
      match database.operations.find? key with
      | some operation =>
        if operation.status = .succeeded then pure S.settled
        else if context.keepsUnknown operation then pure S.unknown
        else do
          writeDatabase { database with operations := database.operations.replace operation.restart }
          S.attempt environment context provider holdReference operation.restart
      | none =>
        let operation := S.newOperation key allocation
        match database.operations.insert? operation with
        | none => throw (.integrity "uq_provider_operations_idempotency_key")
        | some operations => do
          writeDatabase { database with operations }
          S.attempt environment context provider holdReference operation

def settleAllocation (environment : Environment) (context : ProviderOperationContext)
    (row : AllocationRow) : TransactionM ω :=
  if row.allocation.status = S.settledStatus then pure S.settled
  else
    match row.provider.kind with
    | .external => S.settleExternalHold environment context row.allocation row.provider
    | .internal => do
      let inventory ← updateOffer (S.statement row.allocation.quantity.units) row.productId
        row.allocation.providerId
      match inventory with
      | none => throw S.failure
      | some _ => pure S.settled

end Settlement

/-- `allocation.status = status`. -/
def setAllocationStatus (allocationId : Uuid) (status : AllocationStatus) : TransactionM Unit := do
  let database ← readDatabase
  writeDatabase { database with
    allocations := database.allocations.update allocationId fun allocation => { allocation with status } }

/-- The loop over the joined rows. -/
def Settlement.settleAllocations {ω : Type} [DecidableEq ω] (S : Settlement ω) (environment : Environment)
    (context : ProviderOperationContext) : List AllocationRow → PassFlags → TransactionM PassFlags
  | [], flags => pure flags
  | row :: rows, flags => do
    let outcome ← S.settleAllocation environment context row
    setAllocationStatus row.allocation.id (S.allocationStatus outcome)
    S.settleAllocations environment context rows (S.note flags outcome)

/-! ## Confirming -/

def confirmation : Settlement ProviderConfirmOutcome where
  kind := .confirm
  operationType := .confirm
  settledStatus := .confirmed
  settled := .confirmed
  unknown := .unknown
  value := ProviderConfirmOutcome.value
  allocationStatus
    | .confirmed => .confirmed
    | .rejected => .failed
    | .unknown => .unknown
    | .temporarilyUnavailable => .held
  note flags
    | .confirmed => flags
    | .rejected => { flags with failed := true }
    | .unknown => { flags with pending := true }
    | .temporarilyUnavailable => { flags with pending := true }
  supported := InventoryProviderModel.supportsConfirm
  failure := .inventoryConfirmation
  statement := .confirmHold
  unknownMessage := "Provider confirmation outcome is unknown."
  failedMessage := "Provider did not confirm the hold."
  send := Environment.confirm
  exchange := .confirm

def confirmExternalHold (environment : Environment) (context : ProviderOperationContext)
    (allocation : InventoryAllocationModel) (provider : InventoryProviderModel) :
    TransactionM ProviderConfirmOutcome :=
  confirmation.settleExternalHold environment context allocation provider

def confirmAllocation (environment : Environment) (context : ProviderOperationContext)
    (row : AllocationRow) : TransactionM ProviderConfirmOutcome :=
  confirmation.settleAllocation environment context row

/-! ## Releasing -/

def releasing : Settlement ProviderReleaseOutcome where
  kind := .release
  operationType := .release
  settledStatus := .released
  settled := .released
  unknown := .unknown
  value := ProviderReleaseOutcome.value
  allocationStatus
    | .released => .released
    | .unknown => .unknown
    | .temporarilyUnavailable => .held
  note flags
    | .released => flags
    | .unknown => { flags with pending := true }
    | .temporarilyUnavailable => { flags with pending := true }
  supported := InventoryProviderModel.supportsRelease
  failure := .inventoryRelease
  statement := .releaseHold
  unknownMessage := "Provider release outcome is unknown."
  failedMessage := "Provider did not release the hold."
  send := Environment.release
  exchange := .release

def releaseExternalHold (environment : Environment) (context : ProviderOperationContext)
    (allocation : InventoryAllocationModel) (provider : InventoryProviderModel) :
    TransactionM ProviderReleaseOutcome :=
  releasing.settleExternalHold environment context allocation provider

def releaseAllocation (environment : Environment) (context : ProviderOperationContext)
    (row : AllocationRow) : TransactionM ProviderReleaseOutcome :=
  releasing.settleAllocation environment context row

end InventoryReservation
