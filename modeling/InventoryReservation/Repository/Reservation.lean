import InventoryReservation.Repository.Settlement

/-! # Reservation repository

Storing and loading reservations, the hold loop of `create` with its compensation, confirming,
cancelling, and the two batches of the workers.
-/

namespace InventoryReservation
set_option autoImplicit false

open Relational

def idempotencyConstraint : String := "uq_reservations_user_id_idempotency_key"

/-! ## Loading -/

def ReservationStatusModel.toDomain : ReservationStatusModel → Except Failure ReservationStatus
  | .pending => .ok .pending
  | .reserving => .error .invalidStatus
  | .active => .error .invalidStatus
  | .confirming => .ok .confirming
  | .confirmed => .ok .confirmed
  | .releasing => .ok .releasing
  | .cancelled => .ok .cancelled
  | .expired => .ok .expired
  | .failed => .ok .failed

def ReservationStatus.toModel : ReservationStatus → ReservationStatusModel
  | .pending => .pending
  | .confirming => .confirming
  | .confirmed => .confirmed
  | .releasing => .releasing
  | .cancelled => .cancelled
  | .expired => .expired
  | .failed => .failed

/-- `ReservationStatus(release_target_status.value)`, or nothing. -/
def releaseTargetToDomain : Option ReservationStatusModel → Except Failure (Option ReservationStatus)
  | none => .ok none
  | some status => status.toDomain.map some

def ReservationItemModel.toDomain (item : ReservationItemModel) : ReservationItem where
  productId := item.productId
  providerId := item.providerId
  quantity := item.requestedQuantity

/-- The items of a reservation. -/
def Database.itemsOf (database : Database) (reservationId : Uuid) : List ReservationItemModel :=
  database.items.rows.filter fun item => item.reservationId = reservationId

def Database.itemsByProduct (database : Database) (reservationId : Uuid) : List ReservationItemModel :=
  (database.itemsOf reservationId).insertionSort fun a b => a.productId.int ≤ b.productId.int

def Database.toDomain (database : Database) (model : ReservationModel) : Except Failure Reservation := do
  let status ← model.status.toDomain
  let releaseTargetStatus ← releaseTargetToDomain model.releaseTargetStatus
  Reservation.construct model.id model.userId
    ((database.itemsByProduct model.id).map ReservationItemModel.toDomain) model.idempotencyKey
    model.requestFingerprint model.createdAt model.expiresAt status releaseTargetStatus

/-- `_to_domain` of a row found by a query. -/
def toDomain : Option ReservationModel → TransactionM (Option Reservation)
  | none => pure none
  | some model => do
    let database ← readDatabase
    let reservation ← ofExcept (database.toDomain model)
    pure (some reservation)

/-- `get`; also `_to_domain` of a row the transaction holds, as it stands then. -/
def getReservation (reservationId : Uuid) : TransactionM (Option Reservation) := do
  let database ← readDatabase
  toDomain (database.reservations.find? reservationId)

def Database.findByIdempotencyKey (database : Database) (userId : Uuid) (idempotencyKey : String) :
    Option ReservationModel :=
  database.reservations.rows.find? fun reservation =>
    reservation.userId = userId ∧ reservation.idempotencyKey = idempotencyKey

def getByIdempotencyKey (userId : Uuid) (idempotencyKey : String) :
    TransactionM (Option Reservation) := do
  let database ← readDatabase
  toDomain (database.findByIdempotencyKey userId idempotencyKey)

theorem getByIdempotencyKey_none {userId : Uuid} {idempotencyKey : String} {database : Database}
    (hnone : database.findByIdempotencyKey userId idempotencyKey = none) :
    getByIdempotencyKey userId idempotencyKey (.start database) = .ok none (.start database) := by
  have hnone : (Session.start database).database.findByIdempotencyKey userId idempotencyKey = none := hnone
  rw [getByIdempotencyKey, readDatabase_bind, hnone]
  rfl

/-! ## Storing -/

def toModel (environment : Environment) (reservation : Reservation) : ReservationModel where
  id := reservation.id
  userId := reservation.userId
  idempotencyKey := reservation.idempotencyKey
  requestFingerprint := reservation.requestFingerprint
  status := reservation.status.toModel
  expiresAt := reservation.expiresAt
  createdAt := reservation.createdAt
  updatedAt := environment.dbNow
  releaseTargetStatus := reservation.releaseTargetStatus.map ReservationStatus.toModel
  failureCode := none
  failureReason := none

/-- The constraints a new reservation row can violate. -/
def Database.reservationViolation (database : Database) (reservation : ReservationModel) :
    Option Failure :=
  if nul ∈ reservation.idempotencyKey.toList then some (.dataError "reservations")
  else if 128 < reservation.idempotencyKey.length then some (.valueTooLong "reservations.idempotency_key")
  else if 64 < reservation.requestFingerprint.length then
    some (.valueTooLong "reservations.request_fingerprint")
  else if reservation.idempotencyKey.length = 0 then
    some (.integrity "ck_reservations_idempotency_key_not_empty")
  else if reservation.requestFingerprint.length ≠ 64 then
    some (.integrity "ck_reservations_request_fingerprint_sha256")
  else if reservation.releaseTargetStatus ∉
      [none, some .cancelled, some .expired, some .failed] then
    some (.integrity "ck_reservations_valid_release_target_status")
  else if (database.reservations.find? reservation.id).isSome then
    some (.integrity "pk_reservations")
  else if (database.findByIdempotencyKey reservation.userId reservation.idempotencyKey).isSome then
    some (.integrity idempotencyConstraint)
  else none

/-- The constraints a new item row can violate, its primary key apart. -/
def Database.itemViolation (database : Database) (item : ReservationItemModel) : Option Failure :=
  if ¬ FitsInteger item.requestedQuantity.units then some (.dataError "reservation_items")
  else if database.items.rows.any (fun other =>
      other.reservationId = item.reservationId ∧ other.productId = item.productId) then
    some (.integrity "uq_reservation_items_reservation_id_product_id")
  else if item.productId ∉ database.products then
    some (.integrity "fk_reservation_items_product_id_products")
  else if (database.providers.find? item.providerId).isNone then
    some (.integrity "fk_reservation_items_provider_id_inventory_providers")
  else none

def insertReservation (reservation : ReservationModel) : TransactionM Unit := do
  let database ← readDatabase
  raiseIf (database.reservationViolation reservation)
  match database.reservations.insert? reservation with
  | none => throw (.integrity "pk_reservations")
  | some reservations => writeDatabase { database with reservations }

def insertItem (environment : Environment) (reservationId : Uuid) (item : ReservationItem) :
    TransactionM ReservationItemModel := do
  let id ← newId environment
  let model : ReservationItemModel :=
    ⟨id, reservationId, item.productId, item.providerId, item.quantity⟩
  let database ← readDatabase
  raiseIf (database.itemViolation model)
  match database.items.insert? model with
  | none => throw (.integrity "pk_reservation_items")
  | some items => do
    writeDatabase { database with items }
    pure model

def insertItems (environment : Environment) (reservationId : Uuid) :
    List ReservationItem → TransactionM (List ReservationItemModel)
  | [] => pure []
  | item :: items => do
    let model ← insertItem environment reservationId item
    let models ← insertItems environment reservationId items
    pure (model :: models)

/-- `session.add(_to_model(reservation))` and `flush`: the new item rows come back. -/
def addReservation (environment : Environment) (reservation : Reservation) :
    TransactionM (List ReservationItemModel) := do
  insertReservation (toModel environment reservation)
  insertItems environment reservation.id reservation.items

/-- The constraints a new allocation row can violate, its primary key apart. -/
def Database.allocationViolation (database : Database) (allocation : InventoryAllocationModel) :
    Option Failure :=
  if ¬ FitsInteger allocation.quantity.units ∨
      ∃ reference ∈ allocation.providerHoldReference, nul ∈ reference.toList then
    some (.dataError "inventory_allocations")
  else if ∃ reference ∈ allocation.providerHoldReference, 255 < reference.length then
    some (.valueTooLong "inventory_allocations.provider_hold_reference")
  else if database.allocations.rows.any (fun other =>
      other.reservationItemId = allocation.reservationItemId ∧
        other.providerId = allocation.providerId) then
    some (.integrity "uq_inventory_allocations_reservation_item_id_provider_id")
  else if database.allocations.rows.any (fun other =>
      other.holdIdempotencyKey = allocation.holdIdempotencyKey) then
    some (.integrity "uq_inventory_allocations_hold_idempotency_key")
  else none

def insertAllocation (environment : Environment) (item : ReservationItemModel) (hold : ProviderHold)
    (holdIdempotencyKey : ProviderKey) : TransactionM Unit := do
  let id ← newId environment
  let allocation : InventoryAllocationModel :=
    { id
      reservationItemId := item.id
      providerId := hold.providerId
      quantity := item.requestedQuantity
      status := .held
      holdIdempotencyKey
      providerHoldReference := hold.reference }
  let database ← readDatabase
  raiseIf (database.allocationViolation allocation)
  match database.allocations.insert? allocation with
  | none => throw (.integrity "pk_inventory_allocations")
  | some allocations => writeDatabase { database with allocations }

/-- The row after attributes were assigned; one that changes gets a new `updated_at`. -/
def ReservationModel.written (environment : Environment) (assign : ReservationModel → ReservationModel)
    (reservation : ReservationModel) : ReservationModel :=
  if assign reservation = reservation then reservation
  else { assign reservation with updatedAt := environment.dbNow }

theorem ReservationModel.written_of_eq {α : Type} (field : ReservationModel → α)
    (h : ∀ reservation updatedAt, field { reservation with updatedAt } = field reservation)
    (environment : Environment) (assign : ReservationModel → ReservationModel)
    (reservation : ReservationModel) :
    field (reservation.written environment assign) = field (assign reservation) := by
  unfold written
  split
  · next he => rw [he]
  · exact h _ _

/-- Assign attributes of a loaded reservation. -/
def writeReservation (environment : Environment) (reservationId : Uuid)
    (assign : ReservationModel → ReservationModel)
    (keeps : ∀ reservation, (assign reservation).id = reservation.id := by intro _; rfl) :
    TransactionM Unit := do
  let database ← readDatabase
  writeDatabase { database with
    reservations := database.reservations.update reservationId
      (ReservationModel.written environment assign) (fun reservation =>
        (ReservationModel.written_of_eq ReservationModel.id (fun _ _ => rfl) environment assign
          reservation).trans (keeps reservation)) }

/-! ## Releasing a reservation -/

/-- The status after a releasing walk. -/
def concludeRelease (environment : Environment) (reservationId : Uuid)
    (terminalStatus : ReservationStatusModel) (flags : PassFlags) : TransactionM Unit :=
  if flags.pending then
    writeReservation environment reservationId fun reservation =>
      { reservation with status := .releasing }
  else
    writeReservation environment reservationId fun reservation =>
      { reservation with status := terminalStatus, releaseTargetStatus := none }

def releaseReservation (environment : Environment) (reservation : ReservationModel)
    (terminalStatus : ReservationStatusModel) (context : Option ProviderOperationContext) :
    TransactionM Unit := do
  let database ← readDatabase
  let allocations := database.scanAllocations environment reservation.id
  let releaseContext := context.getD (.request reservation.id)
  writeReservation environment reservation.id fun reservation =>
    { reservation with releaseTargetStatus := some terminalStatus }
  let flags ← releasing.settleAllocations environment releaseContext allocations ⟨false, false⟩
  concludeRelease environment reservation.id terminalStatus flags

/-! ## Creating -/

/-- The loop of `add_with_hold` over the items not yet held, compensation included. -/
def holdItems (environment : Environment) (reservation : ReservationModel) :
    List ReservationItemModel → TransactionM Bool
  | [] => pure true
  | item :: items => do
    let holdIdempotencyKey := ProviderKey.hold reservation.id item.productId item.providerId
    let hold ← tryHoldSelected environment item.productId item.providerId item.requestedQuantity.units
      holdIdempotencyKey
    match hold with
    | none => do
      writeReservation environment reservation.id fun reservation =>
        { reservation with
          failureCode := some "insufficient_inventory"
          failureReason := some "A later reservation item could not be allocated." }
      releaseReservation environment reservation .failed none
      pure false
    | some hold => do
      insertAllocation environment item hold holdIdempotencyKey
      holdItems environment reservation items

def addWithHold (environment : Environment) (reservation : Reservation) : TransactionM Bool := do
  let items ← addReservation environment reservation
  holdItems environment (toModel environment reservation) items

/-! ## Confirming -/

def insertOrder (order : OrderModel) : TransactionM Unit := do
  let database ← readDatabase
  if database.orders.rows.any (fun other => other.id = order.id) then throw (.integrity "pk_orders")
  else
    match database.orders.insert? order with
    | none => throw (.integrity "uq_orders_reservation_id")
    | some orders => writeDatabase { database with orders }

def insertOrderItem (item : OrderItemModel) : TransactionM Unit := do
  let database ← readDatabase
  match database.orderItems.insert? item with
  | none => throw (.integrity "uq_order_items_order_id_product_id")
  | some orderItems => writeDatabase { database with orderItems }

def ensureOrder (environment : Environment) (reservation : ReservationModel) : TransactionM Unit := do
  let database ← readDatabase
  match database.orders.find? reservation.id with
  | some _ => pure ()
  | none => do
    let id ← newId environment
    insertOrder ⟨id, reservation.id, reservation.userId⟩
    let items := (database.itemsOf reservation.id).insertionSort fun a b =>
      environment.scanRank a.id ≤ environment.scanRank b.id
    forEach insertOrderItem (items.map fun item => ⟨id, item.productId, item.requestedQuantity⟩)

/-- The status after a confirming walk, and the order of a confirmed reservation. -/
def concludeConfirmation (environment : Environment) (reservation : ReservationModel) (flags : PassFlags) :
    TransactionM Unit :=
  if flags.failed then
    writeReservation environment reservation.id fun reservation => { reservation with status := .failed }
  else if flags.pending then
    writeReservation environment reservation.id fun reservation =>
      { reservation with status := .confirming }
  else do
    writeReservation environment reservation.id fun reservation =>
      { reservation with status := .confirmed }
    ensureOrder environment reservation

def confirmReservation (environment : Environment) (reservation : ReservationModel)
    (context : ProviderOperationContext) : TransactionM (Option Reservation) := do
  let database ← readDatabase
  let allocations := database.scanAllocations environment reservation.id
  let flags ← confirmation.settleAllocations environment context allocations ⟨false, false⟩
  concludeConfirmation environment reservation flags
  getReservation reservation.id

/-- The row a customer's request addresses. -/
def Database.findOwned (database : Database) (reservationId userId : Uuid) : Option ReservationModel :=
  (database.reservations.find? reservationId).filter fun reservation => reservation.userId = userId

def confirm (environment : Environment) (reservationId userId : Uuid) :
    TransactionM (Option Reservation) := do
  let database ← readDatabase
  match database.findOwned reservationId userId with
  | none => pure none
  | some reservation =>
    if reservation.status = .confirmed then do
      ensureOrder environment reservation
      getReservation reservation.id
    else if reservation.status = .cancelled then throw (.reservationNotConfirmable reservationId)
    else confirmReservation environment reservation (.request reservation.id)

/-! ## Cancelling -/

def cancel (environment : Environment) (reservationId userId : Uuid) :
    TransactionM (Option Reservation) := do
  let database ← readDatabase
  match database.findOwned reservationId userId with
  | none => pure none
  | some reservation =>
    if reservation.status = .cancelled then getReservation reservation.id
    else if reservation.status = .confirmed then throw (.reservationNotCancellable reservationId)
    else if reservation.status = .confirming then
      throw (.reservationReconciliationRequired reservationId)
    else do
      releaseReservation environment reservation .cancelled none
      getReservation reservation.id

/-! ## Batches -/

/-- `_to_domain` of every reservation of a batch, leaving out those that are gone. -/
def toDomainBatch : List ReservationModel → TransactionM (List Reservation)
  | [] => pure []
  | reservation :: reservations => do
    let loaded ← getReservation reservation.id
    let rest ← toDomainBatch reservations
    pure (loaded.toList ++ rest)

/-- `ORDER BY key, id LIMIT limit FOR UPDATE SKIP LOCKED` over the rows that satisfy a condition. -/
def Database.lockBatch (database : Database) (environment : Environment) (limit : ℕ)
    (condition : ReservationModel → Bool) (sortKey : ReservationModel → Instant) :
    List ReservationModel :=
  let eligible := database.reservations.rows.filter fun reservation =>
    condition reservation && !environment.lockedByOthers reservation.id
  (eligible.insertionSort fun a b =>
    sortKey a < sortKey b ∨ (sortKey a = sortKey b ∧ a.id.int ≤ b.id.int)).take limit

def ReservationModel.isExpired (now : Instant) (reservation : ReservationModel) : Bool :=
  reservation.status = .pending ∧ reservation.expiresAt ≤ now

def Database.expiredBatch (database : Database) (environment : Environment) (limit : ℕ) :
    List ReservationModel :=
  database.lockBatch environment limit (·.isExpired environment.now) ReservationModel.expiresAt

def expireBatch (environment : Environment) (limit : ℕ) : TransactionM (List Reservation) := do
  let database ← readDatabase
  let reservations := database.expiredBatch environment limit
  forEach (fun reservation => releaseReservation environment reservation .expired none) reservations
  toDomainBatch reservations

/-- The reservation an operation belongs to, through its allocation and item. -/
def Database.operationReservation (database : Database) (operation : ProviderOperationModel) :
    Option Uuid := do
  let allocation ← database.allocations.find? operation.allocationId
  let item ← database.items.find? allocation.reservationItemId
  pure item.reservationId

/-- `has_reconcilable_operation`. -/
def Database.hasReconcilableOperation (database : Database) (now : Instant) (maxAttempts : ℕ)
    (reservation : ReservationModel) : Bool :=
  database.operations.rows.any fun operation =>
    database.operationReservation operation = some reservation.id ∧
    operation.status = .unknown ∧
    operation.attemptCount < maxAttempts ∧
    (∀ nextAttemptAt ∈ operation.nextAttemptAt, nextAttemptAt ≤ now) ∧
    ((reservation.status = .releasing ∧ operation.operation = .release) ∨
      (reservation.status = .confirming ∧ operation.operation = .confirm))

def ReservationModel.isInFlight (reservation : ReservationModel) : Bool :=
  (reservation.status = .releasing ∧
      reservation.releaseTargetStatus ∈ [some .cancelled, some .expired, some .failed]) ∨
    reservation.status = .confirming

def Database.reconcilableBatch (database : Database) (environment : Environment) (limit maxAttempts : ℕ) :
    List ReservationModel :=
  database.lockBatch environment limit
    (fun reservation => reservation.isInFlight &&
      database.hasReconcilableOperation environment.now maxAttempts reservation)
    ReservationModel.updatedAt

/-- The context of the reconciliation worker. -/
def ProviderOperationContext.retry (reservationId : Uuid) (now : Instant) (maxAttempts : ℕ)
    (retryBaseDelay : Duration) : ProviderOperationContext where
  reservationId
  retryUnknown := true
  maxAttempts
  retryStartedAt := some now
  retryBaseDelay := some retryBaseDelay

/-- The body of the loop of `reconcile_batch`. -/
def reconcileReservation (environment : Environment) (maxAttempts : ℕ) (retryBaseDelay : Duration)
    (reservation : ReservationModel) : TransactionM Unit :=
  let context := ProviderOperationContext.retry reservation.id environment.now maxAttempts retryBaseDelay
  if reservation.status = .releasing then
    match reservation.releaseTargetStatus with
    | none => pure ()
    | some terminalStatus =>
      releaseReservation environment reservation terminalStatus (some context)
  else if reservation.status = .confirming then do
    let _ ← confirmReservation environment reservation context
    pure ()
  else pure ()

def reconcileBatch (environment : Environment) (limit maxAttempts : ℕ) (retryBaseDelay : Duration) :
    TransactionM (List Reservation) := do
  let database ← readDatabase
  let reservations := database.reconcilableBatch environment limit maxAttempts
  forEach (reconcileReservation environment maxAttempts retryBaseDelay) reservations
  toDomainBatch reservations

end InventoryReservation
