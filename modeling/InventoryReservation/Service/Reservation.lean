import InventoryReservation.Service.Provider

/-! # Reservations in the service layer

The domain aggregate with the checks of its constructor as fields, the request fingerprint, and the
verdict an idempotent retry of `create` gets from a stored reservation.
-/

namespace InventoryReservation
set_option autoImplicit false

inductive ReservationStatus where
  | pending
  | confirming
  | confirmed
  | releasing
  | cancelled
  | expired
  | failed
  deriving DecidableEq, Repr

structure ReservationItem where
  productId : Uuid
  providerId : Uuid
  quantity : Quantity
  deriving DecidableEq

/-- The exceptions the modelled operations raise, with the data they carry. -/
inductive Failure where
  | emptyReservation
  | invalidReservationTtl (ttl : Duration)
  | idempotencyConflict (idempotencyKey : String) (reservationId : Uuid)
  | concurrentReservationCreation
  | reservationNotCancellable (reservationId : Uuid)
  | reservationNotConfirmable (reservationId : Uuid)
  | reservationReconciliationRequired (reservationId : Uuid)
  | insufficientInventory (items : List ReservationItem)
  | unknownProviderOutcome (providerId : Uuid) (idempotencyKey : ProviderKey)
  | unclassifiedProviderError (providerId : Uuid)
  | inventoryConfirmation
  | inventoryRelease
  | inventoryBelowReserved (productId providerId : Uuid) (reserved : ℤ)
  | inventoryHasActiveReservations (productId providerId : Uuid) (reserved : ℤ)
  | integrity (constraint : String)
  | valueTooLong (column : String)
  /-- The driver cannot encode a value, or its column cannot hold it. -/
  | dataError (table : String)
  | invalidStatus
  | overflow
  deriving DecidableEq

/-- A reservation its constructor accepts: at least one item and a positive time to live. -/
structure Reservation where
  id : Uuid
  userId : Uuid
  items : List ReservationItem
  idempotencyKey : String
  requestFingerprint : String
  createdAt : Instant
  expiresAt : Instant
  status : ReservationStatus
  releaseTargetStatus : Option ReservationStatus
  items_ne_nil : items ≠ []
  createdAt_lt : createdAt < expiresAt
  deriving DecidableEq

/-- The constructor with its checks, in the order of `__post_init__`. -/
def Reservation.construct (id userId : Uuid) (items : List ReservationItem)
    (idempotencyKey requestFingerprint : String) (createdAt expiresAt : Instant)
    (status : ReservationStatus) (releaseTargetStatus : Option ReservationStatus) :
    Except Failure Reservation :=
  if hi : items = [] then .error .emptyReservation
  else if ht : createdAt < expiresAt then
    .ok { id, userId, items, idempotencyKey, requestFingerprint, createdAt, expiresAt, status,
          releaseTargetStatus, items_ne_nil := hi, createdAt_lt := ht }
  else .error (.invalidReservationTtl (expiresAt - createdAt))

structure ReservationDraft where
  reservationId : Uuid
  userId : Uuid
  items : List ReservationItem
  idempotencyKey : String
  requestFingerprint : String
  now : Instant
  ttl : Duration

def Reservation.start (draft : ReservationDraft) : Except Failure Reservation :=
  if Instant.last < draft.now + draft.ttl then .error .overflow
  else Reservation.construct draft.reservationId draft.userId draft.items draft.idempotencyKey
    draft.requestFingerprint draft.now (draft.now + draft.ttl) .pending none

/-! ## Fingerprint and idempotent retry -/

/-- The sort key `(product_id.int, provider_id.int)`, compared as a tuple. -/
def ReservationItem.le (a b : ReservationItem) : Prop :=
  a.productId.int < b.productId.int ∨
    (a.productId = b.productId ∧ a.providerId.int ≤ b.providerId.int)

instance : DecidableRel ReservationItem.le := fun a b =>
  inferInstanceAs (Decidable (a.productId.int < b.productId.int ∨ _))

def canonicalItems (items : List ReservationItem) : String :=
  String.intercalate "|" ((items.insertionSort ReservationItem.le).map fun item =>
    item.productId.str ++ ":" ++ item.providerId.str ++ ":" ++ toString item.quantity.units)

/-- `sha256` maps the text to the hexadecimal digest. -/
def reservationRequestFingerprint (sha256 : String → String) (items : List ReservationItem) : String :=
  sha256 (canonicalItems items)

def resolveIdempotentRetry (existing : Reservation) (idempotencyKey requestFingerprint : String) :
    Except Failure Reservation :=
  if existing.requestFingerprint ≠ requestFingerprint then
    .error (.idempotencyConflict idempotencyKey existing.id)
  else if existing.status = .failed ∨ existing.releaseTargetStatus = some .failed then
    .error (.insufficientInventory existing.items)
  else .ok existing

end InventoryReservation
