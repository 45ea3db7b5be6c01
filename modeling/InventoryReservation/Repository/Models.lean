import InventoryReservation.Foundations.Table
import InventoryReservation.Service.Provider

/-! # Database rows

One structure per table, with the columns the operations read or write. Unique constraints that a
lookup goes through are the keys of the tables: an offer is found by product and provider, a provider
operation by its idempotency key, an order by its reservation. The remaining constraints are checked
where rows are inserted.
-/

namespace InventoryReservation
set_option autoImplicit false

open Relational

/-! ## Columns -/

/-- The values of an `Integer` column. -/
def FitsInteger (value : ℤ) : Prop := -2 ^ 31 ≤ value ∧ value < 2 ^ 31

instance (value : ℤ) : Decidable (FitsInteger value) := inferInstanceAs (Decidable (_ ∧ _))

/-- The driver can encode an instant: it is a `datetime` in UTC. -/
def FitsTimestamp (instant : Instant) : Prop := 0 ≤ instant ∧ instant ≤ Instant.last

instance (instant : Instant) : Decidable (FitsTimestamp instant) := inferInstanceAs (Decidable (_ ∧ _))

theorem FitsInteger.of_nonneg {value : ℤ} (h : 0 ≤ value) : FitsInteger value ↔ value < 2 ^ 31 :=
  and_iff_right (by omega)

theorem FitsInteger.of_le {value bound : ℤ} (hbound : FitsInteger bound) (h : 0 ≤ value) (hle : value ≤ bound) :
    FitsInteger value :=
  (FitsInteger.of_nonneg h).mpr (hle.trans_lt hbound.2)

theorem FitsInteger.succ {value : ℤ} (h : FitsInteger value) : FitsInteger (value + 1) ↔ value < 2 ^ 31 - 1 := by
  unfold FitsInteger at *
  omega

/-- No text column holds this character. -/
def nul : Char := Char.ofNat 0

/-! ## Rows -/

inductive ProviderKind where
  | internal
  | external
  deriving DecidableEq, Repr

inductive ReservationStatusModel where
  | pending
  | reserving
  | active
  | confirming
  | confirmed
  | releasing
  | cancelled
  | expired
  | failed
  deriving DecidableEq, Repr

inductive AllocationStatus where
  | pending
  | held
  | confirming
  | confirmed
  | releasing
  | released
  | failed
  | unknown
  deriving DecidableEq, Repr

inductive ProviderOperationType where
  | check
  | hold
  | confirm
  | release
  deriving DecidableEq, Repr

inductive ProviderOperationStatus where
  | pending
  | inProgress
  | succeeded
  | failed
  | unknown
  deriving DecidableEq, Repr

structure InventoryProviderModel where
  id : Uuid
  name : String
  kind : ProviderKind
  driver : String
  baseUrl : Option String
  requestTimeoutMs : ℤ
  supportsAvailability : Bool
  supportsHold : Bool
  supportsConfirm : Bool
  supportsRelease : Bool
  isEnabled : Bool
  deriving DecidableEq

structure ProductOfferModel where
  productId : Uuid
  providerId : Uuid
  onHand : ℤ
  reserved : ℤ
  allocationPriority : ℤ
  routingGroup : Option Uuid
  version : ℤ
  observedAt : Option Instant
  deriving DecidableEq

def ProductOfferModel.identity (offer : ProductOfferModel) : Uuid × Uuid :=
  (offer.productId, offer.providerId)

structure ReservationModel where
  id : Uuid
  userId : Uuid
  idempotencyKey : String
  requestFingerprint : String
  status : ReservationStatusModel
  expiresAt : Instant
  createdAt : Instant
  updatedAt : Instant
  releaseTargetStatus : Option ReservationStatusModel
  failureCode : Option String
  failureReason : Option String
  deriving DecidableEq

structure ReservationItemModel where
  id : Uuid
  reservationId : Uuid
  productId : Uuid
  providerId : Uuid
  requestedQuantity : Quantity
  deriving DecidableEq

structure InventoryAllocationModel where
  id : Uuid
  reservationItemId : Uuid
  providerId : Uuid
  quantity : Quantity
  status : AllocationStatus
  holdIdempotencyKey : ProviderKey
  providerHoldReference : Option String
  deriving DecidableEq

structure ProviderOperationModel where
  allocationId : Uuid
  operation : ProviderOperationType
  status : ProviderOperationStatus
  idempotencyKey : ProviderKey
  attemptCount : ℕ
  nextAttemptAt : Option Instant
  externalReference : Option String
  errorCode : Option String
  errorMessage : Option String
  deriving DecidableEq

structure OrderModel where
  id : Uuid
  reservationId : Uuid
  userId : Uuid
  deriving DecidableEq

structure OrderItemModel where
  orderId : Uuid
  productId : Uuid
  quantity : Quantity
  deriving DecidableEq

def OrderItemModel.identity (item : OrderItemModel) : Uuid × Uuid := (item.orderId, item.productId)

structure Database where
  products : List Uuid
  providers : Table InventoryProviderModel.id
  offers : Table ProductOfferModel.identity
  reservations : Table ReservationModel.id
  items : Table ReservationItemModel.id
  allocations : Table InventoryAllocationModel.id
  operations : Table ProviderOperationModel.idempotencyKey
  orders : Table OrderModel.reservationId
  orderItems : Table OrderItemModel.identity

end InventoryReservation
