import InventoryReservation.System.Execution

/-! # A small deployment

An internal and an external provider with stock of their own, and environments in which providers
grant whatever they are asked. Runs of the model on concrete requests start here.
-/

namespace InventoryReservation.Deployment
set_option autoImplicit false

open Relational

/-- A digest of the right length. -/
def sha256 (_ : String) : String := "11fcd0a74921195c62ea5421f9308d93976cf5b451740bd3f67173c45a658cd9"

def internalProvider : InventoryProviderModel where
  id := 10
  name := "warehouse"
  kind := .internal
  driver := "internal"
  baseUrl := none
  requestTimeoutMs := 2000
  supportsAvailability := true
  supportsHold := true
  supportsConfirm := true
  supportsRelease := true
  isEnabled := true

def externalProvider : InventoryProviderModel where
  id := 20
  name := "supplier"
  kind := .external
  driver := "http"
  baseUrl := some "http://supplier"
  requestTimeoutMs := 2000
  supportsAvailability := true
  supportsHold := true
  supportsConfirm := true
  supportsRelease := true
  isEnabled := true

/-- Five units of a product, none of them reserved. -/
def stocked (productId providerId : Uuid) : ProductOfferModel where
  productId
  providerId
  onHand := 5
  reserved := 0
  allocationPriority := 100
  routingGroup := none
  version := 1
  observedAt := none

def database : Database where
  products := [1, 2, 3]
  providers := ⟨[internalProvider, externalProvider], by decide⟩
  offers := ⟨[stocked 1 10, stocked 2 20, stocked 3 20], by decide⟩
  reservations := .empty
  items := .empty
  allocations := .empty
  operations := .empty
  orders := .empty
  orderItems := .empty

theorem initial : database.Initial := ⟨rfl, rfl, rfl, rfl, rfl, rfl⟩

/-- Reservations live for 900 ticks; identifiers count up from `firstId`. -/
def environment (firstId : ℕ) (reservationId : Uuid) (now : Instant) : Environment where
  uuid7 n := ⟨⟨(firstId + n) % 2 ^ 128, Nat.mod_lt _ (by decide)⟩⟩
  reservationId
  now
  dbNow := now
  ttl := 900
  providerRegistry := true
  scanRank _ := 0
  lockedByOthers _ := false
  availability _ _ := .fresh 5 now
  hold _ _ := .held "hold"
  confirm _ _ := .attempt .confirmed
  release _ _ := .attempt .released

/-- One line of a request. -/
def line (productId providerId : Uuid) (units : ℕ) (h : 0 < (units : ℤ) := by decide) : ReservationItem where
  productId
  providerId
  quantity := ⟨units, h⟩

theorem one_unit : 0 < ((1 : ℕ) : ℤ) := by decide

theorem two_units : 0 < ((2 : ℕ) : ℤ) := by decide

theorem lasts : (0 : Instant) < 900 := by decide

/-! ## Requests of one customer, and of the workers -/

def create (firstId : ℕ) (reservationId : Uuid) (now : Instant) (items : List ReservationItem)
    (idempotencyKey : String) : Event where
  environment := environment firstId reservationId now
  request := .create 7 items idempotencyKey

def confirm (firstId : ℕ) (reservationId : Uuid) (now : Instant) : Event where
  environment := environment firstId reservationId now
  request := .confirm reservationId 7

def cancel (firstId : ℕ) (reservationId : Uuid) (now : Instant) : Event where
  environment := environment firstId reservationId now
  request := .cancel reservationId 7

def expire (now : Instant) : Event where
  environment := environment 0 0 now
  request := .expireBatch 10

def reconcile (firstId : ℕ) (now : Instant) : Event where
  environment := environment firstId 0 now
  request := .reconcileBatch 10 5 30

/-- Every provider answers confirm requests with this outcome. -/
def confirming (outcome : ProviderConfirmOutcome) (event : Event) : Event :=
  { event with environment := { event.environment with confirm := fun _ _ => .attempt outcome } }

/-- Every provider answers release requests with this outcome. -/
def releasing (outcome : ProviderReleaseOutcome) (event : Event) : Event :=
  { event with environment := { event.environment with release := fun _ _ => .attempt outcome } }

/-- Every provider answers hold requests with this reply. -/
def leavingHolds (reply : HoldReply) (event : Event) : Event :=
  { event with environment := { event.environment with hold := fun _ _ => reply } }

/-- Hold requests for this product get this reply, others are granted. -/
def leavingProduct (productId : Uuid) (reply : HoldReply) (event : Event) : Event :=
  { event with environment := { event.environment with
      hold := fun _ command => if command.productId = productId then reply else .held "hold" } }

/-- Every provider is out of stock. -/
def outOfStock (event : Event) : Event :=
  { event with environment := { event.environment with hold := fun _ _ => .outOfStock } }

end InventoryReservation.Deployment
