import InventoryReservation.Foundations.Runs
import InventoryReservation.Repository.InventoryManagement
import InventoryReservation.Service.ReservationService

/-! # The system

Requests of customers, workers and administrators, each executed as a whole against the committed
database in an environment of its own. The digest function is the one thing all requests share.
-/

namespace InventoryReservation
set_option autoImplicit false

inductive Request where
  | create (userId : Uuid) (items : List ReservationItem) (idempotencyKey : String)
  | confirm (reservationId userId : Uuid)
  | cancel (reservationId userId : Uuid)
  | expireBatch (limit : ℕ)
  | reconcileBatch (limit maxAttempts : ℕ) (retryBaseDelay : Duration)
  | setLevel (productId providerId : Uuid) (onHand allocationPriority : ℤ) (routingGroup : Option Uuid)
  | removeLevel (productId providerId : Uuid)

inductive Response where
  | created (reservation : Reservation)
  | found (reservation : Option Reservation)
  | batch (reservations : List Reservation)
  | level (level : InventoryLevel)
  | removed (removed : Bool)

structure Event where
  environment : Environment
  request : Request

namespace System
variable (sha256 : String → String)

def execute (event : Event) (database : Database) : TransactionOutcome Response :=
  let environment := event.environment
  match event.request with
  | .create userId items idempotencyKey =>
    (ReservationService.create sha256 environment userId items idempotencyKey database).map .created
  | .confirm reservationId userId =>
    (reservationTransaction (confirm environment reservationId userId) database).map .found
  | .cancel reservationId userId =>
    (reservationTransaction (cancel environment reservationId userId) database).map .found
  | .expireBatch limit =>
    (reservationTransaction (expireBatch environment limit) database).map .batch
  | .reconcileBatch limit maxAttempts retryBaseDelay =>
    (reservationTransaction (reconcileBatch environment limit maxAttempts retryBaseDelay) database).map
      .batch
  | .setLevel productId providerId onHand allocationPriority routingGroup =>
    (databaseTransaction (setLevel productId providerId onHand allocationPriority routingGroup)
      database).map .level
  | .removeLevel productId providerId =>
    (databaseTransaction (removeLevel productId providerId) database).map .removed

/-- The committed database after a request. -/
def step (database : Database) (event : Event) : Database := (execute sha256 event database).database

/-- The committed database after a list of requests. -/
abbrev run (database : Database) (events : List Event) : Database :=
  Runs.run (step sha256) database events

end System

/-! ## Where runs start -/

/-- A database in which nothing has been reserved yet. -/
structure Database.Initial (database : Database) : Prop where
  reservations : database.reservations = .empty
  items : database.items = .empty
  allocations : database.allocations = .empty
  operations : database.operations = .empty
  orders : database.orders = .empty
  orderItems : database.orderItems = .empty

end InventoryReservation
