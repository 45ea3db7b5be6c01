import InventoryReservation.Controller.Responses
import InventoryReservation.System.Execution

/-! # The reservations API

The requests the router lets through to its endpoints, with the checks of their models as fields, and what
each endpoint answers. `ReservationCall.serve` is the whole of one request.
-/

namespace InventoryReservation
set_option autoImplicit false

/-! ## Requests -/

structure ReservationItemRequest where
  productId : Uuid
  providerId : Uuid
  quantity : Quantity
  deriving DecidableEq

structure CreateReservationRequest where
  items : List ReservationItemRequest
  items_ne_nil : items ≠ []
  deriving DecidableEq

/-- The value of an `Idempotency-Key` header. -/
structure IdempotencyKeyHeader where
  value : String
  min_length : 1 ≤ value.length
  max_length : value.length ≤ 128
  deriving DecidableEq

def ReservationItemRequest.toItem (item : ReservationItemRequest) : ReservationItem where
  productId := item.productId
  providerId := item.providerId
  quantity := item.quantity

/-- The items `create_reservation` hands to the service. -/
def CreateReservationRequest.toItems (request : CreateReservationRequest) : List ReservationItem :=
  request.items.map ReservationItemRequest.toItem

/-- A request with the identifier of its `X-User-ID` header. -/
inductive ReservationCall where
  | createReservation (request : CreateReservationRequest) (userId : Uuid)
      (idempotencyKey : IdempotencyKeyHeader)
  | getReservation (reservationId userId : Uuid)
  | confirmReservation (reservationId userId : Uuid)
  | cancelReservation (reservationId userId : Uuid)
  deriving DecidableEq

def ReservationCall.userId : ReservationCall → Uuid
  | createReservation _ userId _ => userId
  | getReservation _ userId => userId
  | confirmReservation _ userId => userId
  | cancelReservation _ userId => userId

/-! ## Endpoints -/

/-- What an endpoint returns or raises, the database it leaves and the provider calls it makes. -/
structure Served where
  answer : Except EndpointError ReservationResponse
  database : Database
  exchanges : List (Database × Exchange)

/-- The rest of an endpoint after its call of the service. -/
def TransactionOutcome.serve {α : Type} (outcome : TransactionOutcome α)
    (answer : α → Except EndpointError ReservationResponse) : Served where
  answer := (outcome.result.mapError .service).bind answer
  database := outcome.database
  exchanges := outcome.exchanges

/-- The check for `None` after a call of the service. -/
def requireReservation (reservationId : Uuid) :
    Option Reservation → Except EndpointError ReservationResponse
  | none => .error (.reservationNotFound reservationId)
  | some reservation => .ok (.fromDomain reservation)

/-- The same check of `get_reservation`, which also compares the user. -/
def requireOwned (reservationId userId : Uuid) :
    Option Reservation → Except EndpointError ReservationResponse
  | none => .error (.reservationNotFound reservationId)
  | some reservation =>
    if reservation.userId ≠ userId then .error (.reservationNotFound reservationId)
    else .ok (.fromDomain reservation)

namespace ReservationCall
variable (sha256 : String → String) (environment : Environment)

def serve (call : ReservationCall) (database : Database) : Served :=
  match call with
  | createReservation request userId idempotencyKey =>
    (ReservationService.create sha256 environment userId request.toItems idempotencyKey.value
      database).serve fun reservation => .ok (.fromDomain reservation)
  | getReservation reservationId userId =>
    (ReservationService.get reservationId database).serve (requireOwned reservationId userId)
  | confirmReservation reservationId userId =>
    (ReservationService.confirm environment reservationId userId database).serve
      (requireReservation reservationId)
  | cancelReservation reservationId userId =>
    (ReservationService.cancel environment reservationId userId database).serve
      (requireReservation reservationId)

/-- The status code an endpoint declares for success. -/
def successStatus : ReservationCall → ℕ
  | createReservation _ _ _ => 201
  | getReservation _ _ => 200
  | confirmReservation _ _ => 200
  | cancelReservation _ _ => 200

def response (call : ReservationCall) (database : Database) : HttpResponse :=
  respond call.successStatus .reservation (call.serve sha256 environment database).answer

end ReservationCall

/-! ## Traffic -/

/-- What reaches the database: a customer's request, or one of a worker or an operator. -/
inductive Traffic where
  | customer (environment : Environment) (call : ReservationCall)
  | internal (event : Event)

namespace Traffic
variable (sha256 : String → String)

def step (database : Database) : Traffic → Database
  | .customer environment call => (call.serve sha256 environment database).database
  | .internal event => System.step sha256 database event

abbrev run (database : Database) (traffic : List Traffic) : Database :=
  Runs.run (step sha256) database traffic

end Traffic

/-! ## Requests as requests of the system -/

/-- The request of the system a call amounts to; reading a reservation is none. -/
def ReservationCall.request? : ReservationCall → Option Request
  | createReservation request userId idempotencyKey =>
    some (.create userId request.toItems idempotencyKey.value)
  | getReservation _ _ => none
  | confirmReservation reservationId userId => some (.confirm reservationId userId)
  | cancelReservation reservationId userId => some (.cancel reservationId userId)

def Traffic.event? : Traffic → Option Event
  | .customer environment call => call.request?.map fun request => ⟨environment, request⟩
  | .internal event => some event

end InventoryReservation
