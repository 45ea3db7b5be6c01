import InventoryReservation.Repository.Reservation

/-! # Reservation service

Each operation is one transaction over the committed database; `create` opens a second one when its
insert lost a race for the idempotency key. A transaction that raises leaves the database as it was,
but the provider calls it made have been made.
-/

namespace InventoryReservation
set_option autoImplicit false

/-- What is left of a transaction: its result, the committed database and the provider calls. -/
structure TransactionOutcome (α : Type) where
  result : Except Failure α
  database : Database
  exchanges : List (Database × Exchange)

def TransactionOutcome.withResult {α β : Type} (outcome : TransactionOutcome α)
    (result : Except Failure β) : TransactionOutcome β where
  result
  database := outcome.database
  exchanges := outcome.exchanges

def TransactionOutcome.map {α β : Type} (f : α → β) (outcome : TransactionOutcome α) :
    TransactionOutcome β :=
  outcome.withResult (outcome.result.map f)

/-- `session.begin()`: commit on return, roll back when the body raises. -/
def databaseTransaction {α : Type} (body : TransactionM α) (database : Database) :
    TransactionOutcome α :=
  match body (.start database) with
  | .ok result session => ⟨.ok result, session.database, session.exchanges⟩
  | .error failure session => ⟨.error failure, database, session.exchanges⟩

/-- The `except IntegrityError` clause. -/
def translateFailure (failure : Failure) : Failure :=
  if failure = .integrity idempotencyConstraint then .concurrentReservationCreation else failure

def reservationTransaction {α : Type} (body : TransactionM α) (database : Database) :
    TransactionOutcome α :=
  let outcome := databaseTransaction body database
  outcome.withResult (outcome.result.mapError translateFailure)

section Outcomes
variable {α β : Type} {body : TransactionM α} {database : Database} {t : Session} {result : α} {failure : Failure}

theorem databaseTransaction_of_ok (h : body (.start database) = .ok result t) :
    databaseTransaction body database = ⟨.ok result, t.database, t.exchanges⟩ := by
  unfold databaseTransaction
  rw [h]

theorem databaseTransaction_of_error (h : body (.start database) = .error failure t) :
    databaseTransaction body database = ⟨.error failure, database, t.exchanges⟩ := by
  unfold databaseTransaction
  rw [h]

/-- A transaction committed what its body returned, or left the database as it was. -/
theorem databaseTransaction_cases (body : TransactionM α) (database : Database) :
    (∃ result t, body (.start database) = .ok result t ∧
      databaseTransaction body database = ⟨.ok result, t.database, t.exchanges⟩) ∨
    (∃ failure t, body (.start database) = .error failure t ∧
      databaseTransaction body database = ⟨.error failure, database, t.exchanges⟩) := by
  cases h : body (.start database) with
  | ok result t => exact Or.inl ⟨result, t, rfl, databaseTransaction_of_ok h⟩
  | error failure t => exact Or.inr ⟨failure, t, rfl, databaseTransaction_of_error h⟩

theorem reservationTransaction_of_ok (h : body (.start database) = .ok result t) :
    reservationTransaction body database = ⟨.ok result, t.database, t.exchanges⟩ := by
  unfold reservationTransaction
  rw [databaseTransaction_of_ok h]
  rfl

theorem reservationTransaction_of_error (h : body (.start database) = .error failure t) :
    reservationTransaction body database = ⟨.error (translateFailure failure), database, t.exchanges⟩ := by
  unfold reservationTransaction
  rw [databaseTransaction_of_error h]
  rfl

/-- A transaction that returns commits the session of its body. -/
theorem reservationTransaction_isOk (h : (reservationTransaction body database).result.isOk) :
    ∃ result t, body (.start database) = .ok result t ∧
      reservationTransaction body database = ⟨.ok result, t.database, t.exchanges⟩ := by
  cases hb : body (.start database) with
  | ok result t => exact ⟨result, t, rfl, reservationTransaction_of_ok hb⟩
  | error failure t =>
    rw [reservationTransaction_of_error hb] at h
    cases h

/-- It does so whatever is made of its result. -/
theorem reservationTransaction_returned {f : α → β}
    (h : ((reservationTransaction body database).map f).result.isOk) :
    ∃ result t, body (.start database) = .ok result t ∧
      (reservationTransaction body database).map f = ⟨.ok (f result), t.database, t.exchanges⟩ := by
  cases hb : body (.start database) with
  | ok result t =>
    rw [reservationTransaction_of_ok hb]
    exact ⟨result, t, rfl, rfl⟩
  | error failure t =>
    rw [reservationTransaction_of_error hb] at h
    cases h

theorem reservationTransaction_ok_iff :
    (reservationTransaction body database).result = .ok result ↔ ∃ t, body (.start database) = .ok result t := by
  constructor
  · intro h
    obtain ⟨result', t, hb, he⟩ := reservationTransaction_isOk (by rw [h]; rfl)
    rw [he] at h
    cases h
    exact ⟨t, hb⟩
  · rintro ⟨t, hb⟩
    rw [reservationTransaction_of_ok hb]

/-- A transaction that raises leaves the database as it was. -/
theorem reservationTransaction_failed (h : (reservationTransaction body database).result = .error failure) :
    (reservationTransaction body database).database = database := by
  cases hb : body (.start database) with
  | ok result t =>
    rw [reservationTransaction_of_ok hb] at h
    cases h
  | error failure' t => rw [reservationTransaction_of_error hb]

end Outcomes

namespace ReservationService

/-- The first transaction of `create`: the reservation and whether its inventory is held. -/
def createTransaction (sha256 : String → String) (environment : Environment) (userId : Uuid)
    (items : List ReservationItem) (idempotencyKey : String) : TransactionM (Reservation × Bool) := do
  let requestFingerprint := reservationRequestFingerprint sha256 items
  let existing ← getByIdempotencyKey userId idempotencyKey
  match existing with
  | some existing => do
    let reservation ← ofExcept (resolveIdempotentRetry existing idempotencyKey requestFingerprint)
    pure (reservation, true)
  | none => do
    let reservation ← ofExcept (Reservation.start
      { reservationId := environment.reservationId
        userId
        items
        idempotencyKey
        requestFingerprint
        now := environment.now
        ttl := environment.ttl })
    let inventoryHeld ← addWithHold environment reservation
    pure (reservation, inventoryHeld)

/-- What `create` answers once its first transaction has returned. -/
def createVerdict (items : List ReservationItem) (reservation : Reservation) (inventoryHeld : Bool) :
    Except Failure Reservation :=
  if inventoryHeld then .ok reservation else .error (.insufficientInventory items)

/-- What `create` answers from the reservation found after it lost the race. -/
def recoveryVerdict (sha256 : String → String) (items : List ReservationItem) (idempotencyKey : String)
    (existing : Option Reservation) : Except Failure Reservation :=
  match existing with
  | none => .error .concurrentReservationCreation
  | some existing =>
    resolveIdempotentRetry existing idempotencyKey (reservationRequestFingerprint sha256 items)

def create (sha256 : String → String) (environment : Environment) (userId : Uuid)
    (items : List ReservationItem) (idempotencyKey : String) (database : Database) :
    TransactionOutcome Reservation :=
  let first := reservationTransaction
    (createTransaction sha256 environment userId items idempotencyKey) database
  match first.result with
  | .ok (reservation, inventoryHeld) =>
    first.withResult (createVerdict items reservation inventoryHeld)
  | .error .concurrentReservationCreation =>
    let second := reservationTransaction (getByIdempotencyKey userId idempotencyKey) first.database
    first.withResult (second.result.bind (recoveryVerdict sha256 items idempotencyKey))
  | .error failure => first.withResult (.error failure)

def get (reservationId : Uuid) (database : Database) : TransactionOutcome (Option Reservation) :=
  reservationTransaction (getReservation reservationId) database

def confirm (environment : Environment) (reservationId userId : Uuid) (database : Database) :
    TransactionOutcome (Option Reservation) :=
  reservationTransaction (InventoryReservation.confirm environment reservationId userId) database

def cancel (environment : Environment) (reservationId userId : Uuid) (database : Database) :
    TransactionOutcome (Option Reservation) :=
  reservationTransaction (InventoryReservation.cancel environment reservationId userId) database

end ReservationService
end InventoryReservation
