import InventoryReservation.Foundations.Transaction
import InventoryReservation.Repository.Models
import InventoryReservation.Service.Reservation

/-! # Database session

A transaction is a computation over a working copy of the database that may raise. Besides the copy
its state holds the provider calls made so far, each with the working copy it was made in, and the
number of identifiers drawn. What the code takes from outside (clocks, identifiers, the order in which
an unordered query yields rows, rows skipped because others hold their locks, and the answers of the
providers) is the `Environment` of the transaction.
-/

namespace InventoryReservation
set_option autoImplicit false

open Transactional

/-- What a transaction finds around it. Inside one transaction no two provider calls are alike, so
functions of provider and command can give any sequence of answers. -/
structure Environment where
  /-- The identifiers `uuid7()` yields, in order. Nothing makes them distinct. -/
  uuid7 : ℕ → Uuid
  reservationId : Uuid
  now : Instant
  /-- `now()` of the database, one value for a whole transaction. -/
  dbNow : Instant
  ttl : Duration
  providerRegistry : Bool
  /-- Rows of a query without `ORDER BY` come in the order of this rank of their identifiers. -/
  scanRank : Uuid → ℕ
  /-- The reservations `SKIP LOCKED` passes over. -/
  lockedByOthers : Uuid → Bool
  availability : Uuid → AvailabilityCommand → AvailabilityReply
  hold : Uuid → HoldCommand → HoldReply
  confirm : Uuid → ConfirmCommand → ConfirmReply
  release : Uuid → ReleaseCommand → ReleaseReply

structure Session where
  database : Database
  exchanges : List (Database × Exchange)
  generated : ℕ

def Session.start (database : Database) : Session := ⟨database, [], 0⟩

abbrev TransactionM := EStateM Failure Session

def readDatabase : TransactionM Database := do
  pure (← get).database

def writeDatabase (database : Database) : TransactionM Unit :=
  modify fun session => { session with database }

def newId (environment : Environment) : TransactionM Uuid := do
  let session ← get
  set { session with generated := session.generated + 1 }
  pure (environment.uuid7 session.generated)

/-- Note a provider call next to the database as the transaction sees it. -/
def recordExchange (exchange : Exchange) : TransactionM Unit :=
  modify fun session => { session with exchanges := session.exchanges ++ [(session.database, exchange)] }

def raiseIf (violation : Option Failure) : TransactionM Unit :=
  match violation with
  | some failure => throw failure
  | none => pure ()

def ofExcept {α : Type} : Except Failure α → TransactionM α
  | .ok a => pure a
  | .error failure => throw failure

/-- The loop `for x in xs: body(x)`. -/
def forEach {α : Type} (body : α → TransactionM Unit) : List α → TransactionM Unit
  | [] => pure ()
  | x :: xs => do
    body x
    forEach body xs

/-! ## What each primitive does -/

section Primitives
variable {α : Type} {s t : Session}

theorem readDatabase_bind (body : Database → TransactionM α) :
    (readDatabase >>= body) s = body s.database s := rfl

theorem writeDatabase_bind (database : Database) (body : Unit → TransactionM α) :
    (writeDatabase database >>= body) s = body () { s with database } := rfl

theorem newId_bind (environment : Environment) (body : Uuid → TransactionM α) :
    (newId environment >>= body) s =
      body (environment.uuid7 s.generated) { s with generated := s.generated + 1 } := rfl

theorem recordExchange_bind (exchange : Exchange) (body : Unit → TransactionM α) :
    (recordExchange exchange >>= body) s =
      body () { s with exchanges := s.exchanges ++ [(s.database, exchange)] } := rfl

/-- A row that a check has something against, or the checks after it. -/
theorem ite_some_eq_none_iff {p : Prop} [Decidable p] {a : α} {rest : Option α} :
    (if p then some a else rest) = none ↔ ¬ p ∧ rest = none := by
  split
  · next h => exact iff_of_false (Option.some_ne_none a) fun hrest => hrest.1 h
  · next h => exact (and_iff_right h).symm

theorem raiseIf_none_bind (body : Unit → TransactionM α) : (raiseIf none >>= body) s = body () s := rfl

theorem raiseIf_ok_iff {violation : Option Failure} {u : Unit} :
    raiseIf violation s = .ok u t ↔ violation = none ∧ t = s := by
  cases violation with
  | none =>
    constructor
    · intro h
      cases h
      exact ⟨rfl, rfl⟩
    · rintro ⟨-, rfl⟩
      rfl
  | some failure =>
    constructor
    · intro h
      cases h
    · rintro ⟨⟨⟩, -⟩

theorem ofExcept_ok_iff {x : Except Failure α} {a : α} :
    ofExcept x s = .ok a t ↔ x = .ok a ∧ t = s := by
  cases x with
  | ok b =>
    constructor
    · intro h
      cases h
      exact ⟨rfl, rfl⟩
    · rintro ⟨⟨⟩, rfl⟩
      rfl
  | error failure =>
    constructor
    · intro h
      cases h
    · rintro ⟨⟨⟩, -⟩

/-- A check that returned did nothing. -/
theorem raiseIf_bind_ok_iff {violation : Option Failure} {body : Unit → TransactionM α} {a : α} :
    (raiseIf violation >>= body) s = .ok a t ↔ violation = none ∧ body () s = .ok a t := by
  rw [bind_ok_iff]
  constructor
  · rintro ⟨_, u, hu, h⟩
    obtain ⟨hn, rfl⟩ := raiseIf_ok_iff.mp hu
    exact ⟨hn, h⟩
  · rintro ⟨hn, h⟩
    exact ⟨(), s, raiseIf_ok_iff.mpr ⟨hn, rfl⟩, h⟩

theorem ofExcept_bind_ok_iff {β : Type} {x : Except Failure β} {body : β → TransactionM α} {a : α} :
    (ofExcept x >>= body) s = .ok a t ↔ ∃ b, x = .ok b ∧ body b s = .ok a t := by
  rw [bind_ok_iff]
  constructor
  · rintro ⟨b, u, hu, h⟩
    obtain ⟨hx, rfl⟩ := ofExcept_ok_iff.mp hu
    exact ⟨b, hx, h⟩
  · rintro ⟨b, hx, h⟩
    exact ⟨b, s, ofExcept_ok_iff.mpr ⟨hx, rfl⟩, h⟩

/-- The rule for loops that return: `P` speaks of what is left to do. -/
theorem forEach_ok {P : List α → Session → Prop} {body : α → TransactionM Unit}
    (hbody : ∀ x xs s t, P (x :: xs) s → body x s = .ok () t → P xs t) {xs : List α} {u : Unit}
    (hP : P xs s) (h : forEach body xs s = .ok u t) : P [] t := by
  induction xs generalizing s with
  | nil =>
    obtain ⟨-, rfl⟩ := pure_ok_iff.mp h
    exact hP
  | cons x xs ih =>
    rw [forEach] at h
    obtain ⟨_, v, hv, h⟩ := bind_ok_iff.mp h
    exact ih (hbody x xs s v hP hv) h

end Primitives
end InventoryReservation
