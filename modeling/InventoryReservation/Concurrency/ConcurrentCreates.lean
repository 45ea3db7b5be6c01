import InventoryReservation.Foundations.Runs
import InventoryReservation.Meaning.HoldLoop
import InventoryReservation.Meaning.Transition
import Mathlib.Logic.Function.Basic

/-! # Concurrent creates with one key

Any number of `create` calls of one user with one idempotency key, each taken apart into its database steps:
the lookup, the insert, a hold for each item, the commit, and the second lookup of a call that lost the race. The
unique index lets one uncommitted row in: an insert that finds one waits until its transaction has ended.
-/

namespace InventoryReservation
set_option autoImplicit false

open Relational Transactional

/-- What a call is made with, and what its transactions find around them. -/
structure CreateCall where
  environment : Environment
  items : List ReservationItem

/-- How far a call has come. -/
inductive CreatePhase where
  | begun
  /-- The lookup found nothing under the key. -/
  | absent
  /-- The insert went through; these items are still to be held. -/
  | holding (reservation : Reservation) (items : List ReservationItemModel) (session : Session)
  /-- An item was refused, and the compensation has run. -/
  | compensated (reservation : Reservation) (session : Session)
  /-- Rolled back over the constraint on the key. -/
  | collided
  | answered (result : Except Failure Reservation)
  /-- Ended by another failure, or from outside. -/
  | aborted (failure : Option Failure)

structure ConcurrentCreates (τ : Type) where
  database : Database
  /-- The transaction with an uncommitted row under the key. -/
  writer : Option τ
  phase : τ → CreatePhase

inductive CreateMove (τ : Type) where
  | advance (t : τ)
  | abort (t : τ)

/-- The body of the loop of `add_with_hold`. -/
def holdItem (environment : Environment) (reservation : ReservationModel) (item : ReservationItemModel) :
    TransactionM Bool := do
  let holdIdempotencyKey := ProviderKey.hold reservation.id item.productId item.providerId
  let hold ← tryHoldSelected environment item.productId item.providerId item.requestedQuantity.units
    holdIdempotencyKey
  match hold with
  | none => compensate environment reservation
  | some hold => do
    insertAllocation environment item hold holdIdempotencyKey
    pure true

theorem holdItems_cons (environment : Environment) (reservation : ReservationModel) (item : ReservationItemModel)
    (items : List ReservationItemModel) (s : Session) :
    holdItems environment reservation (item :: items) s =
      (holdItem environment reservation item >>= fun held =>
        if held then holdItems environment reservation items else pure false) s := by
  unfold holdItem
  rw [holdItems, bind_assoc]
  cases hhold : tryHoldSelected environment item.productId item.providerId item.requestedQuantity.units
      (.hold reservation.id item.productId item.providerId) s with
  | error failure u => rw [bind_of_error hhold, bind_of_error hhold]
  | ok hold u =>
    rw [bind_of_ok hhold, bind_of_ok hhold]
    cases hold with
    | none =>
      change compensate environment reservation u = _
      cases hcompensate : compensate environment reservation u with
      | error failure v => rw [bind_of_error hcompensate]
      | ok held v =>
        rw [bind_of_ok hcompensate]
        obtain ⟨_, w, -, hrest⟩ := bind_ok_iff.mp hcompensate
        obtain ⟨_, w', -, hrest⟩ := bind_ok_iff.mp hrest
        obtain ⟨rfl, -⟩ := pure_ok_iff.mp hrest
        rfl
    | some hold =>
      dsimp only
      rw [bind_assoc]
      rfl

namespace ConcurrentCreates
variable {τ : Type} [DecidableEq τ]

def start (database : Database) : ConcurrentCreates τ := ⟨database, none, fun _ => .begun⟩

def moveTo (s : ConcurrentCreates τ) (t : τ) (phase : CreatePhase) : ConcurrentCreates τ :=
  { s with phase := Function.update s.phase t phase }

/-- The transaction of a call ends, and what it has written is gone. -/
def rollBack (s : ConcurrentCreates τ) (t : τ) (phase : CreatePhase) : ConcurrentCreates τ where
  database := s.database
  writer := if s.writer = some t then none else s.writer
  phase := Function.update s.phase t phase

/-- The first transaction of a call raises. -/
def raise (s : ConcurrentCreates τ) (t : τ) (failure : Failure) : ConcurrentCreates τ :=
  s.rollBack t (if translateFailure failure = .concurrentReservationCreation then .collided
    else .aborted (some (translateFailure failure)))

variable (sha256 : String → String) (userId : Uuid) (idempotencyKey : String) (calls : τ → CreateCall)

def lookup (s : ConcurrentCreates τ) (t : τ) : ConcurrentCreates τ :=
  match getByIdempotencyKey userId idempotencyKey (.start s.database) with
  | .error failure _ => s.raise t failure
  | .ok none _ => s.moveTo t .absent
  | .ok (some existing) _ =>
    s.moveTo t (.answered (resolveIdempotentRetry existing idempotencyKey
      (reservationRequestFingerprint sha256 (calls t).items)))

/-- The insert of the reservation and its items. A row that violates nothing committed waits for the
uncommitted one under its key. -/
def insert (s : ConcurrentCreates τ) (t : τ) : ConcurrentCreates τ :=
  let environment := (calls t).environment
  match Reservation.start (creationDraft sha256 environment userId (calls t).items idempotencyKey) with
  | .error failure => s.raise t failure
  | .ok reservation =>
    match s.database.reservationViolation (toModel environment reservation) with
    | some failure => s.raise t failure
    | none =>
      if s.writer.isSome then s
      else
        match addReservation environment reservation (.start s.database) with
        | .error failure _ => s.raise t failure
        | .ok items session =>
          { database := s.database
            writer := some t
            phase := Function.update s.phase t (.holding reservation items session) }

def hold (s : ConcurrentCreates τ) (t : τ) (reservation : Reservation) (item : ReservationItemModel)
    (items : List ReservationItemModel) (session : Session) : ConcurrentCreates τ :=
  let environment := (calls t).environment
  match holdItem environment (toModel environment reservation) item session with
  | .error failure _ => s.raise t failure
  | .ok true session => s.moveTo t (.holding reservation items session)
  | .ok false session => s.moveTo t (.compensated reservation session)

def commit (s : ConcurrentCreates τ) (t : τ) (reservation : Reservation) (inventoryHeld : Bool)
    (session : Session) : ConcurrentCreates τ where
  database := session.database
  writer := none
  phase := Function.update s.phase t
    (.answered (ReservationService.createVerdict (calls t).items reservation inventoryHeld))

/-- The second transaction, of a call that lost the race. -/
def recover (s : ConcurrentCreates τ) (t : τ) : ConcurrentCreates τ :=
  match getByIdempotencyKey userId idempotencyKey (.start s.database) with
  | .error failure _ => s.moveTo t (.aborted (some (translateFailure failure)))
  | .ok existing _ =>
    s.moveTo t (.answered (ReservationService.recoveryVerdict sha256 (calls t).items idempotencyKey existing))

/-- The next step of a call; one that is over does nothing. -/
def advance (s : ConcurrentCreates τ) (t : τ) : ConcurrentCreates τ :=
  match s.phase t with
  | .begun => s.lookup sha256 userId idempotencyKey calls t
  | .absent => s.insert sha256 userId idempotencyKey calls t
  | .holding reservation [] session => s.commit calls t reservation true session
  | .holding reservation (item :: items) session => s.hold calls t reservation item items session
  | .compensated reservation session => s.commit calls t reservation false session
  | .collided => s.recover sha256 userId idempotencyKey calls t
  | .answered _ => s
  | .aborted _ => s

/-- A call that is not over is cut off. -/
def abort (s : ConcurrentCreates τ) (t : τ) : ConcurrentCreates τ :=
  match s.phase t with
  | .answered _ => s
  | .aborted _ => s
  | _ => s.rollBack t (.aborted none)

def step (s : ConcurrentCreates τ) : CreateMove τ → ConcurrentCreates τ
  | .advance t => s.advance sha256 userId idempotencyKey calls t
  | .abort t => s.abort t

abbrev run (s : ConcurrentCreates τ) (moves : List (CreateMove τ)) : ConcurrentCreates τ :=
  Runs.run (step sha256 userId idempotencyKey calls) s moves

end ConcurrentCreates

/-! ## What is written -/

inductive CreateStep where
  | inserted
  /-- A hold for the item is issued. -/
  | issued (item : ReservationItemModel)

namespace ConcurrentCreates
variable {τ : Type} [DecidableEq τ] (sha256 : String → String) (userId : Uuid) (idempotencyKey : String)
  (calls : τ → CreateCall)

/-- The inserts that go through and the holds. -/
def writes (s : ConcurrentCreates τ) : CreateMove τ → List (τ × CreateStep)
  | .advance t =>
    match s.phase t, (s.advance sha256 userId idempotencyKey calls t).phase t with
    | .absent, .holding _ _ _ => [(t, .inserted)]
    | .holding _ (item :: _) _, _ => [(t, .issued item)]
    | _, _ => []
  | .abort _ => []

/-- All of them, in the order of a run. -/
abbrev written (s : ConcurrentCreates τ) (moves : List (CreateMove τ)) : List (τ × CreateStep) :=
  Runs.trace (step sha256 userId idempotencyKey calls) (writes sha256 userId idempotencyKey calls) s moves

end ConcurrentCreates
end InventoryReservation
