import InventoryReservation.Meaning.Reachable

/-! # What a request commits

The session in which the transaction of a request returned, if it did. `System.commit_cases` takes
that session apart: the walks of the request, a creation, a change of an offer, or nothing at all.
-/

namespace InventoryReservation
set_option autoImplicit false

open Relational Transactional

/-- The session a transaction commits. -/
def commitOf {α : Type} (body : TransactionM α) (database : Database) : Option Session :=
  match body (.start database) with
  | .ok _ session => some session
  | .error _ _ => none

theorem commitOf_eq_some_iff {α : Type} {body : TransactionM α} {database : Database} {t : Session} :
    commitOf body database = some t ↔ ∃ result, body (.start database) = .ok result t := by
  unfold commitOf
  cases body (.start database) with
  | ok result u =>
    constructor
    · rintro ⟨⟩
      exact ⟨result, rfl⟩
    · rintro ⟨_, ⟨⟩⟩
      rfl
  | error failure u => exact ⟨nofun, nofun⟩

theorem databaseTransaction_database {α : Type} (body : TransactionM α) (database : Database) :
    (databaseTransaction body database).database =
      ((commitOf body database).map Session.database).getD database := by
  unfold databaseTransaction commitOf
  cases body (.start database) <;> rfl

namespace System
variable (sha256 : String → String)

/-- The session a request commits. A create commits its first transaction, whatever it answers. -/
def commit (event : Event) (database : Database) : Option Session :=
  let environment := event.environment
  match event.request with
  | .create userId items idempotencyKey =>
    commitOf (ReservationService.createTransaction sha256 environment userId items idempotencyKey) database
  | .confirm reservationId userId => commitOf (confirm environment reservationId userId) database
  | .cancel reservationId userId => commitOf (cancel environment reservationId userId) database
  | .expireBatch limit => commitOf (expireBatch environment limit) database
  | .reconcileBatch limit maxAttempts retryBaseDelay =>
    commitOf (reconcileBatch environment limit maxAttempts retryBaseDelay) database
  | .setLevel productId providerId onHand allocationPriority routingGroup =>
    commitOf (setLevel productId providerId onHand allocationPriority routingGroup) database
  | .removeLevel productId providerId => commitOf (removeLevel productId providerId) database

theorem step_eq_commit (event : Event) (database : Database) :
    step sha256 database event = ((commit sha256 event database).map Session.database).getD database := by
  obtain ⟨environment, request⟩ := event
  cases request with
  | create userId items idempotencyKey =>
    exact (ReservationService.create_eq sha256 environment userId items idempotencyKey database).1.trans
      (databaseTransaction_database _ _)
  | confirm reservationId userId =>
    exact databaseTransaction_database (confirm environment reservationId userId) database
  | cancel reservationId userId =>
    exact databaseTransaction_database (cancel environment reservationId userId) database
  | expireBatch limit => exact databaseTransaction_database (expireBatch environment limit) database
  | reconcileBatch limit maxAttempts retryBaseDelay =>
    exact databaseTransaction_database (reconcileBatch environment limit maxAttempts retryBaseDelay) database
  | setLevel productId providerId onHand allocationPriority routingGroup =>
    exact databaseTransaction_database
      (setLevel productId providerId onHand allocationPriority routingGroup) database
  | removeLevel productId providerId =>
    exact databaseTransaction_database (removeLevel productId providerId) database

/-- How a request got to the session it commits. -/
inductive Committed (event : Event) (database : Database) : Session → Prop
  | found : Committed event database (.start database)
  | walked (t : Session)
      (h : forEach (Walk.run event.environment) (event.walks database) (.start database) = .ok () t) :
      Committed event database t
  | created (userId : Uuid) (items : List ReservationItem) (idempotencyKey : String)
      (reservation : Reservation) (held : Bool) (t : Session)
      (hrequest : event.request = .create userId items idempotencyKey)
      (hnone : database.findByIdempotencyKey userId idempotencyKey = none)
      (hstart : Reservation.start (creationDraft sha256 event.environment userId items idempotencyKey) =
        .ok reservation)
      (h : addWithHold event.environment reservation (.start database) = .ok held t) :
      Committed event database t
  | leveled (t : Session) (heffect : HoldEffect 0 (.start database) t) (hexchanges : t.exchanges = []) :
      Committed event database t

variable {sha256}

theorem createTransaction_committed {event : Event} {database : Database} {userId : Uuid}
    {items : List ReservationItem} {idempotencyKey : String} {result : Reservation × Bool} {t : Session}
    (hrequest : event.request = .create userId items idempotencyKey)
    (h : ReservationService.createTransaction sha256 event.environment userId items idempotencyKey
      (.start database) = .ok result t) : Committed sha256 event database t := by
  rw [ReservationService.createTransaction] at h
  obtain ⟨existing, v, hv, h⟩ := bind_ok_iff.mp h
  rw [getByIdempotencyKey, readDatabase_bind] at hv
  cases toDomain_ok hv
  cases hf : database.findByIdempotencyKey userId idempotencyKey with
  | some model =>
    rw [show (Session.start database).database = database from rfl, hf, toDomain, readDatabase_bind] at hv
    obtain ⟨loaded, -, hv⟩ := ofExcept_bind_ok_iff.mp hv
    obtain ⟨rfl, -⟩ := pure_ok_iff.mp hv
    obtain ⟨resolved, -, h⟩ := ofExcept_bind_ok_iff.mp h
    obtain ⟨-, rfl⟩ := pure_ok_iff.mp h
    exact .found
  | none =>
    rw [show (Session.start database).database = database from rfl, hf] at hv
    obtain ⟨rfl, -⟩ := pure_ok_iff.mp hv
    obtain ⟨reservation, hstart, h⟩ := ofExcept_bind_ok_iff.mp h
    obtain ⟨held, w, hw, h⟩ := bind_ok_iff.mp h
    obtain ⟨-, rfl⟩ := pure_ok_iff.mp h
    exact .created userId items idempotencyKey reservation held w hrequest hf hstart hw

/-- Every committed session is one of these. -/
theorem commit_cases {event : Event} {database : Database} {t : Session} (hbooked : database.Booked)
    (h : commit sha256 event database = some t) : Committed sha256 event database t := by
  obtain ⟨environment, request⟩ := event
  cases request with
  | create userId items idempotencyKey =>
    obtain ⟨result, hr⟩ := commitOf_eq_some_iff.mp h
    have hrequest : (Event.mk environment (.create userId items idempotencyKey)).request =
      .create userId items idempotencyKey := rfl
    exact createTransaction_committed hrequest hr
  | confirm reservationId userId =>
    obtain ⟨result, hr⟩ := commitOf_eq_some_iff.mp h
    exact .walked t (confirm_makes (s := .start database) hbooked result t hr)
  | cancel reservationId userId =>
    obtain ⟨result, hr⟩ := commitOf_eq_some_iff.mp h
    exact .walked t (cancel_makes (s := .start database) result t hr)
  | expireBatch limit =>
    obtain ⟨result, hr⟩ := commitOf_eq_some_iff.mp h
    exact .walked t (expireBatch_makes (s := .start database) result t hr)
  | reconcileBatch limit maxAttempts retryBaseDelay =>
    obtain ⟨result, hr⟩ := commitOf_eq_some_iff.mp h
    exact .walked t (reconcileBatch_makes (s := .start database) result t hr)
  | setLevel productId providerId onHand allocationPriority routingGroup =>
    obtain ⟨result, hr⟩ := commitOf_eq_some_iff.mp h
    obtain ⟨heffect, hexchanges⟩ := setLevel_ok hr
    exact .leveled t heffect hexchanges
  | removeLevel productId providerId =>
    obtain ⟨result, hr⟩ := commitOf_eq_some_iff.mp h
    obtain ⟨heffect, hexchanges⟩ := removeLevel_ok hr
    exact .leveled t heffect hexchanges

/-- A property of the committed database that every way to commit keeps, every step keeps. -/
theorem step_of_commit {J : Database → Prop} {event : Event} {database : Database} (hJ : J database)
    (h : ∀ t, commit sha256 event database = some t → J t.database) :
    J (step sha256 database event) := by
  rw [step_eq_commit]
  cases hc : commit sha256 event database with
  | none => exact hJ
  | some t => exact h t hc

end System
end InventoryReservation
