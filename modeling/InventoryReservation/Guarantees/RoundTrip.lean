import InventoryReservation.Guarantees.Verdict

/-! # Reservations loaded again

A stored reservation is loaded with its items in the order of their products. It is the reservation that
was stored, and the answer of a retried create that of the first one, exactly if the items were requested
in that order.
-/

namespace InventoryReservation
set_option autoImplicit false

open Relational Transactional

/-! ## Storing and loading -/

/-- A reservation just stored is found by its id and by its key as it was stored, if its items come in
the order of their products. -/
theorem Stored.loads_iff {environment : Environment} {reservation : Reservation}
    {models : List ReservationItemModel} {s t : Session} (h : Stored environment reservation models s t)
    (hwf : s.database.WellFormed) :
    (getReservation reservation.id (.start t.database) = .ok (some reservation) (.start t.database) ↔
      Ascending reservation.items) ∧
    (getByIdempotencyKey reservation.userId reservation.idempotencyKey (.start t.database) =
      .ok (some reservation) (.start t.database) ↔ Ascending reservation.items) := by
  have hfound : t.database.reservations.find? reservation.id = some (toModel environment reservation) := by
    rw [h.findReservation, if_pos rfl]
  have hkey := (h.wellFormed hwf).findByIdempotencyKey (Table.mem_of_find? hfound)
  have hitems : (t.database.itemsOf reservation.id).map ReservationItemModel.toDomain = reservation.items := by
    rw [h.itemsOf hwf, if_pos rfl]
    exact h.models
  have hloads : t.database.Loads (toModel environment reservation) reservation ↔
      Ascending reservation.items :=
    Database.loads_iff_ascending ⟨rfl, rfl, rfl, rfl, rfl, rfl⟩ rfl rfl hitems
  exact ⟨(getReservation_iff hfound).trans hloads, (getByIdempotencyKey_iff hkey).trans hloads⟩

/-! ## Creating and retrying -/

namespace System
variable {sha256 : String → String} {environment : Environment} {userId : Uuid}
  {items : List ReservationItem} {idempotencyKey : String} {database : Database} {reservation : Reservation}

/-- A create that found nothing under its key returned what it stored. -/
theorem created_stored (hwf : database.WellFormed)
    (hnone : database.findByIdempotencyKey userId idempotencyKey = none)
    (h : (execute sha256 ⟨environment, .create userId items idempotencyKey⟩ database).result =
      .ok (.created reservation)) :
    Reservation.start (creationDraft sha256 environment userId items idempotencyKey) = .ok reservation ∧
      ∃ t, Creation environment reservation true (.start database) t ∧
        step sha256 database ⟨environment, .create userId items idempotencyKey⟩ = t.database := by
  have hresult : (ReservationService.create sha256 environment userId items idempotencyKey database).result =
      .ok reservation := by
    unfold execute TransactionOutcome.map TransactionOutcome.withResult at h
    dsimp only at h
    cases hr : (ReservationService.create sha256 environment userId items idempotencyKey database).result with
    | error failure =>
      rw [hr] at h
      cases h
    | ok returned =>
      rw [hr] at h
      cases h
      rfl
  have hdatabase := (ReservationService.create_eq sha256 environment userId items idempotencyKey database).1
  unfold ReservationService.create reservationTransaction at hresult
  rcases databaseTransaction_cases (ReservationService.createTransaction sha256 environment userId items
      idempotencyKey) database with ⟨⟨stored, held⟩, t, hr, he⟩ | ⟨failure, t, hr, he⟩
  · rw [he] at hresult hdatabase
    simp only [TransactionOutcome.withResult, Except.mapError] at hresult
    rcases createTransaction_ok (s := .start database) hwf rfl hr with
      ⟨model, existing, hf, -⟩ | ⟨-, hstart, hcreation⟩
    · have hf : database.findByIdempotencyKey userId idempotencyKey = some model := hf
      rw [hnone] at hf
      cases hf
    · cases held with
      | false => cases hresult
      | true =>
        cases hresult
        exact ⟨hstart, t, hcreation, hdatabase⟩
  · rw [he] at hresult
    simp only [TransactionOutcome.withResult, Except.mapError] at hresult
    split at hresult
    · next hok => cases hok
    · -- The second transaction of the create finds nothing either.
      unfold databaseTransaction at hresult
      rw [getByIdempotencyKey_none hnone] at hresult
      cases hresult
    · cases hresult

/-- A retry answers with the reservation of the first create if its items came in the order of their
products. -/
theorem retry_returns_iff (hwf : database.WellFormed)
    (hnone : database.findByIdempotencyKey userId idempotencyKey = none)
    (hfirst : (execute sha256 ⟨environment, .create userId items idempotencyKey⟩ database).result =
      .ok (.created reservation)) {later : Database} (hlater : later.Sound)
    (huntouched : later.aggregate? reservation.id =
      (step sha256 database ⟨environment, .create userId items idempotencyKey⟩).aggregate? reservation.id)
    (environment' : Environment) :
    (execute sha256 ⟨environment', .create userId items idempotencyKey⟩ later).result =
      .ok (.created reservation) ↔ Ascending items := by
  obtain ⟨hstart, t, hcreation, hstep⟩ := created_stored hwf hnone hfirst
  obtain ⟨after, hafter, hcreated⟩ := hcreation.aggregate
  obtain ⟨-, huser, hitems, hkey, hfingerprint, hstatus, htarget⟩ := Reservation.start_ok hstart
  rw [hstep, hafter] at huntouched
  obtain ⟨hfound, hrows, -, -⟩ := Database.aggregate?_eq_some_iff.mp huntouched
  cases hcreated with
  | held _ hopened =>
    have hholds : later.Holds userId idempotencyKey (reservationRequestFingerprint sha256 items)
        after.reservation := by
      have hf := hlater.wellFormed.findByIdempotencyKey (Table.mem_of_find? hfound)
      have huser' : after.reservation.userId = userId := hopened.request.userId.trans huser
      have hkey' : after.reservation.idempotencyKey = idempotencyKey :=
        hopened.request.idempotencyKey.trans hkey
      rw [huser', hkey'] at hf
      exact ⟨hf, hopened.request.requestFingerprint.trans hfingerprint⟩
    have hnot : ¬ after.reservation.TurnedDown := by
      unfold ReservationModel.TurnedDown
      rw [hopened.status, hopened.releaseTargetStatus, hstatus, htarget]
      decide
    have hitemsOf : (later.itemsOf after.reservation.id).map ReservationItemModel.toDomain =
        reservation.items := by
      have hid : after.reservation.id = reservation.id := hopened.request.id
      rw [hid, ← hrows]
      exact hopened.items
    have hloads : later.Loads after.reservation reservation ↔ Ascending reservation.items :=
      Database.loads_iff_ascending hopened.request hopened.status hopened.releaseTargetStatus hitemsOf
    obtain ⟨existing, hexisting, hresult⟩ := hlater.create_again environment' hholds
    rw [if_neg hnot] at hresult
    have hexecute : (execute sha256 ⟨environment', .create userId items idempotencyKey⟩ later).result =
        .ok (.created existing) := by
      unfold execute TransactionOutcome.map TransactionOutcome.withResult
      dsimp only
      rw [hresult]
      rfl
    have hitems : reservation.items = items := hitems
    rw [hexecute, ← hitems, ← hloads]
    constructor
    · intro h
      cases h
      exact hexisting
    · intro h
      have hsame := (Database.toDomain_eq_ok_iff.mpr hexisting).symm.trans (Database.toDomain_eq_ok_iff.mpr h)
      rw [Except.ok.inj hsame]

/-- What is stored is given back, and a retried create answers as the first one did, exactly if the items
came in the order of their products. -/
theorem round_trip_iff_ascending (sha256 : String → String) :
    (∀ (environment : Environment) (reservation : Reservation) (s t : Session)
        (models : List ReservationItemModel), s.database.WellFormed →
      addReservation environment reservation s = .ok models t →
        (getReservation reservation.id (.start t.database) = .ok (some reservation) (.start t.database) ↔
          Ascending reservation.items) ∧
        (getByIdempotencyKey reservation.userId reservation.idempotencyKey (.start t.database) =
          .ok (some reservation) (.start t.database) ↔ Ascending reservation.items)) ∧
    ∀ (database : Database) (events between : List Event) (environment environment' : Environment)
        (userId : Uuid) (items : List ReservationItem) (idempotencyKey : String) (reservation : Reservation),
      database.Initial →
      (run sha256 database events).findByIdempotencyKey userId idempotencyKey = none →
      (execute sha256 ⟨environment, .create userId items idempotencyKey⟩
        (run sha256 database events)).result = .ok (.created reservation) →
      (run sha256 database (events ++ ⟨environment, .create userId items idempotencyKey⟩ ::
          between)).aggregate? reservation.id =
        (run sha256 database (events ++
          [⟨environment, .create userId items idempotencyKey⟩])).aggregate? reservation.id →
      ((execute sha256 ⟨environment', .create userId items idempotencyKey⟩
          (run sha256 database (events ++ ⟨environment, .create userId items idempotencyKey⟩ ::
            between))).result = .ok (.created reservation) ↔ Ascending items) := by
  constructor
  · intro environment reservation s t models hwf h
    exact (addReservation_ok h).loads_iff hwf
  · intro database events between environment environment' userId items idempotencyKey reservation hinit
      hnone hfirst huntouched
    refine retry_returns_iff (run_sound sha256 hinit events).wellFormed hnone hfirst
      (run_sound sha256 hinit _) (huntouched.trans ?_) environment'
    exact congrArg (Database.aggregate? · reservation.id) (Runs.run_append _ _ _ _)

end System

/-- Two items, the later product first. -/
def Deployment.unordered : List ReservationItem := [line 2 20 1 one_unit, line 1 10 2 two_units]

/-- A reservation of these items. -/
def Deployment.unorderedReservation : Reservation where
  id := 100
  userId := 7
  items := unordered
  idempotencyKey := "key"
  requestFingerprint := sha256 ""
  createdAt := 0
  expiresAt := 900
  status := .pending
  releaseTargetStatus := none
  items_ne_nil := List.cons_ne_nil _ _
  createdAt_lt := lasts

theorem Deployment.stores_unordered : ∃ models t,
    addReservation (environment 1000 100 0) unorderedReservation (.start database) = .ok models t := by
  have hstorable : database.Storable (toModel (environment 1000 100 0) unorderedReservation)
      (itemModels (environment 1000 100 0) unorderedReservation.id 0 unorderedReservation.items) := by
    decide +kernel
  obtain ⟨t, ht, -⟩ := (addReservation_storable (environment 1000 100 0) unorderedReservation
    (s := .start database) rfl).1 hstorable
  exact ⟨_, t, ht⟩

/-- The reservation that a create returned. -/
def createdReservation : Except Failure Response → Option Reservation
  | .ok (.created reservation) => some reservation
  | _ => none

theorem createdReservation_eq_some {result : Except Failure Response} {reservation : Reservation}
    (h : createdReservation result = some reservation) : result = .ok (.created reservation) := by
  unfold createdReservation at h
  split at h
  · cases h
    rfl
  · cases h

/-- The reservation is not loaded as it was stored, and a retried create returns its items in another
order than the first one. -/
theorem unordered_items_are_reordered :
    (¬ ∀ models t, addReservation (Deployment.environment 1000 100 0) Deployment.unorderedReservation
          (.start Deployment.database) = .ok models t →
        getReservation 100 (.start t.database) =
          .ok (some Deployment.unorderedReservation) (.start t.database)) ∧
      (createdReservation (System.execute Deployment.sha256
        (Deployment.create 1000 100 0 Deployment.unordered "key") Deployment.database).result).map
          Reservation.items = some Deployment.unordered ∧
      (createdReservation (System.execute Deployment.sha256
        (Deployment.create 1200 300 20 Deployment.unordered "key")
        (System.run Deployment.sha256 Deployment.database
          [Deployment.create 1000 100 0 Deployment.unordered "key"])).result).map
          Reservation.items = some Deployment.unordered.reverse := by
  refine ⟨fun h => ?_, by decide +kernel, by decide +kernel⟩
  obtain ⟨models, t, ht⟩ := Deployment.stores_unordered
  have hwf : Deployment.database.WellFormed := (Database.Sound.of_initial Deployment.initial).wellFormed
  have hascending := ((addReservation_ok ht).loads_iff hwf).1.mp (h models t ht)
  revert hascending
  decide

/-- Both halves, for a reservation stored and for a create retried at once. -/
theorem round_trip_iff_ascending_unordered :
    (∃ t : Session,
      (getReservation 100 (.start t.database) =
        .ok (some Deployment.unorderedReservation) (.start t.database) ↔ Ascending Deployment.unordered)) ∧
      ((System.execute Deployment.sha256 (Deployment.create 1200 300 20 Deployment.unordered "key")
          (System.run Deployment.sha256 Deployment.database
            ([] ++ Deployment.create 1000 100 0 Deployment.unordered "key" :: []))).result =
          .ok (.created Deployment.unorderedReservation) ↔ Ascending Deployment.unordered) := by
  have hwf : Deployment.database.WellFormed := (Database.Sound.of_initial Deployment.initial).wellFormed
  obtain ⟨models, t, ht⟩ := Deployment.stores_unordered
  have hfirst : (System.execute Deployment.sha256 (Deployment.create 1000 100 0 Deployment.unordered "key")
      (System.run Deployment.sha256 Deployment.database [])).result =
        .ok (.created Deployment.unorderedReservation) :=
    createdReservation_eq_some (by decide +kernel)
  constructor
  · exact ⟨t, ((System.round_trip_iff_ascending Deployment.sha256).1 _ _ _ _ _ hwf ht).1⟩
  · exact (System.round_trip_iff_ascending Deployment.sha256).2 Deployment.database [] [] _ _ _ _ _ _
      Deployment.initial (by decide +kernel) hfirst rfl

end InventoryReservation
