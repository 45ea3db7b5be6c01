import InventoryReservation.Guarantees.CustomerAnswers

/-! # What answers show over time

Two answers about one reservation agree, whatever happened in between: its owner, its lifetime and its items are
what they were, and a status that was final still stands. Items are shown as they were requested when the
reservation is created, and in the order of their products ever after.
-/

namespace InventoryReservation
set_option autoImplicit false

open Relational Transactional

/-! ## The statement -/

/-- The items in the order in which they are loaded. -/
def ReservationItemResponse.byProduct (items : List ReservationItemResponse) : List ReservationItemResponse :=
  items.insertionSort fun a b => a.productId.int ≤ b.productId.int

/-- What a later answer about a reservation says beside an earlier one. -/
structure ReservationResponse.FollowedBy (earlier later : ReservationResponse) : Prop where
  userId : later.userId = earlier.userId
  createdAt : later.createdAt = earlier.createdAt
  expiresAt : later.expiresAt = earlier.expiresAt
  items : later.items = ReservationItemResponse.byProduct earlier.items
  confirmed : earlier.status = .confirmed → later.status = .confirmed
  cancelled : earlier.status = .cancelled → later.status = .cancelled
  pending : later.status = .pending → earlier.status = .pending

/-! ## What an answer shows -/

/-- The reservation as a list of items in the order of their products. -/
abbrev sortByProduct (items : List ReservationItem) : List ReservationItem :=
  items.insertionSort fun a b => a.productId.int ≤ b.productId.int

/-- The answered reservation is the stored one, up to the order of its items. -/
structure Reservation.Shows (reservation : Reservation) (aggregate : Aggregate) : Prop where
  userId : reservation.userId = aggregate.reservation.userId
  createdAt : reservation.createdAt = aggregate.reservation.createdAt
  expiresAt : reservation.expiresAt = aggregate.reservation.expiresAt
  status : aggregate.reservation.status.toDomain = .ok reservation.status
  items : sortByProduct reservation.items =
    sortByProduct (aggregate.items.map ReservationItemModel.toDomain)

theorem sortByProduct_idem (items : List ReservationItem) :
    sortByProduct (sortByProduct items) = sortByProduct items := by
  have htotal : Std.Total fun a b : ReservationItem => a.productId.int ≤ b.productId.int := ⟨fun _ _ => le_total _ _⟩
  have htrans : IsTrans ReservationItem fun a b => a.productId.int ≤ b.productId.int := ⟨fun _ _ _ => le_trans⟩
  exact (List.pairwise_insertionSort _ items).insertionSort_eq

/-- A loaded reservation shows what is stored, its items in order. -/
theorem Database.Loads.shows {database : Database} {model : ReservationModel} {reservation : Reservation}
    (hf : database.reservations.find? reservation.id = some model) (h : database.Loads model reservation) :
    ∃ aggregate, database.aggregate? reservation.id = some aggregate ∧ reservation.Shows aggregate ∧
      sortByProduct reservation.items = reservation.items := by
  have hitems : reservation.items =
      sortByProduct ((database.itemsOf reservation.id).map ReservationItemModel.toDomain) := by
    rw [h.items, h.id]
    exact database.itemsByProduct_toDomain model.id
  refine ⟨⟨model, _, _, _⟩, Database.aggregate?_eq_some_iff.mpr ⟨hf, rfl, rfl, rfl⟩,
    ⟨h.userId, h.createdAt, h.expiresAt, h.status, ?_⟩, ?_⟩
  · rw [hitems]
    exact sortByProduct_idem _
  · rw [hitems]
    exact sortByProduct_idem _

/-- A reservation answered when it is created shows what was stored. -/
theorem Aggregate.Created.shows {environment : Environment} {reservation : Reservation}
    {exchanges : List Exchange} {after : Aggregate}
    (h : Aggregate.Created environment reservation exchanges true after) : reservation.Shows after := by
  cases h with
  | held _ hopened =>
    refine ⟨hopened.request.userId.symm, hopened.request.createdAt.symm, hopened.request.expiresAt.symm, ?_, ?_⟩
    · rw [hopened.status]
      cases reservation.status <;> rfl
    · rw [hopened.items]

/-- What a successful answer shows: the reservation as it is stored then, its items in order unless the request
has just created it. -/
def ReservationResponse.Shown (body : ReservationResponse) (before after : Database) : Prop :=
  ∃ reservation aggregate, body = .fromDomain reservation ∧ after.aggregate? reservation.id = some aggregate ∧
    reservation.Shows aggregate ∧
    (sortByProduct reservation.items = reservation.items ∨ before.aggregate? reservation.id = none)

theorem Database.Loads.shown {before after : Database} {reservationId : Uuid} {model : ReservationModel}
    {reservation : Reservation} (hf : after.reservations.find? reservationId = some model)
    (h : after.Loads model reservation) :
    (ReservationResponse.fromDomain reservation).Shown before after := by
  have hid : reservation.id = reservationId := h.id.trans (Table.key_of_find? hf)
  rw [← hid] at hf
  obtain ⟨aggregate, haggregate, hshows, hsorted⟩ := h.shows hf
  exact ⟨reservation, aggregate, rfl, haggregate, hshows, Or.inl hsorted⟩

namespace ReservationCall
variable {sha256 : String → String} {environment : Environment} {database : Database}
  {body : ReservationResponse}

theorem respond_eq_reservation {statusCode : ℕ} {answer : Except EndpointError ReservationResponse}
    (h : (respond statusCode .reservation answer).body = .reservation body) : answer = .ok body := by
  cases answer with
  | ok body' =>
    cases h
    rfl
  | error error =>
    exfalso
    cases error with
    | service failure => cases failure <;> cases h
    | provider failure => cases failure <;> cases h
    | reservationNotFound reservationId => cases h
    | productNotFound productId => cases h
    | inventoryLevelNotFound productId providerId => cases h
    | invalidProductConfiguration message => cases h
    | productSkuConflict sku => cases h

theorem getReservation_shown {reservationId userId : Uuid}
    (h : ((getReservation reservationId userId).serve sha256 environment database).answer = .ok body) :
    body.Shown database database := by
  cases hr : InventoryReservation.getReservation reservationId (.start database) with
  | error failure t =>
    have hserve : (getReservation reservationId userId).serve sha256 environment database = _ := serve_of_error hr
    rw [hserve] at h
    cases h
  | ok found t =>
    have hserve : (getReservation reservationId userId).serve sha256 environment database = _ := serve_of_ok hr
    rw [hserve] at h
    cases hf : database.reservations.find? reservationId with
    | none =>
      have hread := hr
      have hf : (Session.start database).database.reservations.find? reservationId = none := hf
      rw [InventoryReservation.getReservation, readDatabase_bind, hf] at hread
      obtain ⟨rfl, -⟩ := pure_ok_iff.mp hread
      cases h
    | some model =>
      obtain ⟨reservation, rfl, hloads⟩ := getReservation_loads (s := .start database) hf hr
      have hbody : body = .fromDomain reservation := by
        unfold requireOwned at h
        dsimp only at h
        split at h
        · cases h
        · exact (Except.ok.inj h).symm
      rw [hbody]
      exact hloads.shown hf

theorem endpoint_shown (kind : SettlementKind) (hsound : database.Sound) {reservationId userId : Uuid}
    (h : ((kind.endpoint reservationId userId).serve sha256 environment database).answer = .ok body) :
    body.Shown database ((kind.endpoint reservationId userId).serve sha256 environment database).database := by
  rw [SettlementKind.endpoint_serve] at h ⊢
  cases hr : kind.call environment reservationId userId (.start database) with
  | error failure t =>
    rw [serve_of_error hr] at h
    cases h
  | ok result t =>
    rw [serve_of_ok hr] at h ⊢
    cases howned : database.findOwned reservationId userId with
    | none =>
      cases (SettlementKind.call_unowned howned).symm.trans hr
      cases h
    | some model =>
      obtain ⟨model', reservation, hf, -, rfl, hloads⟩ := SettlementKind.call_loads hsound howned hr
      cases h
      exact hloads.shown hf

theorem createReservation_shown (hsound : database.Sound) {request : CreateReservationRequest} {userId : Uuid}
    {idempotencyKey : IdempotencyKeyHeader}
    (h : ((createReservation request userId idempotencyKey).serve sha256 environment database).answer =
      .ok body) :
    body.Shown database
      ((createReservation request userId idempotencyKey).serve sha256 environment database).database := by
  cases hf : database.findByIdempotencyKey userId idempotencyKey.value with
  | some model =>
    obtain ⟨existing, hloads, hcreate⟩ :=
      ReservationService.create_of_found sha256 environment request.toItems hsound hf
    rw [serve, hcreate] at h ⊢
    cases hr : resolveIdempotentRetry existing idempotencyKey.value
        (reservationRequestFingerprint sha256 request.toItems) with
    | error failure =>
      rw [hr] at h
      cases h
    | ok reservation =>
      rw [hr] at h
      cases h
      rw [(resolveIdempotentRetry_ok hr).1]
      exact hloads.shown (Table.find?_of_mem (Database.findByIdempotencyKey_eq_some hf).1)
  | none =>
    cases hr : ReservationService.createTransaction sha256 environment userId request.toItems
        idempotencyKey.value (.start database) with
    | error failure t =>
      rw [serve, ReservationService.create_of_error hf hr] at h
      cases h
    | ok result t =>
      obtain ⟨reservation, held⟩ := result
      have hcreate := ReservationService.create_of_ok hr
      rw [serve, hcreate] at h ⊢
      cases held with
      | false => cases h
      | true =>
        cases h
        rcases createTransaction_ok (s := .start database) hsound.wellFormed rfl hr with
          ⟨model, existing, hfound, -⟩ | ⟨-, -, hcreation⟩
        · cases hf.symm.trans hfound
        · obtain ⟨after, hafter, hcreated⟩ := hcreation.aggregate
          refine ⟨reservation, after, rfl, hafter, hcreated.shows, Or.inr ?_⟩
          have hfree : database.reservations.find? reservation.id = none := hcreation.free
          rw [Database.aggregate?, hfree]
          rfl

/-- A successful answer shows a stored reservation. -/
theorem shown (call : ReservationCall) (hsound : database.Sound)
    (h : (call.response sha256 environment database).body = .reservation body) :
    body.Shown database (call.serve sha256 environment database).database := by
  have hanswer := respond_eq_reservation h
  cases call with
  | createReservation request userId idempotencyKey => exact createReservation_shown hsound hanswer
  | getReservation reservationId userId =>
    rw [serve_database]
    exact getReservation_shown hanswer
  | confirmReservation reservationId userId => exact endpoint_shown .confirm hsound hanswer
  | cancelReservation reservationId userId => exact endpoint_shown .release hsound hanswer

end ReservationCall

/-! ## Two answers -/

theorem ReservationStatusModel.eq_toModel {status : ReservationStatusModel} {status' : ReservationStatus}
    (h : status.toDomain = .ok status') : status = status'.toModel := by
  cases status <;> cases h <;> rfl

theorem Reservation.Shows.status_eq {reservation : Reservation} {aggregate : Aggregate}
    (h : reservation.Shows aggregate) : aggregate.reservation.status = reservation.status.toModel :=
  ReservationStatusModel.eq_toModel h.status

theorem Reservation.Shows.status_unique {a b : Reservation} {aggregate : Aggregate} (h : a.Shows aggregate)
    (h' : b.Shows aggregate) : a.status = b.status :=
  Except.ok.inj (h.status.symm.trans h'.status)

/-- The response of sorted items. -/
theorem byProduct_response (items : List ReservationItem) :
    (sortByProduct items).map ReservationItem.response =
      ReservationItemResponse.byProduct (items.map ReservationItem.response) :=
  List.map_insertionSort _ _ _ _ fun _ _ _ _ => Iff.rfl

/-- A reservation that persisted is shown as it was. -/
theorem Reservation.Shows.followedBy {earlier later : Reservation} {before after : Aggregate}
    (hearlier : earlier.Shows before) (hlater : later.Shows after) (hpersists : before.Persists after)
    (hsorted : sortByProduct later.items = later.items) :
    (ReservationResponse.fromDomain earlier).FollowedBy (.fromDomain later) where
  userId := hlater.userId.trans (hpersists.request.userId.trans hearlier.userId.symm)
  createdAt := hlater.createdAt.trans (hpersists.request.createdAt.trans hearlier.createdAt.symm)
  expiresAt := hlater.expiresAt.trans (hpersists.request.expiresAt.trans hearlier.expiresAt.symm)
  items := by
    have hitems : later.items = sortByProduct earlier.items := by
      rw [hearlier.items, ← hpersists.items, ← hlater.items, hsorted]
    change later.items.map ReservationItem.response = _
    rw [hitems]
    exact byProduct_response earlier.items
  confirmed hstatus := by
    have hbefore : before.reservation.status = .confirmed := hearlier.status_eq.trans (congrArg _ hstatus)
    rw [hpersists.final (Or.inl hbefore)] at hlater
    exact (hlater.status_unique hearlier).trans hstatus
  cancelled hstatus := by
    have hbefore : before.reservation.status = .cancelled := hearlier.status_eq.trans (congrArg _ hstatus)
    rw [hpersists.final (Or.inr hbefore)] at hlater
    exact (hlater.status_unique hearlier).trans hstatus
  pending hstatus := by
    have hafter : after.reservation.status = .pending := hlater.status_eq.trans (congrArg _ hstatus)
    rw [hpersists.pending hafter] at hlater
    exact (hearlier.status_unique hlater).trans hstatus

namespace Traffic
variable (sha256 : String → String) {database : Database}

theorem run_persists (hsound : database.Sound) (traffic : List Traffic) {r : Uuid} {before : Aggregate}
    (hb : database.aggregate? r = some before) :
    ∃ after, (run sha256 database traffic).aggregate? r = some after ∧ before.Persists after := by
  rw [run_eq]
  exact System.run_persists sha256 hsound _ hb

/-- Whatever traffic lies between two successful answers about a reservation, the second follows the first. -/
theorem run_followedBy (hinit : database.Initial) (before between : List Traffic)
    (environment environment' : Environment) (call call' : ReservationCall)
    (earlier later : ReservationResponse)
    (hearlier : (call.response sha256 environment (run sha256 database before)).body = .reservation earlier)
    (hlater : (call'.response sha256 environment'
      (run sha256 database (before ++ .customer environment call :: between))).body = .reservation later)
    (hid : later.id = earlier.id) : earlier.FollowedBy later := by
  have hstart := run_sound sha256 hinit before
  have hserved := run_sound sha256 hinit (before ++ [.customer environment call])
  have hlast := run_sound sha256 hinit (before ++ .customer environment call :: between)
  obtain ⟨reservation, aggregate, rfl, hshown, hshows, -⟩ := call.shown hstart hearlier
  obtain ⟨reservation', aggregate', rfl, hshown', hshows', hsorted⟩ := call'.shown hlast hlater
  have hid : reservation'.id = reservation.id := hid
  -- The reservation first answered about is still stored when the second request comes.
  have hsplit : run sha256 database (before ++ .customer environment call :: between) =
      run sha256 (run sha256 database (before ++ [.customer environment call])) between := by
    rw [← run_append, List.append_assoc, List.singleton_append]
  have hafter : run sha256 database (before ++ [.customer environment call]) =
      (call.serve sha256 environment (run sha256 database before)).database := run_append _ _ _ _
  rw [← hafter] at hshown
  obtain ⟨between', hbetween, hpersists⟩ := run_persists sha256 hserved between hshown
  rw [← hsplit] at hbetween
  obtain ⟨last, hlast', hpersists'⟩ := run_persists sha256 hlast [.customer environment' call'] hbetween
  have hlast' : (call'.serve sha256 environment'
    (run sha256 database (before ++ .customer environment call :: between))).database.aggregate?
      reservation.id = some last := hlast'
  rw [← hid] at hlast' hbetween
  cases hshown'.symm.trans hlast'
  refine hshows.followedBy hshows' (hpersists.trans hpersists') (hsorted.resolve_right ?_)
  rw [hbetween]
  nofun

end Traffic

namespace Deployment

/-- What the customer is shown when the reservation is created. -/
def unorderedResponse : ReservationResponse where
  id := 100
  userId := 7
  status := .pending
  items := [⟨2, 20, 1⟩, ⟨1, 10, 2⟩]
  createdAt := 0
  expiresAt := 900

end Deployment

/-- A reservation read after it was cancelled. -/
theorem Traffic.run_followedBy_cancelled :
    Deployment.unorderedResponse.FollowedBy
      { Deployment.unorderedResponse with status := .cancelled, items := [⟨1, 10, 2⟩, ⟨2, 20, 1⟩] } :=
  run_followedBy Deployment.sha256 Deployment.initial [] [.internal (Deployment.cancel 1200 100 10)]
    (Deployment.environment 1000 100 0) (Deployment.environment 1300 0 20)
    (.createReservation Deployment.unorderedRequest 7 Deployment.keyHeader) (.getReservation 100 7) _ _
    (by decide +kernel) (by decide +kernel) rfl

end InventoryReservation
