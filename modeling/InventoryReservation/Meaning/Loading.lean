import InventoryReservation.Meaning.Storing
import InventoryReservation.Meaning.WellFormed

/-! # Loading what was stored

A reservation is loaded exactly if its rows describe it (`Database.Loads`). What was stored is loaded
with its items in the order of their products.
-/

namespace InventoryReservation
set_option autoImplicit false

open Relational Transactional

/-! ## What rows describe -/

/-- The stored rows describe this reservation. -/
structure Database.Loads (database : Database) (model : ReservationModel) (reservation : Reservation) :
    Prop where
  id : reservation.id = model.id
  userId : reservation.userId = model.userId
  items : reservation.items = (database.itemsByProduct model.id).map ReservationItemModel.toDomain
  idempotencyKey : reservation.idempotencyKey = model.idempotencyKey
  requestFingerprint : reservation.requestFingerprint = model.requestFingerprint
  createdAt : reservation.createdAt = model.createdAt
  expiresAt : reservation.expiresAt = model.expiresAt
  status : model.status.toDomain = .ok reservation.status
  releaseTargetStatus :
    releaseTargetToDomain model.releaseTargetStatus = .ok reservation.releaseTargetStatus

section Loading
variable {database : Database} {userId : Uuid} {idempotencyKey : String} {model : ReservationModel}
  {reservation : Reservation}

theorem Reservation.construct_eq_ok_iff {id userId : Uuid} {items : List ReservationItem}
    {idempotencyKey requestFingerprint : String} {createdAt expiresAt : Instant}
    {status : ReservationStatus} {releaseTargetStatus : Option ReservationStatus} :
    Reservation.construct id userId items idempotencyKey requestFingerprint createdAt expiresAt status
        releaseTargetStatus = .ok reservation ↔
      reservation.id = id ∧ reservation.userId = userId ∧ reservation.items = items ∧
        reservation.idempotencyKey = idempotencyKey ∧
        reservation.requestFingerprint = requestFingerprint ∧ reservation.createdAt = createdAt ∧
        reservation.expiresAt = expiresAt ∧ reservation.status = status ∧
        reservation.releaseTargetStatus = releaseTargetStatus := by
  unfold construct
  constructor
  · intro h
    split at h
    · cases h
    · split at h
      · cases h
        exact ⟨rfl, rfl, rfl, rfl, rfl, rfl, rfl, rfl, rfl⟩
      · cases h
  · rintro ⟨rfl, rfl, rfl, rfl, rfl, rfl, rfl, rfl, rfl⟩
    rw [dif_neg reservation.items_ne_nil, dif_pos reservation.createdAt_lt]

theorem Database.toDomain_eq_ok_iff :
    database.toDomain model = .ok reservation ↔ database.Loads model reservation := by
  unfold toDomain
  cases hs : model.status.toDomain with
  | error failure =>
    refine ⟨fun h => (nomatch h), fun h => ?_⟩
    have hstatus := h.status
    rw [hs] at hstatus
    cases hstatus
  | ok status =>
    cases ht : releaseTargetToDomain model.releaseTargetStatus with
    | error failure =>
      refine ⟨fun h => (nomatch h), fun h => ?_⟩
      have htarget := h.releaseTargetStatus
      rw [ht] at htarget
      cases htarget
    | ok target =>
      simp only [bind, Except.bind]
      rw [Reservation.construct_eq_ok_iff]
      constructor
      · rintro ⟨hid, huser, hitems, hkey, hfingerprint, hcreated, hexpires, hstatus, htarget⟩
        exact ⟨hid, huser, hitems, hkey, hfingerprint, hcreated, hexpires, hstatus ▸ hs, htarget ▸ ht⟩
      · intro h
        have hstatus := h.status
        have htarget := h.releaseTargetStatus
        rw [hs] at hstatus
        rw [ht] at htarget
        exact ⟨h.id, h.userId, h.items, h.idempotencyKey, h.requestFingerprint, h.createdAt, h.expiresAt,
          (Except.ok.inj hstatus).symm, (Except.ok.inj htarget).symm⟩

/-- A row found by a query is returned as the reservation it describes. -/
theorem toDomain_some_iff {s : Session} :
    toDomain (some model) s = .ok (some reservation) s ↔ s.database.Loads model reservation := by
  rw [toDomain, readDatabase_bind, ofExcept_bind_ok_iff, ← Database.toDomain_eq_ok_iff]
  constructor
  · rintro ⟨loaded, hl, hr⟩
    obtain ⟨hr, -⟩ := pure_ok_iff.mp hr
    cases hr
    exact hl
  · intro h
    exact ⟨reservation, h, rfl⟩

theorem getReservation_iff {reservationId : Uuid}
    (hf : database.reservations.find? reservationId = some model) :
    getReservation reservationId (.start database) = .ok (some reservation) (.start database) ↔
      database.Loads model reservation := by
  have hf : (Session.start database).database.reservations.find? reservationId = some model := hf
  rw [getReservation, readDatabase_bind, hf, toDomain_some_iff]
  rfl

theorem getByIdempotencyKey_iff (hf : database.findByIdempotencyKey userId idempotencyKey = some model) :
    getByIdempotencyKey userId idempotencyKey (.start database) =
      .ok (some reservation) (.start database) ↔ database.Loads model reservation := by
  have hf : (Session.start database).database.findByIdempotencyKey userId idempotencyKey = some model := hf
  rw [getByIdempotencyKey, readDatabase_bind, hf, toDomain_some_iff]
  rfl

theorem Database.findByIdempotencyKey_eq_some
    (h : database.findByIdempotencyKey userId idempotencyKey = some model) :
    model ∈ database.reservations ∧ model.userId = userId ∧ model.idempotencyKey = idempotencyKey := by
  have hmatch : model.userId = userId ∧ model.idempotencyKey = idempotencyKey := by
    simpa using List.find?_some h
  exact ⟨List.mem_of_find?_eq_some h, hmatch.1, hmatch.2⟩

/-- A stored row is the one found under its key. -/
theorem Database.WellFormed.findByIdempotencyKey (hwf : database.WellFormed)
    (hm : model ∈ database.reservations) :
    database.findByIdempotencyKey model.userId model.idempotencyKey = some model := by
  cases hf : database.findByIdempotencyKey model.userId model.idempotencyKey with
  | none =>
    have hno := List.find?_eq_none.mp hf model hm
    simp at hno
  | some other =>
    obtain ⟨hother, huser, hkey⟩ := Database.findByIdempotencyKey_eq_some hf
    rw [hwf.uniqueRequest other hother model hm huser hkey]

end Loading

/-! ## The order of the items -/

/-- The items come in the order of their products. -/
def Ascending (items : List ReservationItem) : Prop :=
  items.Pairwise fun a b => a.productId.int ≤ b.productId.int

instance (items : List ReservationItem) : Decidable (Ascending items) :=
  inferInstanceAs (Decidable (items.Pairwise _))

theorem Database.itemsByProduct_toDomain (database : Database) (reservationId : Uuid) :
    (database.itemsByProduct reservationId).map ReservationItemModel.toDomain =
      ((database.itemsOf reservationId).map ReservationItemModel.toDomain).insertionSort
        fun a b => a.productId.int ≤ b.productId.int :=
  List.map_insertionSort _ _ _ _ fun _ _ _ _ => Iff.rfl

theorem Database.itemsByProduct_perm (database : Database) (reservationId : Uuid) :
    (database.itemsByProduct reservationId).Perm (database.itemsOf reservationId) :=
  List.perm_insertionSort _ _

theorem insertionSort_eq_self_iff {items : List ReservationItem} :
    items.insertionSort (fun a b => a.productId.int ≤ b.productId.int) = items ↔ Ascending items := by
  let byProduct : ReservationItem → ReservationItem → Prop := fun a b => a.productId.int ≤ b.productId.int
  have htotal : Std.Total byProduct := ⟨fun a b => le_total _ _⟩
  have htrans : IsTrans ReservationItem byProduct := ⟨fun a b c => le_trans⟩
  constructor
  · intro h
    have hsorted : (items.insertionSort byProduct).Pairwise byProduct := List.pairwise_insertionSort _ _
    rwa [h] at hsorted
  · exact List.Pairwise.insertionSort_eq

/-- Rows that keep what a reservation says describe it if its items come in the order of their products. -/
theorem Database.loads_iff_ascending {database : Database} {environment : Environment}
    {reservation : Reservation} {model : ReservationModel}
    (hrequest : (toModel environment reservation).SameRequest model)
    (hstatus : model.status = reservation.status.toModel)
    (htarget : model.releaseTargetStatus = reservation.releaseTargetStatus.map ReservationStatus.toModel)
    (hitems : (database.itemsOf model.id).map ReservationItemModel.toDomain = reservation.items) :
    database.Loads model reservation ↔ Ascending reservation.items := by
  have hsorted : (database.itemsByProduct model.id).map ReservationItemModel.toDomain =
      reservation.items.insertionSort fun a b => a.productId.int ≤ b.productId.int := by
    rw [database.itemsByProduct_toDomain, hitems]
  have hstatus : model.status.toDomain = .ok reservation.status := by
    rw [hstatus]
    cases reservation.status <;> rfl
  have htarget : releaseTargetToDomain model.releaseTargetStatus = .ok reservation.releaseTargetStatus := by
    rw [htarget]
    cases reservation.releaseTargetStatus with
    | none => rfl
    | some status => cases status <;> rfl
  rw [← insertionSort_eq_self_iff]
  constructor
  · intro h
    exact (h.items.trans hsorted).symm
  · intro h
    exact ⟨hrequest.id.symm, hrequest.userId.symm, (hsorted.trans h).symm, hrequest.idempotencyKey.symm,
      hrequest.requestFingerprint.symm, hrequest.createdAt.symm, hrequest.expiresAt.symm, hstatus, htarget⟩

end InventoryReservation
