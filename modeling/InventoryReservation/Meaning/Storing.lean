import InventoryReservation.Meaning.Creation

/-! # Which reservations can be stored

`addReservation` returns exactly if the rows of the reservation and of its items violate nothing, which
can be read off the database before it (`Database.Storable`).
-/

namespace InventoryReservation
set_option autoImplicit false

open Relational Transactional

/-- The row that inserting an item makes. -/
def itemModel (environment : Environment) (reservationId : Uuid) (generated : ℕ) (item : ReservationItem) :
    ReservationItemModel :=
  ⟨environment.uuid7 generated, reservationId, item.productId, item.providerId, item.quantity⟩

/-- The rows of the items of a new reservation, with the identifiers from `generated` on. -/
def itemModels (environment : Environment) (reservationId : Uuid) :
    ℕ → List ReservationItem → List ReservationItemModel
  | _, [] => []
  | generated, item :: items =>
    itemModel environment reservationId generated item ::
      itemModels environment reservationId (generated + 1) items

/-- These item rows of one reservation can be inserted one after the other. -/
structure Database.Admits (database : Database) (items : List ReservationItemModel) : Prop where
  ids : (items.map ReservationItemModel.id).Nodup
  products : (items.map ReservationItemModel.productId).Nodup
  violation : ∀ item ∈ items, database.itemViolation item = none
  free : ∀ item ∈ items, database.items.find? item.id = none

instance (database : Database) (items : List ReservationItemModel) : Decidable (database.Admits items) :=
  decidable_of_iff (_ ∧ _ ∧ _ ∧ _)
    ⟨fun h => ⟨h.1, h.2.1, h.2.2.1, h.2.2.2⟩, fun h => ⟨h.ids, h.products, h.violation, h.free⟩⟩

structure Database.Storable (database : Database) (reservation : ReservationModel)
    (items : List ReservationItemModel) : Prop where
  reservation : database.reservationViolation reservation = none
  items : database.Admits items

instance (database : Database) (reservation : ReservationModel) (items : List ReservationItemModel) :
    Decidable (database.Storable reservation items) :=
  decidable_of_iff (_ ∧ _) ⟨fun h => ⟨h.1, h.2⟩, fun h => ⟨h.reservation, h.items⟩⟩

section Items
variable {database : Database} {environment : Environment} {reservationId : Uuid}
  {item : ReservationItemModel} {items : List ReservationItemModel} {s : Session}

theorem Database.itemViolation_eq_none_iff :
    database.itemViolation item = none ↔ FitsInteger item.requestedQuantity.units ∧
      (∀ other ∈ database.items.rows,
        ¬ (other.reservationId = item.reservationId ∧ other.productId = item.productId)) ∧
      item.productId ∈ database.products ∧ (database.providers.find? item.providerId).isSome := by
  unfold itemViolation
  rw [ite_some_eq_none_iff, ite_some_eq_none_iff, ite_some_eq_none_iff, ite_some_eq_none_iff, not_not, not_not,
    List.any_eq_true, Option.isNone_iff_eq_none, ← ne_eq, ← Option.isSome_iff_ne_none]
  simp only [decide_eq_true_eq, not_exists, not_and, and_true]

/-- After one row was inserted, the others can be if they could be before it. -/
theorem Database.admits_cons {table : Table ReservationItemModel.id}
    (hviolation : database.itemViolation item = none) (hi : database.items.insert? item = some table)
    (hsame : ∀ other ∈ items, other.reservationId = item.reservationId) :
    database.Admits (item :: items) ↔ ({ database with items := table } : Database).Admits items := by
  obtain ⟨hfree, hrows⟩ := Table.insert?_eq_some_iff.mp hi
  have hfind := Table.find?_insert? hi
  have hviolations : ∀ other ∈ items,
      (({ database with items := table } : Database).itemViolation other = none ↔
        database.itemViolation other = none ∧ other.productId ≠ item.productId) := by
    intro other ho
    rw [itemViolation_eq_none_iff, itemViolation_eq_none_iff]
    dsimp only
    rw [hrows]
    simp only [List.forall_mem_append, List.forall_mem_singleton, hsame other ho, true_and]
    constructor
    · rintro ⟨hfits, ⟨hold, hnew⟩, hknown⟩
      exact ⟨⟨hfits, hold, hknown⟩, fun he => hnew he.symm⟩
    · rintro ⟨⟨hfits, hold, hknown⟩, hne⟩
      exact ⟨hfits, ⟨hold, fun he => hne he.symm⟩, hknown⟩
  constructor
  · intro h
    have hids := List.nodup_cons.mp h.ids
    have hproducts := List.nodup_cons.mp h.products
    refine ⟨hids.2, hproducts.2, fun other ho => ?_, fun other ho => ?_⟩
    · refine (hviolations other ho).mpr ⟨h.violation other (List.mem_cons_of_mem _ ho), fun he => ?_⟩
      exact hproducts.1 (List.mem_map.mpr ⟨other, ho, he⟩)
    · refine (hfind other.id).trans ?_
      rw [if_neg]
      · exact h.free other (List.mem_cons_of_mem _ ho)
      · intro he
        exact hids.1 (List.mem_map.mpr ⟨other, ho, he⟩)
  · intro h
    have hne : ∀ other ∈ items, other.id ≠ item.id ∧ database.items.find? other.id = none := by
      intro other ho
      have hnone : table.find? other.id = none := h.free other ho
      rw [hfind other.id] at hnone
      split at hnone
      · cases hnone
      · next hne => exact ⟨hne, hnone⟩
    constructor
    · refine List.nodup_cons.mpr ⟨fun hmem => ?_, h.ids⟩
      obtain ⟨other, ho, he⟩ := List.mem_map.mp hmem
      exact (hne other ho).1 he
    · refine List.nodup_cons.mpr ⟨fun hmem => ?_, h.products⟩
      obtain ⟨other, ho, he⟩ := List.mem_map.mp hmem
      exact ((hviolations other ho).mp (h.violation other ho)).2 he
    · intro other ho
      rcases List.mem_cons.mp ho with rfl | ho
      · exact hviolation
      · exact ((hviolations other ho).mp (h.violation other ho)).1
    · intro other ho
      rcases List.mem_cons.mp ho with rfl | ho
      · exact hfree
      · exact (hne other ho).2

theorem itemModels_reservationId (generated : ℕ) (items : List ReservationItem) :
    ∀ model ∈ itemModels environment reservationId generated items, model.reservationId = reservationId := by
  induction items generalizing generated with
  | nil =>
    intro model hm
    cases hm
  | cons item items ih =>
    intro model hm
    rcases List.mem_cons.mp hm with rfl | hm
    · rfl
    · exact ih (generated + 1) model hm

theorem insertItem_stored {table : Table ReservationItemModel.id} (item : ReservationItem)
    (hviolation : s.database.itemViolation (itemModel environment reservationId s.generated item) = none)
    (hi : s.database.items.insert? (itemModel environment reservationId s.generated item) = some table) :
    insertItem environment reservationId item s =
      .ok (itemModel environment reservationId s.generated item)
        { s with database := { s.database with items := table }, generated := s.generated + 1 } := by
  rw [insertItem, newId_bind, readDatabase_bind]
  unfold itemModel at hviolation hi
  dsimp only
  rw [hviolation, hi]
  rfl

theorem insertItem_refused (item : ReservationItem)
    (h : s.database.itemViolation (itemModel environment reservationId s.generated item) ≠ none ∨
      s.database.items.insert? (itemModel environment reservationId s.generated item) = none) :
    ∃ failure t, insertItem environment reservationId item s = .error failure t := by
  rw [insertItem, newId_bind, readDatabase_bind]
  unfold itemModel at h
  dsimp only
  cases hv : s.database.itemViolation
      ⟨environment.uuid7 s.generated, reservationId, item.productId, item.providerId, item.quantity⟩ with
  | some failure => exact ⟨failure, _, rfl⟩
  | none =>
    have hi := h.resolve_left fun hne => hne hv
    rw [hi]
    exact ⟨_, _, rfl⟩

variable (environment reservationId) in
/-- The item rows are inserted if they can be, and otherwise the insertion raises. -/
theorem insertItems_admits {generated : ℕ} (items : List ReservationItem) (hgenerated : s.generated = generated) :
    (s.database.Admits (itemModels environment reservationId generated items) →
      ∃ t, insertItems environment reservationId items s =
        .ok (itemModels environment reservationId generated items) t ∧
        t.generated = generated + items.length) ∧
    (¬ s.database.Admits (itemModels environment reservationId generated items) →
      ∃ failure t, insertItems environment reservationId items s = .error failure t) := by
  induction items generalizing s generated with
  | nil =>
    have hnil : s.database.Admits [] := ⟨List.nodup_nil, List.nodup_nil, by simp, by simp⟩
    exact ⟨fun _ => ⟨s, rfl, hgenerated⟩, fun h => absurd hnil h⟩
  | cons item items ih =>
    subst hgenerated
    rw [insertItems, itemModels]
    by_cases hviolation :
        s.database.itemViolation (itemModel environment reservationId s.generated item) = none
    · cases hi : s.database.items.insert? (itemModel environment reservationId s.generated item) with
      | none =>
        obtain ⟨failure, t, ht⟩ := insertItem_refused item (Or.inr hi)
        rw [bind_of_error ht]
        refine ⟨fun h => ?_, fun _ => ⟨failure, t, rfl⟩⟩
        obtain ⟨table, htable⟩ := Table.exists_insert? (h.free _ List.mem_cons_self)
        rw [hi] at htable
        cases htable
      | some table =>
        rw [bind_of_ok (insertItem_stored item hviolation hi)]
        have hsame : ∀ other ∈ itemModels environment reservationId (s.generated + 1) items,
            other.reservationId = (itemModel environment reservationId s.generated item).reservationId :=
          itemModels_reservationId (s.generated + 1) items
        rw [Database.admits_cons hviolation hi hsame]
        obtain ⟨hok, herror⟩ := ih
          (s := { s with database := { s.database with items := table }, generated := s.generated + 1 }) rfl
        constructor
        · intro h
          obtain ⟨t, ht, hgenerated⟩ := hok h
          rw [bind_of_ok ht]
          refine ⟨t, rfl, ?_⟩
          rw [hgenerated, List.length_cons, Nat.add_assoc, Nat.add_comm 1]
        · intro h
          obtain ⟨failure, t, ht⟩ := herror h
          rw [bind_of_error ht]
          exact ⟨failure, t, rfl⟩
    · obtain ⟨failure, t, ht⟩ := insertItem_refused item (Or.inl hviolation)
      rw [bind_of_error ht]
      exact ⟨fun h => absurd (h.violation _ List.mem_cons_self) hviolation, fun _ => ⟨failure, t, rfl⟩⟩

end Items

/-! ## Storing a reservation -/

/-- A row that violates nothing has an identifier of its own. -/
theorem Database.reservation_free {database : Database} {reservation : ReservationModel}
    (h : database.reservationViolation reservation = none) :
    database.reservations.find? reservation.id = none := by
  cases hf : database.reservations.find? reservation.id with
  | none => rfl
  | some other =>
    unfold reservationViolation at h
    rw [hf, if_pos (Option.isSome_some : (some other).isSome = true)] at h
    repeat' split at h
    all_goals cases h

/-- The reservation is stored if it can be, and otherwise storing it raises. -/
theorem addReservation_storable (environment : Environment) (reservation : Reservation) {s : Session}
    (hgenerated : s.generated = 0) :
    (s.database.Storable (toModel environment reservation)
        (itemModels environment reservation.id 0 reservation.items) →
      ∃ t, addReservation environment reservation s =
        .ok (itemModels environment reservation.id 0 reservation.items) t ∧
        t.generated = reservation.items.length) ∧
    (¬ s.database.Storable (toModel environment reservation)
        (itemModels environment reservation.id 0 reservation.items) →
      ∃ failure t, addReservation environment reservation s = .error failure t) := by
  rw [addReservation]
  cases hv : s.database.reservationViolation (toModel environment reservation) with
  | some failure =>
    have hinsert : insertReservation (toModel environment reservation) s = .error failure s := by
      rw [insertReservation, readDatabase_bind, hv]
      rfl
    rw [bind_of_error hinsert]
    refine ⟨fun h => ?_, fun _ => ⟨failure, s, rfl⟩⟩
    have hnone := h.reservation
    rw [hv] at hnone
    cases hnone
  | none =>
    obtain ⟨reservations, hi⟩ := Table.exists_insert? (Database.reservation_free hv)
    have hinsert : insertReservation (toModel environment reservation) s =
        .ok () { s with database := { s.database with reservations } } := by
      rw [insertReservation, readDatabase_bind, hv, hi]
      rfl
    rw [bind_of_ok hinsert]
    obtain ⟨hok, herror⟩ := insertItems_admits environment reservation.id reservation.items
      (s := { s with database := { s.database with reservations } }) hgenerated
    have hiff : ({ s.database with reservations } : Database).Admits
          (itemModels environment reservation.id 0 reservation.items) ↔
        s.database.Storable (toModel environment reservation)
          (itemModels environment reservation.id 0 reservation.items) :=
      ⟨fun h => ⟨hv, ⟨h.ids, h.products, h.violation, h.free⟩⟩,
        fun h => ⟨h.items.ids, h.items.products, h.items.violation, h.items.free⟩⟩
    rw [← hiff]
    refine ⟨fun h => ?_, herror⟩
    obtain ⟨t, ht, hgenerated⟩ := hok h
    exact ⟨t, ht, hgenerated.trans (Nat.zero_add _)⟩

end InventoryReservation
