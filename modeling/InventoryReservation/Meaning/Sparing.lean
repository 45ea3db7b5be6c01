import InventoryReservation.Meaning.Creation
import InventoryReservation.Meaning.Orders
import InventoryReservation.Meaning.Stock

/-! # Rows of other reservations

Two versions of the database that differ in the rows of one reservation only, stock apart.
-/

namespace InventoryReservation
set_option autoImplicit false

open Relational Transactional

/-- The reservation an allocation belongs to, through its item. -/
def Database.ownerOf (database : Database) (allocation : InventoryAllocationModel) : Option Uuid :=
  (database.items.find? allocation.reservationItemId).map ReservationItemModel.reservationId

/-- The reservation a key is made for. -/
def ProviderKey.reservationId : ProviderKey → Uuid
  | hold reservationId _ _ => reservationId
  | confirm reservationId _ => reservationId
  | release reservationId _ => reservationId

@[simp] theorem SettlementKind.key_reservationId (kind : SettlementKind) (reservationId allocationId : Uuid) :
    (kind.key reservationId allocationId).reservationId = reservationId := by
  cases kind <;> rfl

structure SparesOthers (reservationId : Uuid) (s t : Database) : Prop where
  reservations : ∀ r, r ≠ reservationId → t.reservations.find? r = s.reservations.find? r
  items : ∀ item : ReservationItemModel, item.reservationId ≠ reservationId → (item ∈ t.items ↔ item ∈ s.items)
  kept : ∀ allocation ∈ s.allocations, s.ownerOf allocation ≠ some reservationId → allocation ∈ t.allocations
  added : ∀ allocation ∈ t.allocations, t.ownerOf allocation ≠ some reservationId → allocation ∈ s.allocations
  operations : ∀ key : ProviderKey, key.reservationId ≠ reservationId →
    t.operations.find? key = s.operations.find? key
  orders : ∀ r, r ≠ reservationId → t.orders.find? r = s.orders.find? r
  lines : ∃ lines, t.orderItems.rows = s.orderItems.rows ++ lines ∧
    ∀ line ∈ lines, ∃ order ∈ t.orders.find? reservationId, line.orderId = order.id

/-! ## Walks -/

section Walks
variable {ω : Type} [DecidableEq ω] {S : Settlement ω} {environment : Environment}
  {context : ProviderOperationContext} {rows : List AllocationRow} {s t : Session}

omit [DecidableEq ω] in
theorem Settlement.relabel_of_foreign {database : Database} {r : Uuid}
    (hrows : rows.Perm (database.allocationRows r)) {allocation : InventoryAllocationModel}
    (ha : allocation ∈ database.allocations) (howner : database.ownerOf allocation ≠ some r) :
    S.relabel environment context database rows allocation = allocation := by
  refine Settlement.relabel_of_none hrows ha ?_
  cases hj : database.joinAllocation r allocation with
  | none => rfl
  | some row =>
    obtain ⟨item, provider, hi, -, hr, -⟩ := Database.joinAllocation_eq_some_iff.mp hj
    have howned : database.ownerOf allocation = some r := by
      unfold Database.ownerOf
      rw [hi, Option.map_some, hr]
    exact absurd howned howner

/-- A walk writes rows of its own reservation, if the orders written after it do. -/
theorem WalkEffect.sparesOthers {write : ReservationModel → ReservationModel}
    (h : WalkEffect S environment context write s t)
    (hlines : ∃ lines, t.database.orderItems.rows = s.database.orderItems.rows ++ lines ∧
      ∀ line ∈ lines, ∃ order ∈ t.database.orders.find? context.reservationId, line.orderId = order.id) :
    SparesOthers context.reservationId s.database t.database := by
  obtain ⟨rows, hrows, hpass⟩ := h.walk
  have howner : ∀ allocation, t.database.ownerOf (S.relabel environment context s.database rows allocation) =
      s.database.ownerOf allocation := by
    intro allocation
    unfold Database.ownerOf
    rw [hpass.items, Settlement.relabel_reservationItemId]
  constructor
  · intro r hne
    rw [h.findReservation]
    simp [hne]
  · intro item _
    rw [hpass.items]
  · intro allocation ha hforeign
    rw [hpass.allocations]
    exact Table.mem_mapRows.mpr ⟨allocation, ha, Settlement.relabel_of_foreign hrows ha hforeign⟩
  · intro allocation ha hforeign
    rw [hpass.allocations] at ha
    obtain ⟨before, hb, rfl⟩ := Table.mem_mapRows.mp ha
    rw [howner] at hforeign
    rw [Settlement.relabel_of_foreign hrows hb hforeign]
    exact hb
  · intro key hkey
    apply hpass.operations
    rintro row - - rfl
    exact hkey (SettlementKind.key_reservationId _ _ _)
  · exact h.orders
  · exact hlines

/-- The lines an order is written with are its own. -/
theorem ensureOrder_lines {reservation : ReservationModel} {u : Unit}
    (h : ensureOrder environment reservation s = .ok u t) :
    ∃ lines, t.database.orderItems.rows = s.database.orderItems.rows ++ lines ∧
      ∀ line ∈ lines, ∃ order ∈ t.database.orders.find? reservation.id, line.orderId = order.id := by
  cases ensureOrder_cases h with
  | existing => exact ⟨[], (List.append_nil _).symm, fun line hl => absurd hl List.not_mem_nil⟩
  | placed order horder orders orderItems hnone hfresh hinsert hlines =>
    subst horder
    refine ⟨_, hlines, fun line hl => ?_⟩
    obtain ⟨item, -, rfl⟩ := List.mem_map.mp hl
    exact ⟨⟨environment.uuid7 s.generated, reservation.id, reservation.userId⟩,
      (Table.find?_insert? hinsert _).trans (if_pos rfl), rfl⟩

theorem concludeConfirmation_lines {reservation : ReservationModel} {flags : PassFlags} {u : Unit}
    (h : concludeConfirmation environment reservation flags s = .ok u t) :
    ∃ lines, t.database.orderItems.rows = s.database.orderItems.rows ++ lines ∧
      ∀ line ∈ lines, ∃ order ∈ t.database.orders.find? reservation.id, line.orderId = order.id := by
  have hnone : ∃ lines, s.database.orderItems.rows = s.database.orderItems.rows ++ lines ∧
      ∀ line ∈ lines, ∃ order ∈ t.database.orders.find? reservation.id, line.orderId = order.id :=
    ⟨[], (List.append_nil _).symm, fun line hl => absurd hl List.not_mem_nil⟩
  unfold concludeConfirmation at h
  split at h
  · cases h
    exact hnone
  · split at h
    · cases h
      exact hnone
    · rw [writeReservation_bind] at h
      have hlines := ensureOrder_lines h
      exact hlines

theorem confirmReservation_lines {reservation : ReservationModel} {result : Option Reservation}
    (h : confirmReservation environment reservation context s = .ok result t) :
    ∃ lines, t.database.orderItems.rows = s.database.orderItems.rows ++ lines ∧
      ∀ line ∈ lines, ∃ order ∈ t.database.orders.find? reservation.id, line.orderId = order.id := by
  rw [confirmReservation, readDatabase_bind, bind_ok_iff] at h
  obtain ⟨flags, v, hv, h⟩ := h
  obtain ⟨_, w, hw, h⟩ := bind_ok_iff.mp h
  have hnodup := s.database.scanAllocations_nodup environment reservation.id
  obtain ⟨-, -, hbooks⟩ := Settlement.settleAllocations_ok confirmation_lawful hnodup hv
  have hlines := concludeConfirmation_lines hw
  cases getReservation_ok h
  rwa [hbooks.orderItems] at hlines

end Walks

/-! ## Creations -/

section Creations
variable {environment : Environment} {reservation : Reservation} {models done : List ReservationItemModel}
  {s t u : Session} {r : Uuid}

/-- A later version with the same items and orders. -/
theorem SparesOthers.trans {s t u : Database} (hwf : s.WellFormed) (h : SparesOthers r s t)
    (h' : SparesOthers r t u) (hitems : u.items = t.items) (horders : u.orders = t.orders) :
    SparesOthers r s u := by
  have howner : ∀ allocation, u.ownerOf allocation = t.ownerOf allocation := by
    intro allocation
    unfold Database.ownerOf
    rw [hitems]
  constructor
  · exact fun r' hne => (h'.reservations r' hne).trans (h.reservations r' hne)
  · exact fun item hne => (h'.items item hne).trans (h.items item hne)
  · intro allocation ha hforeign
    refine h'.kept allocation (h.kept allocation ha hforeign) ?_
    obtain ⟨item, hi⟩ := Option.isSome_iff_exists.mp (hwf.allocationItem allocation ha)
    have hs : s.ownerOf allocation = some item.reservationId := by
      unfold Database.ownerOf
      rw [hi]
      rfl
    have hne : item.reservationId ≠ r := fun he => hforeign (hs.trans (congrArg some he))
    have hmem := (h.items item hne).mpr (Table.mem_of_find? hi)
    have ht : t.ownerOf allocation = some item.reservationId := by
      unfold Database.ownerOf
      rw [← Table.key_of_find? hi, Table.find?_of_mem hmem]
      rfl
    rw [ht, ← hs]
    exact hforeign
  · intro allocation ha hforeign
    rw [howner] at hforeign
    exact h.added allocation (h'.added allocation ha (by rwa [howner])) hforeign
  · exact fun key hne => (h'.operations key hne).trans (h.operations key hne)
  · exact fun r' hne => (h'.orders r' hne).trans (h.orders r' hne)
  · obtain ⟨lines, hrows, hlines⟩ := h.lines
    obtain ⟨lines', hrows', hlines'⟩ := h'.lines
    refine ⟨lines ++ lines', by rw [hrows', hrows, List.append_assoc], ?_⟩
    intro line hl
    rcases List.mem_append.mp hl with hl | hl
    · rw [horders]
      exact hlines line hl
    · exact hlines' line hl

/-- Storing a reservation adds rows of its own. -/
theorem Stored.sparesOthers (h : Stored environment reservation models s t) :
    SparesOthers reservation.id s.database t.database := by
  constructor
  · intro r hne
    rw [h.findReservation, if_neg hne]
  · intro item hne
    rw [Table.mem_of_append h.items item]
    exact ⟨fun hi => hi.resolve_right fun hm => hne (h.owner item hm), Or.inl⟩
  · intro allocation ha _
    rw [h.allocations]
    exact ha
  · intro allocation ha _
    rw [h.allocations] at ha
    exact ha
  · intro key _
    rw [h.tables]
  · intro r _
    rw [h.tables]
  · refine ⟨[], ?_, fun line hl => absurd hl List.not_mem_nil⟩
    rw [h.tables, List.append_nil]

/-- Holding items adds allocations of their reservation. -/
theorem HoldPhase.sparesOthers (h : HoldPhase done s u)
    (hdone : ∀ item ∈ done, item ∈ s.database.items ∧ item.reservationId = r) :
    SparesOthers r s.database u.database := by
  obtain ⟨news, hrows, hmap, -⟩ := h.allocated
  constructor
  · intro r' _
    rw [h.reservations]
  · intro item _
    rw [h.items]
  · intro allocation ha _
    exact (Table.mem_of_append hrows allocation).mpr (Or.inl ha)
  · intro allocation ha hforeign
    refine ((Table.mem_of_append hrows allocation).mp ha).resolve_right fun hnew => hforeign ?_
    obtain ⟨item, hi, hid⟩ := heldItem hmap hnew
    unfold Database.ownerOf
    rw [h.items, ← hid, Table.find?_of_mem (hdone item hi).1]
    exact congrArg some (hdone item hi).2
  · intro key _
    rw [h.operations]
  · intro r' _
    rw [h.orders]
  · refine ⟨[], ?_, fun line hl => absurd hl List.not_mem_nil⟩
    rw [h.tables, List.append_nil]

end Creations
end InventoryReservation
