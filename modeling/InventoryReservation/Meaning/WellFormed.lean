import InventoryReservation.Meaning.Refinement
import InventoryReservation.System.Execution

/-! # Well-formed databases

The references between the tables that hold in every state: foreign keys, the owner of a provider
operation, and one reservation for each request key. A walk over a stored reservation keeps them.
-/

namespace InventoryReservation
set_option autoImplicit false

open Relational

structure Database.WellFormed (database : Database) : Prop where
  itemReservation : ∀ item ∈ database.items,
    (database.reservations.find? item.reservationId).isSome
  allocationItem : ∀ allocation ∈ database.allocations,
    (database.items.find? allocation.reservationItemId).isSome
  allocationProvider : ∀ allocation ∈ database.allocations,
    (database.providers.find? allocation.providerId).isSome
  operationOwner : ∀ operation ∈ database.operations, ∃ (kind : SettlementKind) (r : Uuid),
    operation.idempotencyKey = kind.key r operation.allocationId ∧
      operation.operation = kind.operationType ∧
      ∃ row ∈ database.allocationRows r, row.allocation.id = operation.allocationId
  orderReservation : ∀ r, (database.orders.find? r).isSome → (database.reservations.find? r).isSome
  uniqueRequest : ∀ a ∈ database.reservations, ∀ b ∈ database.reservations,
    a.userId = b.userId → a.idempotencyKey = b.idempotencyKey → a = b

namespace Database.WellFormed
variable {database : Database}

/-- An operation found under a key is of the key's kind and allocation. -/
theorem operation_of_key (h : database.WellFormed) {kind : SettlementKind} {r a : Uuid}
    {operation : ProviderOperationModel} (ho : database.operations.find? (kind.key r a) = some operation) :
    operation.operation = kind.operationType ∧ operation.allocationId = a ∧
      ∃ row ∈ database.allocationRows r, row.allocation.id = a := by
  obtain ⟨kind', r', hkey, htype, row, hrow, hid⟩ := h.operationOwner operation (Table.mem_of_find? ho)
  obtain ⟨rfl, rfl, ha⟩ := SettlementKind.key_inj.mp ((Table.key_of_find? ho).symm.trans hkey)
  exact ⟨htype, ha.symm, row, hrow, hid.trans ha.symm⟩

/-- An operation of an allocation is stored, of its kind, and leads to the reservation. -/
theorem operation_of_view (h : database.WellFormed) {r : Uuid} {aggregate : Aggregate}
    (ha : database.aggregate? r = some aggregate) {view : AllocationView} (hv : view ∈ aggregate.allocations)
    {kind : SettlementKind} {operation : ProviderOperationModel} (ho : view.operation kind = some operation) :
    operation ∈ database.operations ∧ operation.operation = kind.operationType ∧
      database.operationReservation operation = some r := by
  rw [(aggregate?_eq_some_iff.mp ha).2.2.1] at hv
  obtain ⟨row, hrow, rfl⟩ := List.mem_map.mp hv
  obtain ⟨htype, hid, -⟩ := h.operation_of_key ho
  refine ⟨Table.mem_of_find? ho, htype, ?_⟩
  obtain ⟨hmem, hj⟩ := mem_allocationRows.mp hrow
  obtain ⟨item, provider, hi, -, hr, -⟩ := joinAllocation_eq_some_iff.mp hj
  have hallocation : database.allocations.find? operation.allocationId = some row.allocation := by
    rw [hid]
    exact Table.find?_of_mem hmem
  unfold operationReservation
  rw [hallocation]
  simp only [Option.bind_eq_bind, Option.bind_some, hi, Option.pure_def, hr]

/-- Every stored operation is one of an allocation of a stored reservation. -/
theorem view_of_operation (h : database.WellFormed) {key : ProviderKey}
    {operation : ProviderOperationModel} (ho : database.operations.find? key = some operation) :
    ∃ (kind : SettlementKind) (r : Uuid) (aggregate : Aggregate) (view : AllocationView),
      database.aggregate? r = some aggregate ∧ view ∈ aggregate.allocations ∧
        view.allocation.id = operation.allocationId ∧ key = kind.key r view.allocation.id ∧
        view.operation kind = some operation ∧ operation.operation = kind.operationType := by
  obtain ⟨kind, r, hkey, htype, row, hrow, hid⟩ := h.operationOwner operation (Table.mem_of_find? ho)
  obtain ⟨hmem, hj⟩ := mem_allocationRows.mp hrow
  obtain ⟨item, -, hi, -, hr, -⟩ := joinAllocation_eq_some_iff.mp hj
  obtain ⟨reservation, hf⟩ := Option.isSome_iff_exists.mp (h.itemReservation item (Table.mem_of_find? hi))
  rw [hr] at hf
  have hk : key = kind.key r row.allocation.id := by
    rw [hid, ← hkey]
    exact (Table.key_of_find? ho).symm
  refine ⟨kind, r, ⟨reservation, _, _, _⟩, database.view r row,
    aggregate?_eq_some_iff.mpr ⟨hf, rfl, rfl, rfl⟩, List.mem_map_of_mem hrow, hid, hk, ?_, htype⟩
  rw [hk] at ho
  exact ho

/-- An allocation that is not there has no operations. -/
theorem no_operation (h : database.WellFormed) {a : Uuid} (ha : database.allocations.find? a = none)
    (kind : SettlementKind) (r : Uuid) : database.operations.find? (kind.key r a) = none := by
  cases ho : database.operations.find? (kind.key r a) with
  | none => rfl
  | some operation =>
    obtain ⟨-, -, row, hrow, hid⟩ := h.operation_of_key ho
    exact absurd hid (Table.find?_eq_none_iff.mp ha _ (Database.mem_allocationRows.mp hrow).1)

/-- Every allocation of an item is seen by the reservation of the item. -/
theorem joined (h : database.WellFormed) {allocation : InventoryAllocationModel}
    (ha : allocation ∈ database.allocations) :
    ∃ item provider, database.items.find? allocation.reservationItemId = some item ∧
      database.providers.find? allocation.providerId = some provider ∧
      (⟨allocation, item.productId, provider⟩ : AllocationRow) ∈
        database.allocationRows item.reservationId := by
  obtain ⟨item, hi⟩ := Option.isSome_iff_exists.mp (h.allocationItem allocation ha)
  obtain ⟨provider, hp⟩ := Option.isSome_iff_exists.mp (h.allocationProvider allocation ha)
  refine ⟨item, provider, hi, hp, Database.mem_allocationRows.mpr ⟨ha, ?_⟩⟩
  exact Database.joinAllocation_eq_some_iff.mpr ⟨item, provider, hi, hp, rfl, rfl⟩

/-- Only these tables matter. -/
theorem of_tables {database' : Database} (h : database.WellFormed)
    (hproviders : database'.providers = database.providers)
    (hreservations : database'.reservations = database.reservations)
    (hitems : database'.items = database.items)
    (hallocations : database'.allocations = database.allocations)
    (hoperations : database'.operations = database.operations)
    (horders : database'.orders = database.orders) : database'.WellFormed where
  itemReservation item hi := by
    rw [hitems] at hi
    rw [hreservations]
    exact h.itemReservation item hi
  allocationItem allocation ha := by
    rw [hallocations] at ha
    rw [hitems]
    exact h.allocationItem allocation ha
  allocationProvider allocation ha := by
    rw [hallocations] at ha
    rw [hproviders]
    exact h.allocationProvider allocation ha
  operationOwner operation ho := by
    rw [hoperations] at ho
    have hrows : ∀ r, database'.allocationRows r = database.allocationRows r := by
      intro r
      unfold allocationRows joinAllocation
      rw [hallocations, hitems, hproviders]
    simp only [hrows]
    exact h.operationOwner operation ho
  orderReservation r hr := by
    rw [horders] at hr
    rw [hreservations]
    exact h.orderReservation r hr
  uniqueRequest a ha b hb := by
    rw [hreservations] at ha hb
    exact h.uniqueRequest a ha b hb

theorem of_initial (h : database.Initial) : database.WellFormed where
  itemReservation item hi := by
    rw [h.items] at hi
    exact absurd hi (Table.not_mem_empty _)
  allocationItem allocation ha := by
    rw [h.allocations] at ha
    exact absurd ha (Table.not_mem_empty _)
  allocationProvider allocation ha := by
    rw [h.allocations] at ha
    exact absurd ha (Table.not_mem_empty _)
  operationOwner operation ho := by
    rw [h.operations] at ho
    exact absurd ho (Table.not_mem_empty _)
  orderReservation r hr := by
    rw [h.orders] at hr
    cases hr
  uniqueRequest a ha := by
    rw [h.reservations] at ha
    exact absurd ha (Table.not_mem_empty _)

end Database.WellFormed

/-- What an operation a walk wrote is about. -/
theorem Settlement.recorded_owner {ω : Type} [DecidableEq ω] {S : Settlement ω} {environment : Environment}
    {context : ProviderOperationContext} {database : Database} {row : AllocationRow} (hS : S.Lawful)
    (hwf : database.WellFormed) {operation : ProviderOperationModel}
    (ho : operation = S.recorded environment context (database.view context.reservationId row)) :
    operation.operation = S.kind.operationType ∧ operation.allocationId = row.allocation.id := by
  rw [ho, Settlement.recorded_operation, Settlement.recorded_allocationId]
  unfold Settlement.inProgress
  cases hv : (database.view context.reservationId row).operation S.kind with
  | none => exact ⟨hS.operationType, rfl⟩
  | some previous =>
    obtain ⟨htype, ha, -⟩ := hwf.operation_of_key hv
    exact ⟨htype, ha⟩

namespace WalkEffect
variable {ω : Type} [DecidableEq ω] {S : Settlement ω} {environment : Environment}
  {context : ProviderOperationContext} {write : ReservationModel → ReservationModel} {s t : Session}

theorem isSome_findReservation (h : WalkEffect S environment context write s t) (r : Uuid) :
    (t.database.reservations.find? r).isSome = (s.database.reservations.find? r).isSome := by
  rw [h.findReservation, Option.isSome_map]

theorem wellFormed (hS : S.Lawful) (hwf : s.database.WellFormed)
    (hstored : (s.database.reservations.find? context.reservationId).isSome)
    (h : WalkEffect S environment context write s t) : t.database.WellFormed := by
  obtain ⟨rows, hrows, hpass⟩ := h.walk
  constructor
  · intro item hi
    rw [hpass.items] at hi
    rw [h.isSome_findReservation]
    exact hwf.itemReservation item hi
  · intro allocation ha
    rw [hpass.allocations, Table.mem_mapRows] at ha
    obtain ⟨allocation', ha', rfl⟩ := ha
    rw [hpass.items, Settlement.relabel_reservationItemId]
    exact hwf.allocationItem allocation' ha'
  · intro allocation ha
    rw [hpass.allocations, Table.mem_mapRows] at ha
    obtain ⟨allocation', ha', rfl⟩ := ha
    rw [hpass.providers, Settlement.relabel_providerId]
    exact hwf.allocationProvider allocation' ha'
  · intro operation ho
    have hmoved : ∀ r, ∀ row ∈ s.database.allocationRows r,
        ∃ row' ∈ t.database.allocationRows r, row'.allocation.id = row.allocation.id := by
      intro r row hrow
      rw [hpass.allocationRows]
      exact ⟨_, List.mem_map_of_mem hrow, Settlement.relabel_id _ _ _⟩
    have hfound := Table.find?_of_mem ho
    by_cases hnew : ∃ row ∈ rows, S.asks context (s.database.view context.reservationId row) ∧
        operation.idempotencyKey = S.kind.key context.reservationId row.allocation.id
    · obtain ⟨row, hrow, ha, hkey⟩ := hnew
      have hmem := hrows.mem_iff.mp hrow
      rw [hkey, hpass.recorded row hrow ha] at hfound
      obtain ⟨htype, hid⟩ := Settlement.recorded_owner hS hwf (Option.some.inj hfound).symm
      obtain ⟨row', hrow', hid'⟩ := hmoved _ row hmem
      exact ⟨S.kind, context.reservationId, by rw [hid]; exact hkey, htype, row', hrow', hid'.trans hid.symm⟩
    · have hold : t.database.operations.find? operation.idempotencyKey =
          s.database.operations.find? operation.idempotencyKey := by
        apply hpass.operations
        intro row hrow ha hkey
        exact hnew ⟨row, hrow, ha, hkey⟩
      rw [hold] at hfound
      obtain ⟨kind, r, hkey, htype, row, hrow, hid⟩ :=
        hwf.operationOwner operation (Table.mem_of_find? hfound)
      obtain ⟨row', hrow', hid'⟩ := hmoved r row hrow
      exact ⟨kind, r, hkey, htype, row', hrow', hid'.trans hid⟩
  · intro r hr
    rw [h.isSome_findReservation]
    by_cases hne : r = context.reservationId
    · rw [hne]
      exact hstored
    · rw [h.orders r hne] at hr
      exact hwf.orderReservation r hr
  · intro a ha b hb huser hkey
    rw [← Table.mem_rows, h.reservations, List.mem_map] at ha hb
    obtain ⟨a', ha', rfl⟩ := ha
    obtain ⟨b', hb', rfl⟩ := hb
    have hsame : ∀ reservation : ReservationModel, reservation.SameRequest
        (if reservation.id = context.reservationId then write reservation else reservation) := by
      intro reservation
      split
      · exact h.request reservation
      · exact .refl reservation
    rw [(hsame a').userId, (hsame b').userId] at huser
    rw [(hsame a').idempotencyKey, (hsame b').idempotencyKey] at hkey
    rw [hwf.uniqueRequest a' ha' b' hb' huser hkey]

end WalkEffect
end InventoryReservation
