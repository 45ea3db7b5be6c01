import InventoryReservation.Meaning.Settlement

/-! # From the database to aggregates

`Database.aggregate?` reads a reservation with all that belongs to it out of the tables. A walk of the
repository over one reservation is, on aggregates, the abstract walk of that reservation
(`releaseReservation_ok`, `confirmReservation_ok`) and leaves every other reservation as it is.
-/

namespace InventoryReservation
set_option autoImplicit false

open Relational Transactional

def Database.allocationViews (database : Database) (reservationId : Uuid) : List AllocationView :=
  (database.allocationRows reservationId).map (database.view reservationId)

def Database.aggregate? (database : Database) (reservationId : Uuid) : Option Aggregate :=
  (database.reservations.find? reservationId).map fun reservation =>
    { reservation
      items := database.itemsOf reservationId
      allocations := database.allocationViews reservationId
      order := database.orders.find? reservationId }

theorem Database.aggregate?_eq_some_iff {database : Database} {reservationId : Uuid}
    {aggregate : Aggregate} :
    database.aggregate? reservationId = some aggregate ↔
      database.reservations.find? reservationId = some aggregate.reservation ∧
        aggregate.items = database.itemsOf reservationId ∧
        aggregate.allocations = database.allocationViews reservationId ∧
        aggregate.order = database.orders.find? reservationId := by
  unfold aggregate?
  rw [Option.map_eq_some_iff]
  constructor
  · rintro ⟨reservation, hf, rfl⟩
    exact ⟨hf, rfl, rfl, rfl⟩
  · rintro ⟨hf, hitems, hallocations, horder⟩
    refine ⟨aggregate.reservation, hf, ?_⟩
    rw [← hitems, ← hallocations, ← horder]

theorem Database.aggregate?_reservation (database : Database) (reservationId : Uuid) :
    (database.aggregate? reservationId).map Aggregate.reservation =
      database.reservations.find? reservationId := by
  rw [aggregate?, Option.map_map]
  exact Option.map_id'

theorem Database.view_mem {database : Database} {reservationId : Uuid} {aggregate : Aggregate}
    (h : database.aggregate? reservationId = some aggregate) {row : AllocationRow}
    (hrow : row ∈ database.allocationRows reservationId) :
    database.view reservationId row ∈ aggregate.allocations := by
  rw [(aggregate?_eq_some_iff.mp h).2.2.1]
  exact List.mem_map_of_mem hrow

/-- The operations of an allocation are those stored under its keys. -/
theorem Database.view_operation {database : Database} {reservationId : Uuid} {aggregate : Aggregate}
    (h : database.aggregate? reservationId = some aggregate) {view : AllocationView}
    (hv : view ∈ aggregate.allocations) (kind : SettlementKind) :
    view.operation kind = database.operations.find? (kind.key reservationId view.allocation.id) := by
  rw [(aggregate?_eq_some_iff.mp h).2.2.1] at hv
  obtain ⟨row, -, rfl⟩ := List.mem_map.mp hv
  rfl

/-! ## Joined rows -/

theorem Database.joinAllocation_eq_some_iff {database : Database} {reservationId : Uuid}
    {allocation : InventoryAllocationModel} {row : AllocationRow} :
    database.joinAllocation reservationId allocation = some row ↔
      ∃ item provider, database.items.find? allocation.reservationItemId = some item ∧
        database.providers.find? allocation.providerId = some provider ∧
        item.reservationId = reservationId ∧ row = ⟨allocation, item.productId, provider⟩ := by
  unfold joinAllocation
  split
  · next item provider hi hp =>
    constructor
    · intro h
      obtain ⟨hr, ⟨⟩⟩ := Option.ite_none_right_eq_some.mp h
      exact ⟨item, provider, hi, hp, hr, rfl⟩
    · rintro ⟨item', provider', hi', hp', hr, rfl⟩
      cases hi.symm.trans hi'
      cases hp.symm.trans hp'
      rw [if_pos hr]
  · next hne =>
    constructor
    · intro h
      cases h
    · rintro ⟨item', provider', hi', hp', -, -⟩
      exact absurd hp' (hne item' provider' hi')

theorem Database.joinAllocation_allocation {database : Database} {reservationId : Uuid}
    {allocation : InventoryAllocationModel} {row : AllocationRow}
    (h : database.joinAllocation reservationId allocation = some row) : row.allocation = allocation := by
  obtain ⟨item, provider, -, -, -, rfl⟩ := joinAllocation_eq_some_iff.mp h
  rfl

theorem Database.mem_allocationRows {database : Database} {reservationId : Uuid} {row : AllocationRow} :
    row ∈ database.allocationRows reservationId ↔
      row.allocation ∈ database.allocations ∧
        database.joinAllocation reservationId row.allocation = some row := by
  unfold allocationRows
  rw [List.mem_filterMap]
  constructor
  · rintro ⟨allocation, ha, h⟩
    rw [joinAllocation_allocation h]
    exact ⟨ha, h⟩
  · rintro ⟨ha, h⟩
    exact ⟨row.allocation, ha, h⟩

theorem Database.mem_allocations_of_view {database : Database} {reservationId : Uuid}
    {aggregate : Aggregate} (ha : database.aggregate? reservationId = some aggregate)
    {view : AllocationView} (hv : view ∈ aggregate.allocations) :
    view.allocation ∈ database.allocations := by
  rw [(aggregate?_eq_some_iff.mp ha).2.2.1] at hv
  obtain ⟨row, hrow, rfl⟩ := List.mem_map.mp hv
  exact (mem_allocationRows.mp hrow).1

/-- An allocation is joined at most once, and to one reservation. -/
theorem Database.eq_of_allocation_id {database : Database} {r r' : Uuid} {row row' : AllocationRow}
    (h : row ∈ database.allocationRows r) (h' : row' ∈ database.allocationRows r')
    (hid : row.allocation.id = row'.allocation.id) : r = r' ∧ row = row' := by
  obtain ⟨ha, hj⟩ := mem_allocationRows.mp h
  obtain ⟨ha', hj'⟩ := mem_allocationRows.mp h'
  have he : row.allocation = row'.allocation := Table.eq_of_key_eq ha ha' hid
  rw [← he] at hj'
  obtain ⟨item, provider, hi, hp, rfl, hrow⟩ := joinAllocation_eq_some_iff.mp hj
  obtain ⟨item', provider', hi', hp', rfl, hrow'⟩ := joinAllocation_eq_some_iff.mp hj'
  cases hi.symm.trans hi'
  cases hp.symm.trans hp'
  exact ⟨rfl, hrow.trans hrow'.symm⟩

theorem Database.allocationRows_nodup (database : Database) (reservationId : Uuid) :
    ((database.allocationRows reservationId).map fun row => row.allocation.id).Nodup := by
  refine Table.nodup_filterMap ?_ database.allocations.nodup
  intro allocation row hj
  rw [joinAllocation_allocation hj]

/-- Rewriting allocations without touching what they refer to rewrites the joined rows. -/
theorem Database.allocationRows_of_mapRows {database database' : Database}
    {f : InventoryAllocationModel → InventoryAllocationModel} {hf : ∀ a, (f a).id = a.id}
    (hitems : database'.items = database.items) (hproviders : database'.providers = database.providers)
    (hallocations : database'.allocations = database.allocations.mapRows f hf)
    (hitem : ∀ a, (f a).reservationItemId = a.reservationItemId)
    (hprovider : ∀ a, (f a).providerId = a.providerId) (reservationId : Uuid) :
    database'.allocationRows reservationId =
      (database.allocationRows reservationId).map fun row =>
        { row with allocation := f row.allocation } := by
  unfold allocationRows
  rw [hallocations, Table.mapRows_rows, List.filterMap_map, List.map_filterMap]
  apply List.filterMap_congr
  intro allocation _
  unfold joinAllocation
  rw [Function.comp_apply, hitem, hprovider, hitems, hproviders]
  cases database.items.find? allocation.reservationItemId with
  | none => rfl
  | some item =>
    cases database.providers.find? allocation.providerId with
    | none => rfl
    | some provider =>
      dsimp only
      split <;> rfl

theorem Database.scanAllocations_perm (database : Database) (environment : Environment)
    (reservationId : Uuid) :
    (database.scanAllocations environment reservationId).Perm (database.allocationRows reservationId) :=
  List.perm_insertionSort _ _

theorem Database.scanAllocations_nodup (database : Database) (environment : Environment)
    (reservationId : Uuid) :
    ((database.scanAllocations environment reservationId).map fun row => row.allocation.id).Nodup :=
  ((database.scanAllocations_perm environment reservationId).map _).nodup_iff.mpr
    (database.allocationRows_nodup reservationId)

/-! ## Walks on aggregates -/

namespace Settlement
variable {ω : Type} [DecidableEq ω] {S : Settlement ω} {environment : Environment}
  {context : ProviderOperationContext} {rows : List AllocationRow} {s t : Session}

omit [DecidableEq ω] in
theorem relabel_reservationItemId (database : Database) (allocation : InventoryAllocationModel) :
    (S.relabel environment context database rows allocation).reservationItemId =
      allocation.reservationItemId := by
  unfold relabel
  split <;> rfl

omit [DecidableEq ω] in
theorem relabel_providerId (database : Database) (allocation : InventoryAllocationModel) :
    (S.relabel environment context database rows allocation).providerId = allocation.providerId := by
  unfold relabel
  split <;> rfl

omit [DecidableEq ω] in
theorem relabel_of_mem {database : Database} {r : Uuid} {row : AllocationRow}
    (hrows : rows.Perm (database.allocationRows r)) (h : row ∈ database.allocationRows r) :
    S.relabel environment context database rows row.allocation =
      { row.allocation with
        status := S.allocationStatus
          (S.outcome environment context (database.view context.reservationId row)) } := by
  unfold relabel
  cases hf : rows.find? (fun row' => row'.allocation.id = row.allocation.id) with
  | none =>
    rw [List.find?_eq_none] at hf
    exact absurd (decide_eq_true rfl) (hf row (hrows.mem_iff.mpr h))
  | some row' =>
    have hid : row'.allocation.id = row.allocation.id := by simpa using List.find?_some hf
    have hmem := hrows.mem_iff.mp (List.mem_of_find?_eq_some hf)
    rw [(Database.eq_of_allocation_id hmem h hid).2]

omit [DecidableEq ω] in
theorem relabel_of_other {database : Database} {r r' : Uuid} {row : AllocationRow}
    (hrows : rows.Perm (database.allocationRows r)) (hne : r' ≠ r)
    (h : row ∈ database.allocationRows r') :
    S.relabel environment context database rows row.allocation = row.allocation := by
  unfold relabel
  cases hf : rows.find? (fun row' => row'.allocation.id = row.allocation.id) with
  | none => rfl
  | some row' =>
    have hid : row'.allocation.id = row.allocation.id := by simpa using List.find?_some hf
    have hmem := hrows.mem_iff.mp (List.mem_of_find?_eq_some hf)
    exact absurd (Database.eq_of_allocation_id hmem h hid).1.symm hne

theorem PassEffect.allocationRows (h : S.PassEffect environment context rows s t) (r : Uuid) :
    t.database.allocationRows r = (s.database.allocationRows r).map fun row =>
      { row with allocation := S.relabel environment context s.database rows row.allocation } :=
  Database.allocationRows_of_mapRows h.items h.providers h.allocations
    (relabel_reservationItemId s.database) (relabel_providerId s.database) r

/-- The allocations of the walked reservation are settled one by one. -/
theorem PassEffect.allocationViews (h : S.PassEffect environment context rows s t)
    (hrows : rows.Perm (s.database.allocationRows context.reservationId)) :
    t.database.allocationViews context.reservationId =
      (s.database.allocationViews context.reservationId).map (S.settle environment context) := by
  unfold Database.allocationViews
  rw [h.allocationRows, List.map_map, List.map_map]
  apply List.map_congr_left
  intro row hrow
  rw [Function.comp_apply, Function.comp_apply, relabel_of_mem hrows hrow]
  have hops : ∀ kind : SettlementKind,
      t.database.operations.find? (kind.key context.reservationId row.allocation.id) =
        (S.settle environment context (s.database.view context.reservationId row)).operation kind := by
    intro kind
    by_cases ha : S.asks context (s.database.view context.reservationId row)
    · by_cases hk : kind = S.kind
      · rw [hk, settle_operation_of_asks ha]
        exact h.recorded row (hrows.mem_iff.mpr hrow) ha
      · rw [settle_operation_of_ne hk]
        apply h.operations
        rintro row' - - he
        exact hk (SettlementKind.key_inj.mp he).1
    · rw [settle_operation_of_not_asks ha]
      apply h.operations
      intro row' hrow' ha' he
      have hid := (SettlementKind.key_inj.mp he).2.2
      have heq := (Database.eq_of_allocation_id hrow (hrows.mem_iff.mp hrow') hid).2
      exact ha (heq ▸ ha')
  unfold Database.view settle
  congr 1
  exact funext hops

/-- The allocations of other reservations stay as they are. -/
theorem PassEffect.allocationViews_of_ne (h : S.PassEffect environment context rows s t)
    (hrows : rows.Perm (s.database.allocationRows context.reservationId)) {r : Uuid}
    (hne : r ≠ context.reservationId) :
    t.database.allocationViews r = s.database.allocationViews r := by
  unfold Database.allocationViews
  rw [h.allocationRows, List.map_map]
  apply List.map_congr_left
  intro row hrow
  rw [Function.comp_apply, relabel_of_other hrows hne hrow]
  apply Database.view_congr
  intro kind
  apply h.operations
  rintro row' - - he
  exact hne (SettlementKind.key_inj.mp he).2.1

theorem PassEffect.itemsOf (h : S.PassEffect environment context rows s t) (r : Uuid) :
    t.database.itemsOf r = s.database.itemsOf r := by
  unfold Database.itemsOf
  rw [h.items]

omit [DecidableEq ω] in
theorem flagsFrom_perm (hS : S.Lawful) {views views' : List AllocationView} (h : views.Perm views')
    (flags : PassFlags) :
    S.flagsFrom environment context flags views = S.flagsFrom environment context flags views' := by
  unfold flagsFrom
  refine List.Perm.foldl_eq' h ?_ flags
  intro a _ b _ flags
  exact hS.note_comm flags _ _

end Settlement

/-! ## The reservation row around a walk -/

theorem ReservationModel.SameRequest.refl (reservation : ReservationModel) :
    reservation.SameRequest reservation := ⟨rfl, rfl, rfl, rfl, rfl, rfl⟩

theorem ReservationModel.SameRequest.trans {a b c : ReservationModel} (h : a.SameRequest b)
    (h' : b.SameRequest c) : a.SameRequest c :=
  ⟨h'.id.trans h.id, h'.userId.trans h.userId, h'.idempotencyKey.trans h.idempotencyKey,
    h'.requestFingerprint.trans h.requestFingerprint, h'.createdAt.trans h.createdAt,
    h'.expiresAt.trans h.expiresAt⟩

namespace ReservationModel
variable (environment : Environment) (assign : ReservationModel → ReservationModel)
  (reservation : ReservationModel)

@[simp] theorem written_status :
    (reservation.written environment assign).status = (assign reservation).status :=
  written_of_eq ReservationModel.status (fun _ _ => rfl) environment assign reservation

@[simp] theorem written_releaseTargetStatus :
    (reservation.written environment assign).releaseTargetStatus =
      (assign reservation).releaseTargetStatus :=
  written_of_eq ReservationModel.releaseTargetStatus (fun _ _ => rfl) environment assign reservation

theorem written_sameRequest (h : reservation.SameRequest (assign reservation)) :
    reservation.SameRequest (reservation.written environment assign) := by
  unfold written
  split
  · exact .refl reservation
  · exact ⟨h.id, h.userId, h.idempotencyKey, h.requestFingerprint, h.createdAt, h.expiresAt⟩

end ReservationModel

theorem writeReservation_bind {α : Type} {environment : Environment} {reservationId : Uuid}
    {assign : ReservationModel → ReservationModel}
    {keeps : ∀ reservation, (assign reservation).id = reservation.id} (body : Unit → TransactionM α)
    (s : Session) :
    (writeReservation environment reservationId assign keeps >>= body) s = body ()
      { s with database := { s.database with
        reservations := s.database.reservations.update reservationId
          (ReservationModel.written environment assign) (fun reservation =>
            (ReservationModel.written_of_eq ReservationModel.id (fun _ _ => rfl) environment assign
              reservation).trans (keeps reservation)) } } := rfl

/-- A table in which one reservation was rewritten. -/
theorem ReservationModel.find?_of_rewritten {s t : Table ReservationModel.id} {id : Uuid}
    {write : ReservationModel → ReservationModel}
    (hrequest : ∀ reservation : ReservationModel, reservation.SameRequest (write reservation))
    (hrows : t.rows = s.rows.map fun reservation =>
      if reservation.id = id then write reservation else reservation) (r : Uuid) :
    t.find? r = (s.find? r).map fun reservation =>
      if r = id then write reservation else reservation := by
  have hkey : ∀ reservation : ReservationModel,
      (if reservation.id = id then write reservation else reservation).id = reservation.id := by
    intro reservation
    split
    · exact (hrequest reservation).id
    · rfl
  have ht : t = s.mapRows _ hkey := Table.ext hrows
  rw [ht, Table.find?_mapRows]
  cases hf : s.find? r with
  | none => rfl
  | some reservation =>
    have hid : reservation.id = r := Table.key_of_find? hf
    rw [Option.map_some, Option.map_some, hid]

/-- Rewriting a reservation keeps its user. -/
theorem ReservationModel.user_of_rewritten {s t : Table ReservationModel.id} {id : Uuid}
    {write : ReservationModel → ReservationModel}
    (hrequest : ∀ reservation : ReservationModel, reservation.SameRequest (write reservation))
    (hrows : t.rows = s.rows.map fun reservation =>
      if reservation.id = id then write reservation else reservation) {r : Uuid}
    {reservation : ReservationModel} (hf : s.find? r = some reservation) :
    ∃ reservation', t.find? r = some reservation' ∧ reservation'.userId = reservation.userId := by
  rw [find?_of_rewritten hrequest hrows, hf]
  refine ⟨_, rfl, ?_⟩
  split
  · exact (hrequest reservation).userId
  · rfl

/-! ## Whole walks -/

/-- A walk over the reservation of its context, in a run that returned. Around it the reservation row
was rewritten by `write`. -/
structure WalkEffect {ω : Type} [DecidableEq ω] (S : Settlement ω) (environment : Environment)
    (context : ProviderOperationContext) (write : ReservationModel → ReservationModel) (s t : Session) :
    Prop where
  walk : ∃ rows : List AllocationRow, rows.Perm (s.database.allocationRows context.reservationId) ∧
    S.PassEffect environment context rows s t
  request : ∀ reservation : ReservationModel, reservation.SameRequest (write reservation)
  reservations : t.database.reservations.rows = s.database.reservations.rows.map fun reservation =>
    if reservation.id = context.reservationId then write reservation else reservation
  orders : ∀ r, r ≠ context.reservationId →
    t.database.orders.find? r = s.database.orders.find? r

namespace WalkEffect
variable {ω : Type} [DecidableEq ω] {S : Settlement ω} {environment : Environment}
  {context : ProviderOperationContext} {write : ReservationModel → ReservationModel} {s t : Session}

theorem findReservation (h : WalkEffect S environment context write s t) (r : Uuid) :
    t.database.reservations.find? r = (s.database.reservations.find? r).map fun reservation =>
      if r = context.reservationId then write reservation else reservation :=
  ReservationModel.find?_of_rewritten h.request h.reservations r

/-- Other reservations are left alone. -/
theorem aggregate_of_ne (h : WalkEffect S environment context write s t) {r : Uuid}
    (hne : r ≠ context.reservationId) : t.database.aggregate? r = s.database.aggregate? r := by
  obtain ⟨rows, hrows, hpass⟩ := h.walk
  unfold Database.aggregate?
  rw [h.findReservation, hpass.itemsOf, hpass.allocationViews_of_ne hrows hne, h.orders r hne,
    Option.map_map]
  congr 1
  funext reservation
  rw [Function.comp_apply, if_neg hne]

theorem aggregate_self (h : WalkEffect S environment context write s t) :
    t.database.aggregate? context.reservationId =
      (s.database.aggregate? context.reservationId).map fun before =>
        { reservation := write before.reservation
          items := before.items
          allocations := before.allocations.map (S.settle environment context)
          order := t.database.orders.find? context.reservationId } := by
  obtain ⟨rows, hrows, hpass⟩ := h.walk
  unfold Database.aggregate?
  rw [h.findReservation, hpass.itemsOf, hpass.allocationViews hrows, Option.map_map, Option.map_map]
  congr 1
  funext reservation
  rw [Function.comp_apply, if_pos rfl]
  rfl

end WalkEffect

theorem concludeRelease_ok {environment : Environment} {reservationId : Uuid}
    {terminalStatus : ReservationStatusModel} {flags : PassFlags} {s t : Session} {u : Unit}
    (h : concludeRelease environment reservationId terminalStatus flags s = .ok u t) :
    ∃ reservations, t = { s with database := { s.database with reservations } } ∧
      reservations.rows = s.database.reservations.rows.map fun reservation =>
        if reservation.id = reservationId then
          reservation.written environment fun reservation =>
            if flags.pending then { reservation with status := .releasing }
            else { reservation with status := terminalStatus, releaseTargetStatus := none }
        else reservation := by
  unfold concludeRelease at h
  cases hp : flags.pending with
  | true =>
    rw [hp, if_pos rfl] at h
    cases h
    exact ⟨_, rfl, rfl⟩
  | false =>
    rw [hp, if_neg Bool.false_ne_true] at h
    cases h
    exact ⟨_, rfl, rfl⟩

/-- How a releasing walk rewrites the row of its reservation. -/
def releaseWrite (environment : Environment) (terminalStatus : ReservationStatusModel) (flags : PassFlags)
    (reservation : ReservationModel) : ReservationModel :=
  (reservation.written environment fun reservation =>
    { reservation with releaseTargetStatus := some terminalStatus }).written environment fun reservation =>
      if flags.pending then { reservation with status := .releasing }
      else { reservation with status := terminalStatus, releaseTargetStatus := none }

theorem releaseWrite_sameRequest (environment : Environment) (terminalStatus : ReservationStatusModel)
    (flags : PassFlags) (reservation : ReservationModel) :
    reservation.SameRequest (releaseWrite environment terminalStatus flags reservation) := by
  unfold releaseWrite
  refine (ReservationModel.written_sameRequest environment _ reservation ?_).trans
    (ReservationModel.written_sameRequest environment _ _ ?_)
  · exact ⟨rfl, rfl, rfl, rfl, rfl, rfl⟩
  · split <;> exact ⟨rfl, rfl, rfl, rfl, rfl, rfl⟩

theorem releaseWrite_status (environment : Environment) (terminalStatus : ReservationStatusModel)
    (flags : PassFlags) (reservation : ReservationModel) :
    ((releaseWrite environment terminalStatus flags reservation).status,
      (releaseWrite environment terminalStatus flags reservation).releaseTargetStatus) =
      flags.releasedStatus terminalStatus := by
  unfold releaseWrite PassFlags.releasedStatus
  cases flags.pending <;> simp

theorem releaseReservation_ok {environment : Environment} {reservation : ReservationModel}
    {terminalStatus : ReservationStatusModel} {context? : Option ProviderOperationContext}
    {context : ProviderOperationContext} {s t : Session} {u : Unit}
    (hcontext : context?.getD (.request reservation.id) = context)
    (hid : context.reservationId = reservation.id)
    (h : releaseReservation environment reservation terminalStatus context? s = .ok u t) :
    WalkEffect releasing environment context
        (releaseWrite environment terminalStatus (releasing.flags environment context
          (s.database.allocationViews context.reservationId))) s t ∧
      t.database.orders = s.database.orders := by
  rw [releaseReservation, readDatabase_bind, writeReservation_bind, bind_ok_iff] at h
  obtain ⟨flags, v, hv, h⟩ := h
  have hperm := s.database.scanAllocations_perm environment reservation.id
  have hnodup := s.database.scanAllocations_nodup environment reservation.id
  rw [hcontext] at hv
  obtain ⟨hflags, hpass, hbooks⟩ := Settlement.settleAllocations_ok releasing_lawful hnodup hv
  obtain ⟨reservations, rfl, hrows⟩ := concludeRelease_ok h
  have hflags' : flags = releasing.flags environment context
      (s.database.allocationViews context.reservationId) := by
    rw [hflags, hid]
    exact Settlement.flagsFrom_perm releasing_lawful (hperm.map _) _
  refine ⟨⟨⟨s.database.scanAllocations environment reservation.id, ?_, ?_⟩, ?_, ?_, ?_⟩,
    hbooks.orders⟩
  · rw [hid]
    exact hperm
  · exact ⟨hpass.products, hpass.providers, hpass.items, hpass.allocations, hpass.recorded,
      hpass.operations, hpass.offers, hpass.offered, hpass.exchanges, hpass.asked⟩
  · exact releaseWrite_sameRequest environment terminalStatus _
  · rw [hrows, hbooks.reservations, ← hflags', hid]
    dsimp only
    rw [Table.update, Table.mapRows_rows, List.map_map]
    apply List.map_congr_left
    intro row _
    rw [Function.comp_apply]
    by_cases hr : row.id = reservation.id
    · have hw : (row.written environment fun reservation =>
          { reservation with releaseTargetStatus := some terminalStatus }).id = reservation.id :=
        (ReservationModel.written_sameRequest environment
          (fun reservation => { reservation with releaseTargetStatus := some terminalStatus }) row
          ⟨rfl, rfl, rfl, rfl, rfl, rfl⟩).id.trans hr
      rw [if_pos hr, if_pos hr, if_pos hw]
      rfl
    · rw [if_neg hr, if_neg hr, if_neg hr]
  · intro r _
    rw [hbooks.orders]

/-! ## Confirming -/

theorem toDomain_ok {model : Option ReservationModel} {s t : Session} {reservation : Option Reservation}
    (h : toDomain model s = .ok reservation t) : t = s := by
  cases model with
  | none => exact (pure_ok_iff.mp h).2.symm
  | some model =>
    rw [toDomain, readDatabase_bind, ofExcept_bind_ok_iff] at h
    obtain ⟨_, -, h⟩ := h
    exact (pure_ok_iff.mp h).2.symm

theorem getReservation_ok {reservationId : Uuid} {s t : Session} {reservation : Option Reservation}
    (h : getReservation reservationId s = .ok reservation t) : t = s := by
  rw [getReservation, readDatabase_bind] at h
  exact toDomain_ok h

theorem insertOrderItem_ok {item : OrderItemModel} {s t : Session} {u : Unit}
    (h : insertOrderItem item s = .ok u t) :
    ∃ orderItems : Table OrderItemModel.identity, orderItems.rows = s.database.orderItems.rows ++ [item] ∧
      t = { s with database := { s.database with orderItems } } := by
  rw [insertOrderItem, readDatabase_bind] at h
  cases hi : s.database.orderItems.insert? item with
  | none =>
    rw [hi] at h
    cases h
  | some orderItems =>
    rw [hi] at h
    cases h
    exact ⟨orderItems, (Table.insert?_eq_some_iff.mp hi).2, rfl⟩

theorem insertOrderItems_ok {items : List OrderItemModel} {s t : Session} {u : Unit}
    (h : forEach insertOrderItem items s = .ok u t) :
    ∃ orderItems : Table OrderItemModel.identity, orderItems.rows = s.database.orderItems.rows ++ items ∧
      t = { s with database := { s.database with orderItems } } := by
  induction items generalizing s with
  | nil =>
    obtain ⟨-, rfl⟩ := pure_ok_iff.mp h
    exact ⟨_, (List.append_nil _).symm, rfl⟩
  | cons item items ih =>
    rw [forEach, bind_ok_iff] at h
    obtain ⟨_, v, hv, h⟩ := h
    obtain ⟨orderItems, hfirst, rfl⟩ := insertOrderItem_ok hv
    obtain ⟨orderItems', hrest, rfl⟩ := ih h
    refine ⟨orderItems', ?_, rfl⟩
    rw [hrest, hfirst, List.append_assoc]
    rfl

theorem insertOrder_ok {order : OrderModel} {s t : Session} {u : Unit} (h : insertOrder order s = .ok u t) :
    ∃ orders, (∀ other ∈ s.database.orders, other.id ≠ order.id) ∧
      s.database.orders.insert? order = some orders ∧
      t = { s with database := { s.database with orders } } := by
  rw [insertOrder, readDatabase_bind] at h
  obtain ⟨hid, h⟩ := ite_throw_ok_iff.mp h
  cases hi : s.database.orders.insert? order with
  | none =>
    rw [hi] at h
    cases h
  | some orders =>
    rw [hi] at h
    cases h
    refine ⟨orders, fun other hother he => ?_, rfl, rfl⟩
    exact hid (List.any_eq_true.mpr ⟨other, hother, decide_eq_true he⟩)

/-- The reservation had an order, or one was placed under a new identifier with a line for each item. -/
inductive OrderEnsured (environment : Environment) (reservation : ReservationModel) (s : Session) :
    Session → Prop
  | existing (order : OrderModel) (h : s.database.orders.find? reservation.id = some order) :
      OrderEnsured environment reservation s s
  | placed (order : OrderModel)
      (horder : order = ⟨environment.uuid7 s.generated, reservation.id, reservation.userId⟩)
      (orders : Table OrderModel.reservationId) (orderItems : Table OrderItemModel.identity)
      (hnone : s.database.orders.find? reservation.id = none)
      (hfresh : ∀ other ∈ s.database.orders, other.id ≠ order.id)
      (hinsert : s.database.orders.insert? order = some orders)
      (hlines : orderItems.rows = s.database.orderItems.rows ++
        ((s.database.itemsOf reservation.id).insertionSort fun a b =>
          environment.scanRank a.id ≤ environment.scanRank b.id).map
            fun item => ⟨order.id, item.productId, item.requestedQuantity⟩) :
      OrderEnsured environment reservation s
        ⟨{ s.database with orders, orderItems }, s.exchanges, s.generated + 1⟩

theorem ensureOrder_cases {environment : Environment} {reservation : ReservationModel} {s t : Session}
    {u : Unit} (h : ensureOrder environment reservation s = .ok u t) :
    OrderEnsured environment reservation s t := by
  rw [ensureOrder, readDatabase_bind] at h
  cases ho : s.database.orders.find? reservation.id with
  | some order =>
    rw [ho] at h
    obtain ⟨-, rfl⟩ := pure_ok_iff.mp h
    exact .existing order ho
  | none =>
    simp only [ho, newId_bind, bind_ok_iff] at h
    obtain ⟨_, v, hv, h⟩ := h
    obtain ⟨orders, hfresh, hinsert, rfl⟩ := insertOrder_ok hv
    obtain ⟨orderItems, hlines, rfl⟩ := insertOrderItems_ok h
    exact .placed _ rfl orders orderItems ho hfresh hinsert hlines

/-- An order is there afterwards; only the tables of orders and the identifiers drawn may differ. -/
theorem ensureOrder_ok {environment : Environment} {reservation : ReservationModel} {s t : Session}
    {u : Unit} (h : ensureOrder environment reservation s = .ok u t) :
    (∃ orders orderItems generated,
      t = { s with database := { s.database with orders, orderItems }, generated }) ∧
      (∀ r, r ≠ reservation.id → t.database.orders.find? r = s.database.orders.find? r) ∧
      (t.database.orders.find? reservation.id).isSome := by
  cases ensureOrder_cases h with
  | existing order ho => exact ⟨⟨_, _, _, rfl⟩, fun _ _ => rfl, Option.isSome_iff_exists.mpr ⟨order, ho⟩⟩
  | placed order horder orders orderItems hnone hfresh hinsert hlines =>
    subst horder
    refine ⟨⟨orders, orderItems, _, rfl⟩, ?_, ?_⟩
    · intro r hr
      exact (Table.find?_insert? hinsert r).trans (if_neg hr)
    · exact Option.isSome_iff_exists.mpr ⟨_, (Table.find?_insert? hinsert _).trans (if_pos rfl)⟩

theorem ensureOrder_of_some {environment : Environment} {reservation : ReservationModel} {s t : Session}
    {u : Unit} (ho : (s.database.orders.find? reservation.id).isSome)
    (h : ensureOrder environment reservation s = .ok u t) : t = s := by
  obtain ⟨order, ho⟩ := Option.isSome_iff_exists.mp ho
  rw [ensureOrder, readDatabase_bind, ho] at h
  exact (pure_ok_iff.mp h).2.symm

/-- How a confirming walk rewrites the row of its reservation. -/
def confirmWrite (environment : Environment) (flags : PassFlags) (reservation : ReservationModel) :
    ReservationModel :=
  reservation.written environment fun reservation => { reservation with status := flags.confirmedStatus }

theorem confirmWrite_sameRequest (environment : Environment) (flags : PassFlags)
    (reservation : ReservationModel) :
    reservation.SameRequest (confirmWrite environment flags reservation) :=
  ReservationModel.written_sameRequest environment _ reservation ⟨rfl, rfl, rfl, rfl, rfl, rfl⟩

theorem concludeConfirmation_ok {environment : Environment} {reservation : ReservationModel}
    {flags : PassFlags} {s t : Session} {u : Unit}
    (h : concludeConfirmation environment reservation flags s = .ok u t) :
    (∃ reservations orders orderItems generated,
      t = { s with database := { s.database with reservations, orders, orderItems }, generated }) ∧
      t.database.reservations.rows = (s.database.reservations.rows.map fun row =>
        if row.id = reservation.id then confirmWrite environment flags row else row) ∧
      (∀ r, r ≠ reservation.id → t.database.orders.find? r = s.database.orders.find? r) ∧
      ((t.database.orders.find? reservation.id).isSome ↔
        (s.database.orders.find? reservation.id).isSome ∨ flags.confirmedStatus = .confirmed) := by
  unfold concludeConfirmation at h
  unfold confirmWrite PassFlags.confirmedStatus
  cases hf : flags.failed with
  | true =>
    rw [hf, if_pos rfl] at h
    cases h
    exact ⟨⟨_, _, _, _, rfl⟩, rfl, fun _ _ => rfl, Or.inl, fun h => h.elim id (fun hc => by cases hc)⟩
  | false =>
    rw [hf, if_neg Bool.false_ne_true] at h
    cases hp : flags.pending with
    | true =>
      rw [hp, if_pos rfl] at h
      cases h
      exact ⟨⟨_, _, _, _, rfl⟩, rfl, fun _ _ => rfl, Or.inl, fun h => h.elim id (fun hc => by cases hc)⟩
    | false =>
      rw [hp, if_neg Bool.false_ne_true, writeReservation_bind] at h
      obtain ⟨⟨orders, orderItems, generated, rfl⟩, hothers, hsome⟩ := ensureOrder_ok h
      exact ⟨⟨_, _, _, _, rfl⟩, rfl, hothers, fun _ => Or.inr rfl, fun _ => hsome⟩

theorem confirmReservation_ok {environment : Environment} {reservation : ReservationModel}
    {context : ProviderOperationContext} {s t : Session} {result : Option Reservation}
    (hid : context.reservationId = reservation.id)
    (h : confirmReservation environment reservation context s = .ok result t) :
    WalkEffect confirmation environment context
        (confirmWrite environment (confirmation.flags environment context
          (s.database.allocationViews context.reservationId))) s t ∧
      ((t.database.orders.find? context.reservationId).isSome ↔
        (s.database.orders.find? context.reservationId).isSome ∨
          (confirmation.flags environment context
            (s.database.allocationViews context.reservationId)).confirmedStatus = .confirmed) := by
  rw [confirmReservation, readDatabase_bind, bind_ok_iff] at h
  obtain ⟨flags, v, hv, h⟩ := h
  obtain ⟨_, w, hw, h⟩ := bind_ok_iff.mp h
  have hperm := s.database.scanAllocations_perm environment reservation.id
  have hnodup := s.database.scanAllocations_nodup environment reservation.id
  obtain ⟨hflags, hpass, hbooks⟩ := Settlement.settleAllocations_ok confirmation_lawful hnodup hv
  obtain ⟨⟨reservations, orders, orderItems, generated, rfl⟩, hrows, hothers, hsome⟩ :=
    concludeConfirmation_ok hw
  cases getReservation_ok h
  have hflags' : flags = confirmation.flags environment context
      (s.database.allocationViews context.reservationId) := by
    rw [hflags, hid]
    exact Settlement.flagsFrom_perm confirmation_lawful (hperm.map _) _
  rw [hbooks.orders, ← hid, hflags'] at hsome
  refine ⟨⟨⟨s.database.scanAllocations environment reservation.id, ?_, ?_⟩, ?_, ?_, ?_⟩, hsome⟩
  · rw [hid]
    exact hperm
  · exact ⟨hpass.products, hpass.providers, hpass.items, hpass.allocations, hpass.recorded,
      hpass.operations, hpass.offers, hpass.offered, hpass.exchanges, hpass.asked⟩
  · exact confirmWrite_sameRequest environment _
  · rw [hrows, hbooks.reservations, ← hflags', hid]
  · intro r hr
    rw [hothers r (hid ▸ hr), hbooks.orders]

end InventoryReservation
