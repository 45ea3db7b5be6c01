import InventoryReservation.Meaning.HoldPlan

/-! # Where the hold loop ends

The loop of `create` over the items of a stored reservation: the holds it is granted and records, and
how it ends (`Database.holdRun`). When an item is refused, a compensation follows.
-/

namespace InventoryReservation
set_option autoImplicit false

open Relational Transactional

/-! ## The loop -/

/-- A hold that was granted for an item, and the identifier of the allocation that records it. -/
structure Granted where
  item : ReservationItemModel
  hold : ProviderHold
  allocationId : Uuid
  deriving DecidableEq

/-- The command that holds an item. -/
def ReservationItemModel.command (item : ReservationItemModel) : HoldCommand :=
  item.toDomain.holdCommand item.reservationId

def Granted.allocation (granted : Granted) : InventoryAllocationModel where
  id := granted.allocationId
  reservationItemId := granted.item.id
  providerId := granted.hold.providerId
  quantity := granted.item.requestedQuantity
  status := .held
  holdIdempotencyKey := granted.item.command.idempotencyKey
  providerHoldReference := granted.hold.reference

def Granted.grants (granted : Granted) : List (Uuid × HoldCommand × String) :=
  granted.hold.grants granted.item.command

/-- The allocation can be stored after those of the holds before it. -/
def Database.Recordable (database : Database) (done : List Granted) (granted : Granted) : Prop :=
  FitsInteger granted.item.requestedQuantity.units ∧
    (∀ reference ∈ granted.hold.reference, nul ∉ reference.toList ∧ reference.length ≤ 255) ∧
    (∀ allocation ∈ database.allocations.rows, allocation.id ≠ granted.allocationId ∧
      allocation.holdIdempotencyKey ≠ granted.item.command.idempotencyKey) ∧
    ∀ other ∈ done, other.allocationId ≠ granted.allocationId

instance (database : Database) (done : List Granted) (granted : Granted) :
    Decidable (database.Recordable done granted) :=
  inferInstanceAs (Decidable (_ ∧ _ ∧ _ ∧ _))

/-- How the loop ends: with every item held, at an item that is refused, or raising. -/
inductive Ending where
  | held
  | refused
  | raised
  deriving DecidableEq

structure HoldRun where
  granted : List Granted
  ending : Ending
  deriving DecidableEq

/-- The loop over the items not yet held, with the identifiers from `generated` on. -/
def Database.holdRun (database : Database) (environment : Environment) :
    ℕ → List Granted → List ReservationItemModel → HoldRun
  | _, done, [] => ⟨done, .held⟩
  | generated, done, item :: items =>
    match database.route environment item.command item.providerId with
    | .refused => ⟨done, .refused⟩
    | .raised => ⟨done, .raised⟩
    | .granted hold =>
      let granted : Granted := ⟨item, hold, environment.uuid7 generated⟩
      if database.Recordable done granted then
        database.holdRun environment (generated + 1) (done ++ [granted]) items
      else ⟨done ++ [granted], .raised⟩

/-- The session when the loop comes to the items not yet held. -/
structure Holding (database : Database) (v u : Session) (done : List Granted)
    (items : List ReservationItemModel) : Prop where
  tables : u.database =
    { v.database with offers := u.database.offers, allocations := u.database.allocations }
  allocations : u.database.allocations.rows =
    database.allocations.rows ++ done.map Granted.allocation
  offers : ∀ item ∈ items, u.database.offersOf item.productId = database.offersOf item.productId
  known : ∀ granted ∈ done, (database.providers.find? granted.hold.providerId).isSome
  internal : ∀ granted ∈ done, ∀ provider,
    database.providers.find? granted.hold.providerId = some provider → provider.kind = .internal →
      granted.hold.reference = none ∧ database.Reserves granted.item.productId
        granted.item.requestedQuantity.units granted.hold.providerId u.database
  adds : Adds (done.flatMap Granted.grants) [] v u

/-- The failure texts of a reservation that could not be held. -/
def ReservationModel.withFailure (reservation : ReservationModel) : ReservationModel :=
  { reservation with
    failureCode := some "insufficient_inventory"
    failureReason := some "A later reservation item could not be allocated." }

theorem ReservationModel.withFailure_id (reservation : ReservationModel) :
    reservation.withFailure.id = reservation.id := rfl

/-- The compensation at an item that is refused. -/
def compensate (environment : Environment) (reservation : ReservationModel) : TransactionM Bool := do
  writeReservation environment reservation.id ReservationModel.withFailure ReservationModel.withFailure_id
  releaseReservation environment reservation .failed none
  pure false

/-- The end of the loop that the plan gives. -/
inductive RanAs (database : Database) (environment : Environment) (reservation : ReservationModel)
    (v : Session) : HoldRun → EStateM.Result Failure Session Bool → Prop
  | held (granted : List Granted) (t : Session) (h : Holding database v t granted []) :
      RanAs database environment reservation v ⟨granted, .held⟩ (.ok true t)
  | refused (granted : List Granted) (u : Session) (h : Holding database v u granted []) :
      RanAs database environment reservation v ⟨granted, .refused⟩ (compensate environment reservation u)
  | raised (granted : List Granted) (failure : Failure) (t : Session)
      (h : Adds (granted.flatMap Granted.grants) [] v t) :
      RanAs database environment reservation v ⟨granted, .raised⟩ (.error failure t)

/-! ## Recording a hold -/

theorem Database.allocationViolation_eq_none_iff {database : Database}
    {allocation : InventoryAllocationModel} :
    database.allocationViolation allocation = none ↔ FitsInteger allocation.quantity.units ∧
      (∀ reference ∈ allocation.providerHoldReference, nul ∉ reference.toList ∧ reference.length ≤ 255) ∧
      (∀ other ∈ database.allocations.rows, ¬ (other.reservationItemId = allocation.reservationItemId ∧
        other.providerId = allocation.providerId)) ∧
      ∀ other ∈ database.allocations.rows, other.holdIdempotencyKey ≠ allocation.holdIdempotencyKey := by
  unfold allocationViolation
  rw [ite_some_eq_none_iff, ite_some_eq_none_iff, ite_some_eq_none_iff, ite_some_eq_none_iff, not_or, not_not,
    List.any_eq_true, List.any_eq_true]
  simp only [decide_eq_true_eq, not_exists, not_and, and_true, not_lt]
  constructor
  · rintro ⟨⟨hfits, hnul⟩, hlong, hitems, hkeys⟩
    exact ⟨hfits, fun reference hr => ⟨hnul reference hr, hlong reference hr⟩, hitems, hkeys⟩
  · rintro ⟨hfits, hreferences, hitems, hkeys⟩
    exact ⟨⟨hfits, fun reference hr => (hreferences reference hr).1⟩,
      fun reference hr => (hreferences reference hr).2, hitems, hkeys⟩

section Loop
variable {database : Database} {environment : Environment} {reservation : ReservationModel}
  {item : ReservationItemModel} {hold : ProviderHold} {u v : Session}

theorem insertAllocation_stored {allocations : Table InventoryAllocationModel.id}
    (hviolation : u.database.allocationViolation
      (Granted.mk item hold (environment.uuid7 u.generated)).allocation = none)
    (hi : u.database.allocations.insert?
      (Granted.mk item hold (environment.uuid7 u.generated)).allocation = some allocations) :
    insertAllocation environment item hold item.command.idempotencyKey u =
      .ok () { u with database := { u.database with allocations }, generated := u.generated + 1 } := by
  rw [insertAllocation, newId_bind, readDatabase_bind]
  unfold Granted.allocation at hviolation hi
  dsimp only at hviolation hi ⊢
  rw [hviolation, hi]
  rfl

theorem insertAllocation_refused
    (h : u.database.allocationViolation
        (Granted.mk item hold (environment.uuid7 u.generated)).allocation ≠ none ∨
      u.database.allocations.insert?
        (Granted.mk item hold (environment.uuid7 u.generated)).allocation = none) :
    ∃ failure, insertAllocation environment item hold item.command.idempotencyKey u =
      .error failure { u with generated := u.generated + 1 } := by
  rw [insertAllocation, newId_bind, readDatabase_bind]
  unfold Granted.allocation at h
  dsimp only at h ⊢
  cases hv : u.database.allocationViolation ⟨environment.uuid7 u.generated, item.id, hold.providerId,
      item.requestedQuantity, .held, item.command.idempotencyKey, hold.reference⟩ with
  | some failure => exact ⟨failure, rfl⟩
  | none =>
    rcases h with h | h
    · exact absurd hv h
    · rw [h]
      exact ⟨_, rfl⟩

/-- The items of a reservation under way: distinct, and new to the allocations stored before. -/
structure NewItems (database : Database) (models : List ReservationItemModel) : Prop where
  ids : (models.map ReservationItemModel.id).Nodup
  products : (models.map ReservationItemModel.productId).Nodup
  free : ∀ model ∈ models, ∀ allocation ∈ database.allocations.rows,
    allocation.reservationItemId ≠ model.id

variable (environment hold) in
/-- A hold is recorded exactly if the plan says so. -/
theorem insertAllocation_recordable {done : List Granted} {items : List ReservationItemModel}
    (hholding : u.database.allocations.rows = database.allocations.rows ++ done.map Granted.allocation)
    (hnew : NewItems database (done.map Granted.item ++ item :: items)) :
    if database.Recordable done ⟨item, hold, environment.uuid7 u.generated⟩ then
      ∃ allocations : Table InventoryAllocationModel.id,
        insertAllocation environment item hold item.command.idempotencyKey u =
          .ok () { u with database := { u.database with allocations }, generated := u.generated + 1 } ∧
        allocations.rows = database.allocations.rows ++
          (done ++ [(⟨item, hold, environment.uuid7 u.generated⟩ : Granted)]).map Granted.allocation
    else ∃ failure, insertAllocation environment item hold item.command.idempotencyKey u =
      .error failure { u with generated := u.generated + 1 } := by
  have hitems : ∀ other ∈ u.database.allocations.rows, other.reservationItemId ≠ item.id := by
    intro other ho
    rw [hholding] at ho
    rcases List.mem_append.mp ho with ho | ho
    · exact hnew.free item (by simp) other ho
    · obtain ⟨granted, hg, rfl⟩ := List.mem_map.mp ho
      intro hsame
      have hids := hnew.ids
      rw [List.map_append, List.nodup_append] at hids
      exact hids.2.2 granted.item.id (List.mem_map_of_mem (List.mem_map_of_mem hg)) item.id
        (by simp) hsame
  have hproducts : ∀ granted ∈ done, granted.item.command.idempotencyKey ≠ item.command.idempotencyKey := by
    intro granted hg hsame
    have hproducts := hnew.products
    rw [List.map_append, List.nodup_append] at hproducts
    exact hproducts.2.2 granted.item.productId (List.mem_map_of_mem (List.mem_map_of_mem hg))
      item.productId (by simp) (ProviderKey.hold.inj hsame).2.1
  split
  · next hrecordable =>
    obtain ⟨hfits, hreference, hstored, hdone⟩ := hrecordable
    have hviolation : u.database.allocationViolation
        (Granted.mk item hold (environment.uuid7 u.generated)).allocation = none := by
      refine Database.allocationViolation_eq_none_iff.mpr ⟨hfits, hreference,
        fun other ho hsame => hitems other ho hsame.1, fun other ho => ?_⟩
      rw [hholding] at ho
      rcases List.mem_append.mp ho with ho | ho
      · exact (hstored other ho).2
      · obtain ⟨granted, hg, rfl⟩ := List.mem_map.mp ho
        exact hproducts granted hg
    have hid : u.database.allocations.find? (environment.uuid7 u.generated) = none := by
      rw [Table.find?_eq_none_iff]
      intro other ho
      rw [← Table.mem_rows, hholding] at ho
      rcases List.mem_append.mp ho with ho | ho
      · exact (hstored other ho).1
      · obtain ⟨granted, hg, rfl⟩ := List.mem_map.mp ho
        exact hdone granted hg
    obtain ⟨allocations, hi⟩ := Table.exists_insert?
      (r := (Granted.mk item hold (environment.uuid7 u.generated)).allocation) hid
    refine ⟨allocations, insertAllocation_stored hviolation hi, ?_⟩
    rw [(Table.insert?_eq_some_iff.mp hi).2, hholding, List.map_append, List.append_assoc]
    rfl
  · next hrecordable =>
    refine insertAllocation_refused ?_
    by_contra hor
    rw [not_or, not_not] at hor
    obtain ⟨hviolation, hi⟩ := hor
    obtain ⟨hfits, hreference, -, hkeys⟩ := Database.allocationViolation_eq_none_iff.mp hviolation
    obtain ⟨allocations, hi⟩ := Option.ne_none_iff_exists'.mp hi
    have hid := Table.find?_eq_none_iff.mp (Table.insert?_eq_some_iff.mp hi).1
    refine hrecordable ⟨hfits, hreference, fun allocation ha => ?_, fun granted hg => ?_⟩
    · have hmem : allocation ∈ u.database.allocations.rows := by
        rw [hholding]
        exact List.mem_append_left _ ha
      exact ⟨hid allocation hmem, hkeys allocation hmem⟩
    · have hmem : granted.allocation ∈ u.database.allocations.rows := by
        rw [hholding]
        exact List.mem_append_right _ (List.mem_map_of_mem hg)
      exact hid granted.allocation hmem

theorem Granted.flatMap_grants (done : List Granted) (granted : Granted) :
    (done ++ [granted]).flatMap Granted.grants = done.flatMap Granted.grants ++ granted.grants := by
  rw [List.flatMap_append, List.flatMap_singleton]

/-- Offers of other products are found as before. -/
theorem Visited.find? {productId : Uuid} {granted : List (Uuid × HoldCommand × String)} {s t : Session}
    (h : Visited productId granted s t) {productId' : Uuid} (hne : productId' ≠ productId)
    (providerId : Uuid) :
    t.database.offers.find? (productId', providerId) = s.database.offers.find? (productId', providerId) := by
  rw [Database.find?_offersOf, Database.find?_offersOf, h.offers productId' hne]

theorem NewItems.product_ne_later {done : List Granted} {item : ReservationItemModel}
    {items : List ReservationItemModel} (h : NewItems database (done.map Granted.item ++ item :: items)) :
    ∀ item' ∈ items, item'.productId ≠ item.productId := by
  intro item' hi he
  have hproducts := h.products
  rw [List.map_append, List.nodup_append, List.map_cons, List.nodup_cons] at hproducts
  exact hproducts.2.1.1 (List.mem_map.mpr ⟨item', hi, he⟩)

theorem NewItems.product_ne_done {done : List Granted} {item : ReservationItemModel}
    {items : List ReservationItemModel} (h : NewItems database (done.map Granted.item ++ item :: items)) :
    ∀ granted ∈ done, granted.item.productId ≠ item.productId := by
  intro granted hg
  have hproducts := h.products
  rw [List.map_append, List.nodup_append] at hproducts
  exact hproducts.2.2 _ (List.mem_map_of_mem (List.mem_map_of_mem hg)) _ (by simp)

/-- The session when the item is refused. -/
theorem Holding.refused {done : List Granted} {item : ReservationItemModel}
    {items : List ReservationItemModel} {t : Session} (h : Holding database v u done (item :: items))
    (hnew : NewItems database (done.map Granted.item ++ item :: items))
    (hvisited : Visited item.productId [] u t) : Holding database v t done [] where
  tables := by rw [hvisited.tables, h.tables]
  allocations := by
    rw [hvisited.tables]
    exact h.allocations
  offers _ hi := absurd hi List.not_mem_nil
  known := h.known
  internal granted hg provider hf hk := by
    obtain ⟨hreference, offer, hu, ho⟩ := h.internal granted hg provider hf hk
    exact ⟨hreference, offer, hu, (hvisited.find? (hnew.product_ne_done granted hg) _).trans ho⟩
  adds := by
    have htrans := h.adds.trans hvisited.adds
    rwa [List.append_nil] at htrans

/-- The calls made for an item that is granted come after those for the items held. -/
theorem Holding.granted_adds {done : List Granted} {item : ReservationItemModel}
    {items : List ReservationItemModel} {hold : ProviderHold} {t : Session} (allocationId : Uuid)
    (h : Holding database v u done (item :: items))
    (hvisited : Visited item.productId (hold.grants item.command) u t) :
    Adds ((done ++ [(⟨item, hold, allocationId⟩ : Granted)]).flatMap Granted.grants) [] v t := by
  rw [Granted.flatMap_grants]
  exact h.adds.trans hvisited.adds

/-- The session when the item is granted and its hold recorded. -/
theorem Holding.granted {done : List Granted} {item : ReservationItemModel}
    {items : List ReservationItemModel} {hold : ProviderHold} {t : Session} {allocationId : Uuid}
    {allocations : Table InventoryAllocationModel.id} {generated : ℕ}
    (h : Holding database v u done (item :: items))
    (hnew : NewItems database (done.map Granted.item ++ item :: items))
    (hvisited : Visited item.productId (hold.grants item.command) u t)
    (hknown : (database.providers.find? hold.providerId).isSome)
    (hinternal : ∀ provider, database.providers.find? hold.providerId = some provider →
      provider.kind = .internal → hold.reference = none ∧
        database.Reserves item.productId item.requestedQuantity.units hold.providerId t.database)
    (hallocations : allocations.rows =
      database.allocations.rows ++
        (done ++ [(⟨item, hold, allocationId⟩ : Granted)]).map Granted.allocation) :
    Holding database v { t with database := { t.database with allocations }, generated }
      (done ++ [⟨item, hold, allocationId⟩]) items where
  tables := by
    dsimp only
    rw [hvisited.tables, h.tables]
  allocations := hallocations
  offers item' hi :=
    (hvisited.offers _ (hnew.product_ne_later item' hi)).trans (h.offers item' (List.mem_cons_of_mem _ hi))
  known granted hg := by
    rcases List.mem_append.mp hg with hg | hg
    · exact h.known granted hg
    · rw [List.mem_singleton.mp hg]
      exact hknown
  internal granted hg provider hf hk := by
    rcases List.mem_append.mp hg with hg | hg
    · obtain ⟨hreference, offer, hu, ho⟩ := h.internal granted hg provider hf hk
      exact ⟨hreference, offer, hu, (hvisited.find? (hnew.product_ne_done granted hg) _).trans ho⟩
    · rw [List.mem_singleton.mp hg] at hf ⊢
      exact hinternal provider hf hk
  adds := by
    have hadds := h.granted_adds allocationId hvisited
    exact ⟨hadds.grants, hadds.releases⟩

/-- The loop ends as the plan says. -/
theorem holdItems_run {done : List Granted} {items : List ReservationItemModel} {generated : ℕ}
    (hproviders : v.database.providers = database.providers)
    (howner : ∀ item ∈ items, item.reservationId = reservation.id)
    (hnew : NewItems database (done.map Granted.item ++ items)) (hgenerated : u.generated = generated)
    (h : Holding database v u done items) :
    RanAs database environment reservation v (database.holdRun environment generated done items)
      (holdItems environment reservation items u) := by
  induction items generalizing done u generated with
  | nil => exact .held done u h
  | cons item items ih =>
    have hid : item.reservationId = reservation.id := howner item List.mem_cons_self
    have huproviders : u.database.providers = database.providers := by rw [h.tables, hproviders]
    have hrouted := tryHoldSelected_route environment item.command item.providerId
      huproviders (h.offers item List.mem_cons_self)
    have hcommand : tryHoldSelected environment item.productId item.providerId item.requestedQuantity.units
        (.hold reservation.id item.productId item.providerId) =
      tryHoldSelected environment item.command.productId item.providerId item.command.quantity
        item.command.idempotencyKey := by
      rw [← hid]
      rfl
    rw [Database.holdRun, holdItems, hcommand]
    dsimp only
    revert hrouted
    generalize database.route environment item.command item.providerId = routing
    generalize hresult : tryHoldSelected environment item.command.productId item.providerId
      item.command.quantity item.command.idempotencyKey u = result
    intro hrouted
    cases hrouted with
    | raised failure t hadds =>
      rw [bind_of_error hresult]
      refine .raised done failure t ?_
      have htrans := h.adds.trans hadds
      rwa [List.append_nil] at htrans
    | refused t hvisited =>
      rw [bind_of_ok hresult]
      exact .refused done t (h.refused hnew hvisited)
    | granted hold t hvisited hinternal =>
      rw [bind_of_ok hresult]
      dsimp only
      have htgenerated : t.generated = generated := hvisited.generated.trans hgenerated
      have hrows : t.database.allocations.rows =
          database.allocations.rows ++ done.map Granted.allocation := by
        rw [hvisited.tables]
        exact h.allocations
      have hinsert := insertAllocation_recordable environment hold hrows hnew
      rw [htgenerated] at hinsert
      have hkey : ProviderKey.hold reservation.id item.productId item.providerId =
          item.command.idempotencyKey := by
        rw [← hid]
        rfl
      rw [hkey]
      by_cases hrecordable : database.Recordable done ⟨item, hold, environment.uuid7 generated⟩
      · rw [if_pos hrecordable] at hinsert ⊢
        obtain ⟨allocations, hi, hallocations⟩ := hinsert
        rw [bind_of_ok hi]
        have hknown : (database.providers.find? hold.providerId).isSome := by
          rw [← huproviders]
          exact (tryHoldSelected_ok hresult).known hold rfl
        refine ih (fun item' hi => howner item' (List.mem_cons_of_mem _ hi)) ?_ rfl
          (h.granted hnew hvisited hknown hinternal hallocations)
        rw [List.map_append, List.append_assoc]
        exact hnew
      · rw [if_neg hrecordable] at hinsert ⊢
        obtain ⟨failure, hi⟩ := hinsert
        rw [bind_of_error hi]
        have hadds := h.granted_adds (environment.uuid7 generated) hvisited
        exact .raised _ failure _ ⟨hadds.grants, hadds.releases⟩

/-- Items are held in their order, each once. -/
theorem Database.holdRun_items (database : Database) (environment : Environment) (generated : ℕ)
    (done : List Granted) (items : List ReservationItemModel) :
    (database.holdRun environment generated done items).granted.map Granted.item <+:
      done.map Granted.item ++ items := by
  induction items generalizing generated done with
  | nil => exact List.prefix_append _ _
  | cons item items ih =>
    rw [holdRun]
    split
    · exact List.prefix_append _ _
    · exact List.prefix_append _ _
    · next hold _ =>
      have hitems : done.map Granted.item ++ item :: items =
          (done ++ [(⟨item, hold, environment.uuid7 generated⟩ : Granted)]).map Granted.item ++ items := by
        simp
      rw [hitems]
      dsimp only
      split
      · exact ih _ _
      · exact List.prefix_append _ _

end Loop
end InventoryReservation
