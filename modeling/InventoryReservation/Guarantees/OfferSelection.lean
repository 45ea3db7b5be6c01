import InventoryReservation.Migrations.SelectProductOffer

/-! # Which items the migration can route

The upgrade completes exactly if every item has an allocation or a level of its product. It then routes
every item to the provider of one of its allocations, or else to the first provider of its product. An item
of a failed reservation whose stock rows are gone has neither, and the column stays null.
-/

namespace InventoryReservation
set_option autoImplicit false

open Relational

/-- The item as the migration should leave it. -/
structure UnroutedDatabase.Routes (database : UnroutedDatabase) (item : UnroutedItemModel)
    (routed : RoutedItemModel) : Prop where
  id : routed.id = item.id
  reservationId : routed.reservationId = item.reservationId
  productId : routed.productId = item.productId
  requestedQuantity : routed.requestedQuantity = item.requestedQuantity
  allocated : (∃ allocation ∈ database.allocations, allocation.reservationItemId = item.id) →
    ∃ allocation ∈ database.allocations, allocation.reservationItemId = item.id ∧
      allocation.providerId = routed.providerId
  unallocated : (¬ ∃ allocation ∈ database.allocations, allocation.reservationItemId = item.id) →
    ∃ level ∈ database.inventoryLevels, level.productId = item.productId ∧
      level.providerId = routed.providerId ∧
      ∀ other ∈ database.inventoryLevels, other.productId = item.productId → level.before other

/-- The database as the migration should leave it. -/
structure UnroutedDatabase.Migrated (database : UnroutedDatabase) (routed : RoutedDatabase) : Prop where
  items : List.Forall₂ database.Routes database.items.rows routed.items
  products : routed.products = database.products
  providers : routed.providers = database.providers
  reservations : routed.reservations = database.reservations
  productOffers : routed.productOffers = database.inventoryLevels
  allocations : routed.allocations = database.allocations

/-- The item has an allocation, or its product a level. -/
def UnroutedDatabase.Routable (database : UnroutedDatabase) (item : UnroutedItemModel) : Prop :=
  (∃ allocation ∈ database.allocations, allocation.reservationItemId = item.id) ∨
    ∃ level ∈ database.inventoryLevels, level.productId = item.productId

/-! ## The first offer -/

instance : IsTrans InventoryLevelModel InventoryLevelModel.before where
  trans a b c hab hbc := by
    rcases hab with hab | ⟨hab, hab'⟩
    · rcases hbc with hbc | ⟨hbc, -⟩
      · exact Or.inl (hab.trans hbc)
      · exact Or.inl (hbc ▸ hab)
    · rcases hbc with hbc | ⟨hbc, hbc'⟩
      · exact Or.inl (hab ▸ hbc)
      · exact Or.inr ⟨hab.trans hbc, hab'.trans hbc'⟩

instance : Std.Total InventoryLevelModel.before where
  total a b := by
    rcases lt_trichotomy a.allocationPriority b.allocationPriority with h | h | h
    · exact Or.inl (Or.inl h)
    · rcases le_total a.providerId.int b.providerId.int with h' | h'
      · exact Or.inl (Or.inr ⟨h, h'⟩)
      · exact Or.inr (Or.inr ⟨h.symm, h'⟩)
    · exact Or.inr (Or.inl h)

section Offers
variable {offers : Table InventoryLevelModel.identity} {productId : Uuid} {offer : InventoryLevelModel}

theorem mem_offersInOrder : offer ∈ offersInOrder offers productId ↔ offer ∈ offers ∧ offer.productId = productId := by
  unfold offersInOrder
  rw [List.mem_insertionSort, List.mem_filter, decide_eq_true_iff]
  exact Iff.rfl

/-- The offer with which the order starts comes before all others. -/
theorem offersInOrder_head (h : (offersInOrder offers productId).head? = some offer) :
    offer ∈ offers ∧ offer.productId = productId ∧
      ∀ other ∈ offers, other.productId = productId → offer.before other := by
  obtain ⟨hmem, hproduct⟩ := mem_offersInOrder.mp (List.mem_of_head? h)
  refine ⟨hmem, hproduct, fun other hother hp => ?_⟩
  have hsorted : (offersInOrder offers productId).Pairwise InventoryLevelModel.before :=
    List.pairwise_insertionSort _ _
  have hin := mem_offersInOrder.mpr ⟨hother, hp⟩
  cases hl : offersInOrder offers productId with
  | nil =>
    rw [hl] at h
    cases h
  | cons first rest =>
    rw [hl] at h hsorted hin
    cases h
    rcases List.mem_cons.mp hin with rfl | hrest
    · exact Or.inr ⟨rfl, le_rfl⟩
    · exact List.rel_of_pairwise_cons hsorted hrest

theorem offersInOrder_eq_nil_iff :
    offersInOrder offers productId = [] ↔ ¬ ∃ level ∈ offers, level.productId = productId := by
  rw [List.eq_nil_iff_forall_not_mem]
  constructor
  · rintro h ⟨level, hl, hp⟩
    exact h level (mem_offersInOrder.mpr ⟨hl, hp⟩)
  · intro h level hl
    exact h ⟨level, mem_offersInOrder.mp hl⟩

end Offers

/-! ## One item -/

section Items
variable {joinRank : UnroutedItemModel → ItemAllocationModel → ℕ} {database : UnroutedDatabase}
  {item : UnroutedItemModel}

/-- Both updates of one item. -/
def UnroutedDatabase.route (database : UnroutedDatabase)
    (joinRank : UnroutedItemModel → ItemAllocationModel → ℕ) (item : UnroutedItemModel) : UnroutedItemModel :=
  providerFromOffer database.inventoryLevels (providerFromAllocation joinRank database.allocations item)

/-- An item with allocations gets the provider of one of them. -/
theorem route_allocated (joinRank : UnroutedItemModel → ItemAllocationModel → ℕ)
    (h : ∃ allocation ∈ database.allocations, allocation.reservationItemId = item.id) :
    ∃ allocation ∈ database.allocations, allocation.reservationItemId = item.id ∧
      database.route joinRank item = { item with providerId := some allocation.providerId } := by
  obtain ⟨allocation, ha, hid⟩ := h
  unfold UnroutedDatabase.route providerFromAllocation
  dsimp only
  have hmem : allocation ∈ (database.allocations.rows.filter fun allocation =>
      allocation.reservationItemId = item.id).insertionSort fun a b => joinRank item a ≤ joinRank item b :=
    (List.mem_insertionSort _).mpr (List.mem_filter.mpr ⟨ha, decide_eq_true hid⟩)
  obtain ⟨first, rest, hjoined⟩ := List.exists_cons_of_ne_nil (List.ne_nil_of_mem hmem)
  have hfirst := List.mem_filter.mp ((List.mem_insertionSort _).mp (hjoined ▸ List.mem_cons_self))
  rw [hjoined]
  refine ⟨first, hfirst.1, of_decide_eq_true hfirst.2, ?_⟩
  exact if_neg nofun

/-- An item without allocations gets the provider of the first offer, if there is one. -/
theorem route_unallocated (hnone : item.providerId = none)
    (h : ¬ ∃ allocation ∈ database.allocations, allocation.reservationItemId = item.id) :
    database.route joinRank item = { item with
      providerId := (offersInOrder database.inventoryLevels item.productId).head?.map
        InventoryLevelModel.providerId } := by
  have hjoined : database.allocations.rows.filter (fun allocation =>
      allocation.reservationItemId = item.id) = [] := by
    rw [List.filter_eq_nil_iff]
    intro allocation ha hid
    exact h ⟨allocation, ha, of_decide_eq_true hid⟩
  unfold UnroutedDatabase.route providerFromAllocation
  dsimp only
  rw [hjoined]
  exact if_pos hnone

/-- The column stays null exactly at an item with neither allocations nor levels of its product. -/
theorem route_eq_none_iff (hnone : item.providerId = none) :
    (database.route joinRank item).providerId = none ↔ ¬ database.Routable item := by
  unfold UnroutedDatabase.Routable
  by_cases h : ∃ allocation ∈ database.allocations, allocation.reservationItemId = item.id
  · obtain ⟨allocation, -, -, hroute⟩ := route_allocated joinRank h
    rw [hroute]
    exact iff_of_false nofun fun hno => hno (Or.inl h)
  · rw [route_unallocated hnone h, Option.map_eq_none_iff, List.head?_eq_none_iff, offersInOrder_eq_nil_iff,
      not_or]
    exact ⟨fun hlevel => ⟨h, hlevel⟩, fun hno => hno.2⟩

/-- A provider that an item gets is the right one. -/
theorem route_routes (hvalid : database.Valid) (hitem : item ∈ database.items) {routed : RoutedItemModel}
    (h : (database.route joinRank item).routed = some routed) :
    database.Routes item routed ∧ routed.providerId ∈ database.providers := by
  by_cases hallocated : ∃ allocation ∈ database.allocations, allocation.reservationItemId = item.id
  · obtain ⟨allocation, ha, hid, hroute⟩ := route_allocated joinRank hallocated
    rw [hroute] at h
    cases h
    exact ⟨⟨rfl, rfl, rfl, rfl, fun _ => ⟨allocation, ha, hid, rfl⟩, fun hno => absurd hallocated hno⟩,
      hvalid.allocationProvider allocation ha⟩
  · rw [route_unallocated (hvalid.itemUnrouted item hitem) hallocated] at h
    cases hhead : (offersInOrder database.inventoryLevels item.productId).head? with
    | none =>
      rw [hhead] at h
      cases h
    | some level =>
      rw [hhead] at h
      cases h
      obtain ⟨hmem, hproduct, hfirst⟩ := offersInOrder_head hhead
      exact ⟨⟨rfl, rfl, rfl, rfl, fun hyes => absurd hyes hallocated,
        fun _ => ⟨level, hmem, hproduct, rfl, hfirst⟩⟩, hvalid.levelProvider level hmem⟩

end Items

/-! ## All items -/

/-- Rows that all keep something are related to it one by one. -/
theorem forall₂_filterMap {α β : Type} {R : α → β → Prop} {f : α → Option β} {l : List α}
    (hsome : ∀ a ∈ l, f a ≠ none) (hR : ∀ a ∈ l, ∀ b, f a = some b → R a b) :
    List.Forall₂ R l (l.filterMap f) := by
  induction l with
  | nil => exact List.Forall₂.nil
  | cons a l ih =>
    obtain ⟨b, hb⟩ := Option.ne_none_iff_exists'.mp (hsome a List.mem_cons_self)
    rw [List.filterMap_cons_some hb]
    exact .cons (hR a List.mem_cons_self b hb) (ih (fun x hx => hsome x (List.mem_cons_of_mem _ hx))
      fun x hx => hR x (List.mem_cons_of_mem _ hx))

/-- The upgrade completes, and routes every item as it should, exactly if every item has an allocation or a
level of its product. -/
theorem upgrade_completes_iff {database : UnroutedDatabase} (hvalid : database.Valid)
    (joinRank : UnroutedItemModel → ItemAllocationModel → ℕ) :
    (∃ routed, upgrade joinRank database = .ok routed ∧ database.Migrated routed) ↔
      ∀ item ∈ database.items, database.Routable item := by
  have hrouted : (database.items.rows.map (providerFromAllocation joinRank database.allocations)).map
      (providerFromOffer database.inventoryLevels) = database.items.rows.map (database.route joinRank) := by
    rw [List.map_map]
    rfl
  unfold upgrade
  dsimp only
  rw [hrouted, List.filterMap_map]
  constructor
  · rintro ⟨routed, hupgrade, -⟩ item hitem
    by_contra hno
    rw [if_pos] at hupgrade
    · cases hupgrade
    · refine ⟨_, List.mem_map_of_mem hitem, ?_⟩
      exact (route_eq_none_iff (hvalid.itemUnrouted item hitem)).mpr hno
  · intro hcovered
    have hsome : ∀ item ∈ database.items.rows, (database.route joinRank item).providerId ≠ none :=
      fun item hitem hnone =>
        (route_eq_none_iff (hvalid.itemUnrouted item hitem)).mp hnone (hcovered item hitem)
    have hroutes : ∀ item ∈ database.items.rows, ∀ routed,
        (UnroutedItemModel.routed ∘ database.route joinRank) item = some routed →
        database.Routes item routed ∧ routed.providerId ∈ database.providers :=
      fun item hitem routed h => route_routes hvalid hitem h
    rw [if_neg, if_neg]
    · refine ⟨_, rfl, forall₂_filterMap (fun item hitem hnone => ?_)
        (fun item hitem routed h => (hroutes item hitem routed h).1), rfl, rfl, rfl, rfl, rfl⟩
      exact hsome item hitem (Option.map_eq_none_iff.mp hnone)
    · rintro ⟨routed, hmem, hunknown⟩
      obtain ⟨item, hitem, h⟩ := List.mem_filterMap.mp hmem
      exact hunknown (hroutes item hitem routed h).2
    · rintro ⟨routed, hmem, hnone⟩
      obtain ⟨item, hitem, rfl⟩ := List.mem_map.mp hmem
      exact hsome item hitem hnone

namespace Deployment

theorem three_units : 0 < ((3 : ℕ) : ℤ) := by decide

/-- An item of a reservation of the previous revision. -/
def unroutedItem (id productId : Uuid) : UnroutedItemModel where
  id
  reservationId := 100
  productId
  requestedQuantity := ⟨3, three_units⟩
  providerId := none

/-- One item was allocated, the other one was not; this product is kept at this provider. -/
def unroutedDatabase (levelProductId : Uuid) : UnroutedDatabase where
  products := [1, 2, 3]
  providers := [10, 20]
  reservations := [100]
  inventoryLevels := ⟨[⟨levelProductId, 10, 5, 0, 100, 1, none⟩], List.nodup_singleton _⟩
  items := ⟨[unroutedItem 200 1, unroutedItem 201 2], by decide⟩
  allocations := ⟨[⟨300, 200, 20, ⟨3, three_units⟩⟩], by decide⟩

theorem unroutedDatabase_valid : ∀ levelProductId ∈ ([1, 2, 3] : List Uuid),
    (unroutedDatabase levelProductId).Valid := by decide

end Deployment

/-- The item without an allocation is routed by the level of its product. -/
theorem upgrade_completes_levelled :
    (∃ routed, upgrade (fun _ _ => 0) (Deployment.unroutedDatabase 2) = .ok routed ∧
      (Deployment.unroutedDatabase 2).Migrated routed) ↔
      ∀ item ∈ (Deployment.unroutedDatabase 2).items, (Deployment.unroutedDatabase 2).Routable item :=
  upgrade_completes_iff (Deployment.unroutedDatabase_valid 2 (by decide)) fun _ _ => 0

/-- The stock of the other product is gone, and the upgrade stops. -/
theorem upgrade_stops_at_unstocked_item : (Deployment.unroutedDatabase 1).Valid ∧
    ¬ ∃ routed, upgrade (fun _ _ => 0) (Deployment.unroutedDatabase 1) = .ok routed := by
  refine ⟨Deployment.unroutedDatabase_valid 1 (by decide), ?_⟩
  have hstops : upgrade (fun _ _ => 0) (Deployment.unroutedDatabase 1) =
      .error (.integrity "reservation_items.provider_id") := rfl
  rintro ⟨routed, h⟩
  rw [hstops] at h
  cases h

end InventoryReservation
