import InventoryReservation.Foundations.Table
import InventoryReservation.Service.Reservation

/-! # The migration that gives items their provider

`upgrade` of revision 8e5d7c2a91b4. The levels become the offers, and every item gets the provider of one
of its allocations, or else the provider that was tried first for its product; then the column must not be
null and its values must be providers. Of several allocations of an item, which one the update joins is up
to the database.
-/

namespace InventoryReservation
set_option autoImplicit false

open Relational

/-! ## The previous revision -/

structure InventoryLevelModel where
  productId : Uuid
  providerId : Uuid
  onHand : ℤ
  reserved : ℤ
  allocationPriority : ℤ
  version : ℤ
  observedAt : Option Instant
  deriving DecidableEq

def InventoryLevelModel.identity (level : InventoryLevelModel) : Uuid × Uuid :=
  (level.productId, level.providerId)

/-- An item before it has a provider, or with the column that is added for it. -/
structure UnroutedItemModel where
  id : Uuid
  reservationId : Uuid
  productId : Uuid
  requestedQuantity : Quantity
  providerId : Option Uuid
  deriving DecidableEq

structure ItemAllocationModel where
  id : Uuid
  reservationItemId : Uuid
  providerId : Uuid
  quantity : Quantity
  deriving DecidableEq

/-- The tables of the migration; of products, providers and reservations the rows that exist. -/
structure UnroutedDatabase where
  products : List Uuid
  providers : List Uuid
  reservations : List Uuid
  inventoryLevels : Table InventoryLevelModel.identity
  items : Table UnroutedItemModel.id
  allocations : Table ItemAllocationModel.id

/-- The constraints of the previous revision; no item has a provider yet. -/
structure UnroutedDatabase.Valid (database : UnroutedDatabase) : Prop where
  levelProduct : ∀ level ∈ database.inventoryLevels, level.productId ∈ database.products
  levelProvider : ∀ level ∈ database.inventoryLevels, level.providerId ∈ database.providers
  levelStock : ∀ level ∈ database.inventoryLevels, 0 ≤ level.reserved ∧ level.reserved ≤ level.onHand
  levelRank : ∀ level ∈ database.inventoryLevels, 1 ≤ level.version ∧ 0 ≤ level.allocationPriority
  itemReservation : ∀ item ∈ database.items, item.reservationId ∈ database.reservations
  itemProduct : ∀ item ∈ database.items, item.productId ∈ database.products
  itemUnique : ∀ a ∈ database.items, ∀ b ∈ database.items, a.reservationId = b.reservationId →
    a.productId = b.productId → a = b
  itemUnrouted : ∀ item ∈ database.items, item.providerId = none
  allocationItem : ∀ allocation ∈ database.allocations,
    ∃ item ∈ database.items, item.id = allocation.reservationItemId
  allocationProvider : ∀ allocation ∈ database.allocations, allocation.providerId ∈ database.providers
  allocationUnique : ∀ a ∈ database.allocations, ∀ b ∈ database.allocations,
    a.reservationItemId = b.reservationItemId → a.providerId = b.providerId → a = b

instance (database : UnroutedDatabase) : Decidable database.Valid :=
  decidable_of_iff (_ ∧ _ ∧ _ ∧ _ ∧ _ ∧ _ ∧ _ ∧ _ ∧ _ ∧ _ ∧ _)
    ⟨fun ⟨h₁, h₂, h₃, h₄, h₅, h₆, h₇, h₈, h₉, h₁₀, h₁₁⟩ => ⟨h₁, h₂, h₃, h₄, h₅, h₆, h₇, h₈, h₉, h₁₀, h₁₁⟩,
      fun h => ⟨h.levelProduct, h.levelProvider, h.levelStock, h.levelRank, h.itemReservation, h.itemProduct,
        h.itemUnique, h.itemUnrouted, h.allocationItem, h.allocationProvider, h.allocationUnique⟩⟩

/-! ## The upgrade -/

structure RoutedItemModel where
  id : Uuid
  reservationId : Uuid
  productId : Uuid
  requestedQuantity : Quantity
  providerId : Uuid
  deriving DecidableEq

structure RoutedDatabase where
  products : List Uuid
  providers : List Uuid
  reservations : List Uuid
  productOffers : Table InventoryLevelModel.identity
  items : List RoutedItemModel
  allocations : Table ItemAllocationModel.id

/-- `UPDATE reservation_items SET provider_id FROM inventory_allocations`: the allocations of an item in
the order in which they are joined to it, the first of which counts. -/
def providerFromAllocation (joinRank : UnroutedItemModel → ItemAllocationModel → ℕ)
    (allocations : Table ItemAllocationModel.id) (item : UnroutedItemModel) : UnroutedItemModel :=
  let joined := (allocations.rows.filter fun allocation => allocation.reservationItemId = item.id).insertionSort
    fun a b => joinRank item a ≤ joinRank item b
  match joined.head? with
  | some allocation => { item with providerId := some allocation.providerId }
  | none => item

/-- `ORDER BY allocation_priority, provider_id`. -/
def InventoryLevelModel.before (a b : InventoryLevelModel) : Prop :=
  a.allocationPriority < b.allocationPriority ∨
    (a.allocationPriority = b.allocationPriority ∧ a.providerId.int ≤ b.providerId.int)

instance : DecidableRel InventoryLevelModel.before := fun _ _ => inferInstanceAs (Decidable (_ ∨ _))

def offersInOrder (offers : Table InventoryLevelModel.identity) (productId : Uuid) : List InventoryLevelModel :=
  (offers.rows.filter fun offer => offer.productId = productId).insertionSort InventoryLevelModel.before

/-- The second `UPDATE`, of the items that still have no provider. -/
def providerFromOffer (offers : Table InventoryLevelModel.identity) (item : UnroutedItemModel) :
    UnroutedItemModel :=
  if item.providerId = none then
    { item with providerId := (offersInOrder offers item.productId).head?.map InventoryLevelModel.providerId }
  else item

/-- The item, if its provider is not null. -/
def UnroutedItemModel.routed (item : UnroutedItemModel) : Option RoutedItemModel :=
  item.providerId.map fun providerId =>
    ⟨item.id, item.reservationId, item.productId, item.requestedQuantity, providerId⟩

def upgrade (joinRank : UnroutedItemModel → ItemAllocationModel → ℕ) (database : UnroutedDatabase) :
    Except Failure RoutedDatabase :=
  let productOffers := database.inventoryLevels
  let items := database.items.rows.map (providerFromAllocation joinRank database.allocations)
  let items := items.map (providerFromOffer productOffers)
  if ∃ item ∈ items, item.providerId = none then .error (.integrity "reservation_items.provider_id")
  else
    let items := items.filterMap UnroutedItemModel.routed
    if ∃ item ∈ items, item.providerId ∉ database.providers then
      .error (.integrity "fk_reservation_items_provider_id_inventory_providers")
    else
      .ok
        { products := database.products
          providers := database.providers
          reservations := database.reservations
          productOffers
          items
          allocations := database.allocations }

end InventoryReservation
