import InventoryReservation.Repository.Inventory

/-! # Inventory level repository

Assigning the stock of a product at a provider, and removing an offer nobody reserves.
-/

namespace InventoryReservation
set_option autoImplicit false

open Relational

structure InventoryLevel where
  productId : Uuid
  providerId : Uuid
  onHand : ℤ
  reserved : ℤ
  allocationPriority : ℤ
  version : ℤ
  routingGroup : Option Uuid
  deriving DecidableEq

def ProductOfferModel.toLevel (level : ProductOfferModel) : InventoryLevel where
  productId := level.productId
  providerId := level.providerId
  onHand := level.onHand
  reserved := level.reserved
  allocationPriority := level.allocationPriority
  version := level.version
  routingGroup := level.routingGroup

/-- The `DO UPDATE` of the upsert: it fires when the reserved units fit and some value differs. -/
def OfferStatement.assign (onHand allocationPriority : ℤ) (routingGroup : Option Uuid) :
    OfferStatement where
  parameters := [onHand, allocationPriority]
  instants := []
  apply offer :=
    if offer.reserved ≤ onHand ∧
        (offer.onHand ≠ onHand ∨ offer.allocationPriority ≠ allocationPriority ∨
          offer.routingGroup ≠ routingGroup) then
      some { offer with onHand, allocationPriority, routingGroup, version := offer.version + 1 }
    else none
  identity offer offer' h := by
    obtain ⟨-, ⟨⟩⟩ := Option.ite_none_right_eq_some.mp h
    rfl

/-- The row the upsert proposes. -/
def proposedOffer (productId providerId : Uuid) (onHand allocationPriority : ℤ)
    (routingGroup : Option Uuid) : ProductOfferModel where
  productId
  providerId
  onHand
  reserved := 0
  allocationPriority
  routingGroup
  version := 1
  observedAt := none

/-- The foreign keys of an offer. -/
def Database.offerReferences (database : Database) (productId providerId : Uuid) : Option Failure :=
  if productId ∉ database.products then
    some (.integrity "fk_product_offers_product_id_products")
  else if (database.providers.find? providerId).isNone then
    some (.integrity "fk_product_offers_provider_id_inventory_providers")
  else none

def setLevel (productId providerId : Uuid) (onHand allocationPriority : ℤ)
    (routingGroup : Option Uuid) : TransactionM InventoryLevel := do
  let proposed := proposedOffer productId providerId onHand allocationPriority routingGroup
  raiseIf proposed.violation
  let database ← readDatabase
  match database.offers.insert? proposed with
  | some offers => do
    raiseIf (database.offerReferences productId providerId)
    writeDatabase { database with offers }
    pure proposed.toLevel
  | none => do
    let assigned ← updateOffer (.assign onHand allocationPriority routingGroup) productId providerId
    let current ← readDatabase
    match current.offers.find? (productId, providerId), assigned with
    | none, _ => throw (.integrity "product_offers")
    | some level, some _ => pure level.toLevel
    | some level, none =>
      if onHand < level.reserved then
        throw (.inventoryBelowReserved productId providerId level.reserved)
      else pure level.toLevel

def removeLevel (productId providerId : Uuid) : TransactionM Bool := do
  let database ← readDatabase
  match database.offers.deleteReturning (productId, providerId) (fun offer => offer.reserved = 0) with
  | some (_, offers) => do
    writeDatabase { database with offers }
    pure true
  | none =>
    match database.offers.find? (productId, providerId) with
    | none => pure false
    | some current => throw (.inventoryHasActiveReservations productId providerId current.reserved)

end InventoryReservation
