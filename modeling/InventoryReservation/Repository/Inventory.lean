import InventoryReservation.Repository.Session
import InventoryReservation.Service.ProviderRouter

/-! # Inventory repository

The conditional updates of the offers table, written first as statements on a single row (the guard
and the new values of one `UPDATE`) and then as queries, and the routing of a hold over the providers
that can serve the customer's selection.
-/

namespace InventoryReservation
set_option autoImplicit false

open Relational

/-! ## Statements on one row -/

/-- The effect of one `UPDATE product_offers .. RETURNING` on the row it addresses: `none` where the
`WHERE` clause does not hold. No statement moves a row to another product or provider. The parameters are
those that are bound as `Integer`, and the instants. -/
structure OfferStatement where
  parameters : List ℤ
  instants : List Instant
  apply : ProductOfferModel → Option ProductOfferModel
  identity : ∀ offer offer', apply offer = some offer' → offer'.identity = offer.identity

/-- The driver can encode the parameters. -/
def OfferStatement.Encodable (statement : OfferStatement) : Prop :=
  (∀ value ∈ statement.parameters, FitsInteger value) ∧ ∀ instant ∈ statement.instants, FitsTimestamp instant

instance : DecidablePred OfferStatement.Encodable := fun statement =>
  inferInstanceAs (Decidable ((∀ value ∈ statement.parameters, _) ∧ ∀ instant ∈ statement.instants, _))

/-- What the driver has against a statement. -/
def OfferStatement.encodingFailure (statement : OfferStatement) : Option Failure :=
  if statement.Encodable then none else some (.dataError "product_offers")

/-- The columns can hold the values of the row. -/
def ProductOfferModel.FitsColumns (offer : ProductOfferModel) : Prop :=
  FitsInteger offer.onHand ∧ FitsInteger offer.reserved ∧ FitsInteger offer.allocationPriority ∧
    FitsInteger offer.version

instance : DecidablePred ProductOfferModel.FitsColumns := fun _ => inferInstanceAs (Decidable (_ ∧ _))

/-- The first `CHECK` constraint of the offers table that a row violates. -/
def ProductOfferModel.failedCheck (offer : ProductOfferModel) : Option Failure :=
  if offer.onHand < 0 then some (.integrity "ck_product_offers_non_negative_on_hand")
  else if offer.reserved < 0 then some (.integrity "ck_product_offers_non_negative_reserved")
  else if offer.onHand < offer.reserved then
    some (.integrity "ck_product_offers_reserved_not_above_on_hand")
  else if offer.version < 1 then some (.integrity "ck_product_offers_positive_version")
  else if offer.allocationPriority < 0 then
    some (.integrity "ck_product_offers_non_negative_allocation_priority")
  else none

/-- What the database has against a row. It checks the constraints on a row that its columns can hold. -/
def ProductOfferModel.violation (offer : ProductOfferModel) : Option Failure :=
  if offer.FitsColumns then offer.failedCheck else some (.dataError "product_offers")

namespace OfferStatement

theorem encodingFailure_eq_none_iff {statement : OfferStatement} :
    statement.encodingFailure = none ↔ statement.Encodable := by
  unfold encodingFailure
  split
  · next h => exact iff_of_true rfl h
  · next h => exact iff_of_false nofun h

theorem eq_of_mem_encodingFailure {statement : OfferStatement} {failure : Failure}
    (h : failure ∈ statement.encodingFailure) : failure = .dataError "product_offers" := by
  obtain ⟨-, ⟨⟩⟩ := Option.mem_ite_none_left.mp h
  rfl

def tryHold (quantity : ℤ) : OfferStatement where
  parameters := [quantity]
  instants := []
  apply offer :=
    if quantity ≤ offer.onHand - offer.reserved then
      some { offer with reserved := offer.reserved + quantity, version := offer.version + 1 }
    else none
  identity offer offer' h := by
    obtain ⟨-, ⟨⟩⟩ := Option.ite_none_right_eq_some.mp h
    rfl

def confirmHold (quantity : ℤ) : OfferStatement where
  parameters := [quantity]
  instants := []
  apply offer :=
    if quantity ≤ offer.onHand ∧ quantity ≤ offer.reserved then
      some { offer with
        onHand := offer.onHand - quantity
        reserved := offer.reserved - quantity
        version := offer.version + 1 }
    else none
  identity offer offer' h := by
    obtain ⟨-, ⟨⟩⟩ := Option.ite_none_right_eq_some.mp h
    rfl

def releaseHold (quantity : ℤ) : OfferStatement where
  parameters := [quantity]
  instants := []
  apply offer :=
    if quantity ≤ offer.reserved then
      some { offer with reserved := offer.reserved - quantity, version := offer.version + 1 }
    else none
  identity offer offer' h := by
    obtain ⟨-, ⟨⟩⟩ := Option.ite_none_right_eq_some.mp h
    rfl

/-- The update of `observe_availability`; it has no guard. A large quantity is bound as `BigInteger`, so
that only the column `on_hand` bounds it. -/
def observe (availableQuantity : ℤ) (observedAt : Option Instant) : OfferStatement where
  parameters := []
  instants := observedAt.toList
  apply offer :=
    some { offer with
      onHand := max offer.reserved availableQuantity
      observedAt
      version := offer.version + 1 }
  identity offer offer' h := by
    cases h
    rfl

end OfferStatement

/-! ## Queries -/

structure InventorySnapshot where
  productId : Uuid
  providerId : Uuid
  onHand : ℤ
  reserved : ℤ
  version : ℤ

def InventorySnapshot.available (snapshot : InventorySnapshot) : ℤ :=
  snapshot.onHand - snapshot.reserved

def ProductOfferModel.snapshot (level : ProductOfferModel) : InventorySnapshot where
  productId := level.productId
  providerId := level.providerId
  onHand := level.onHand
  reserved := level.reserved
  version := level.version

def getSnapshot (productId providerId : Uuid) : TransactionM (Option InventorySnapshot) := do
  let database ← readDatabase
  pure ((database.offers.find? (productId, providerId)).map ProductOfferModel.snapshot)

/-- Run a statement on the offer of a product at a provider. The columns and constraints are checked on
the new row, as the database does. -/
def updateOffer (statement : OfferStatement) (productId providerId : Uuid) :
    TransactionM (Option InventorySnapshot) := do
  raiseIf statement.encodingFailure
  let database ← readDatabase
  match database.offers.updateReturning (productId, providerId) statement.apply statement.identity with
  | none => pure none
  | some (level, offers) => do
    raiseIf level.violation
    writeDatabase { database with offers }
    pure (some level.snapshot)

def tryHold (productId providerId : Uuid) (quantity : ℤ) : TransactionM (Option InventorySnapshot) :=
  updateOffer (.tryHold quantity) productId providerId

def confirmHold (productId providerId : Uuid) (quantity : ℤ) :
    TransactionM (Option InventorySnapshot) :=
  updateOffer (.confirmHold quantity) productId providerId

def releaseHold (productId providerId : Uuid) (quantity : ℤ) :
    TransactionM (Option InventorySnapshot) :=
  updateOffer (.releaseHold quantity) productId providerId

/-! ## Routing a hold -/

def observeAvailability (productId observedProviderId : Uuid) (attempt : ProviderAvailabilityAttempt) :
    TransactionM Unit :=
  match attempt.outcome, attempt.availableQuantity with
  | .fresh, some availableQuantity => do
    let _ ← updateOffer (.observe availableQuantity attempt.observedAt) productId observedProviderId
    pure ()
  | _, _ => pure ()

/-- The `_InternalInventoryProvider` of a provider. -/
def internalInventoryProvider (providerId : Uuid) : HoldProvider TransactionM where
  providerId
  availability command := do
    let snapshot ← getSnapshot command.productId providerId
    pure ⟨.fresh, some ((snapshot.map InventorySnapshot.available).getD 0), none⟩
  hold command := do
    let snapshot ← tryHold command.productId providerId command.quantity
    match snapshot with
    | none => pure ⟨.outOfStock, none⟩
    | some _ => pure ⟨.held, none⟩

/-- The adapter `get_external` hands out: each call is one exchange. -/
def externalProvider (environment : Environment) (providerId : Uuid) : HoldProvider TransactionM where
  providerId
  availability command := do
    let reply := environment.availability providerId command
    recordExchange (.availability providerId command reply)
    match reply.attempt with
    | some attempt => pure attempt
    | none => throw (.unclassifiedProviderError providerId)
  hold command := do
    let reply := environment.hold providerId command
    recordExchange (.hold providerId command reply)
    match reply.attempt with
    | some attempt => pure attempt
    | none => throw (.unclassifiedProviderError providerId)

/-- `_hold_provider`: the adapter of a candidate, when it has one. -/
def holdProvider (environment : Environment) (candidate : InventoryProviderModel) :
    Option (HoldProvider TransactionM) :=
  match candidate.kind with
  | .internal => some (internalInventoryProvider candidate.id)
  | .external =>
    if environment.providerRegistry ∧ candidate.baseUrl.isSome ∧ candidate.driver = "http" then
      some (externalProvider environment candidate.id)
    else none

section Configured
variable {environment : Environment} {candidates : List InventoryProviderModel}

/-- The candidates that have an adapter, each with it. -/
theorem mem_configured {c : InventoryProviderModel × HoldProvider TransactionM} :
    (c ∈ candidates.filterMap fun candidate =>
      (holdProvider environment candidate).map fun provider => (candidate, provider)) ↔
      c.1 ∈ candidates ∧ holdProvider environment c.1 = some c.2 := by
  rw [List.mem_filterMap]
  constructor
  · rintro ⟨candidate, hmem, hmap⟩
    obtain ⟨provider, hp, rfl⟩ := Option.map_eq_some_iff.mp hmap
    exact ⟨hmem, hp⟩
  · rintro ⟨hmem, hp⟩
    refine ⟨c.1, hmem, ?_⟩
    rw [hp]
    rfl

theorem exists_candidate {provider : HoldProvider TransactionM}
    (h : provider ∈ (candidates.filterMap fun candidate =>
      (holdProvider environment candidate).map fun provider => (candidate, provider)).map Prod.snd) :
    ∃ candidate ∈ candidates, holdProvider environment candidate = some provider := by
  obtain ⟨c, hc, rfl⟩ := List.mem_map.mp h
  exact ⟨c.1, mem_configured.mp hc⟩

end Configured

/-- The order `(allocation_priority, provider_id)` of two offers of one product. -/
def ProductOfferModel.precedes (a b : ProductOfferModel) : Prop :=
  a.allocationPriority < b.allocationPriority ∨
    (a.allocationPriority = b.allocationPriority ∧ a.providerId.int ≤ b.providerId.int)

instance : DecidableRel ProductOfferModel.precedes := fun a b =>
  inferInstanceAs (Decidable (a.allocationPriority < b.allocationPriority ∨ _))

instance : IsTrans ProductOfferModel ProductOfferModel.precedes where
  trans a b c hab hbc := by
    unfold ProductOfferModel.precedes at *
    omega

instance : Std.Total ProductOfferModel.precedes where
  total a b := by
    unfold ProductOfferModel.precedes
    omega

/-- The condition on `routing_group` or `provider_id` that the candidate query adds. -/
def ProductOfferModel.selectable (selectedRoutingGroup : Option Uuid) (providerId : Uuid)
    (offer : ProductOfferModel) : Bool :=
  match selectedRoutingGroup with
  | none => offer.providerId = providerId
  | some group => offer.routingGroup = some group

/-- The enabled, hold-capable providers of the product that the selection admits, in order. -/
def Database.holdCandidates (database : Database) (productId providerId : Uuid)
    (selectedRoutingGroup : Option Uuid) : List InventoryProviderModel :=
  let offers := database.offers.rows.filter fun offer =>
    offer.productId = productId ∧ offer.selectable selectedRoutingGroup providerId
  (offers.insertionSort ProductOfferModel.precedes).filterMap fun offer =>
    (database.providers.find? offer.providerId).filter fun provider =>
      provider.isEnabled && provider.supportsHold

def tryHoldSelected (environment : Environment) (productId providerId : Uuid) (quantity : ℤ)
    (idempotencyKey : ProviderKey) : TransactionM (Option ProviderHold) := do
  let database ← readDatabase
  let selectedRoutingGroup :=
    (database.offers.find? (productId, providerId)).bind ProductOfferModel.routingGroup
  let candidates := database.holdCandidates productId providerId selectedRoutingGroup
  let configuredCandidates := candidates.filterMap fun candidate =>
    (holdProvider environment candidate).map fun provider => (candidate, provider)
  let router : ProviderRouter TransactionM :=
    { providers := configuredCandidates.map Prod.snd
      availabilityProviderIds := configuredCandidates.filterMap fun (candidate, _) =>
        if candidate.kind = .external ∧ candidate.supportsAvailability then some candidate.id else none
      availabilityObserver := some (observeAvailability productId) }
  router.hold ⟨productId, quantity, idempotencyKey⟩

end InventoryReservation
