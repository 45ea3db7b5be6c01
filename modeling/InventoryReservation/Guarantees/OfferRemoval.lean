import InventoryReservation.Guarantees.StockConservation
import Mathlib.Algebra.Order.BigOperators.Group.List
import Mathlib.Algebra.Order.Group.Int

/-! # Removing offers

An offer is deleted if its counter of reserved units is zero. For internal offers the counter is that of the
held units, as long as stock is conserved, so nobody relies on an offer that is deleted. The counters of
external offers are always zero.
-/

namespace InventoryReservation
set_option autoImplicit false

open Relational Transactional

/-! ## The statement -/

/-- An allocation of a reservation in flight, or yet to be confirmed, is at this offer and not settled. -/
def Database.Relied (database : Database) (k : Uuid × Uuid) : Prop :=
  ∃ reservation ∈ database.reservations.rows, reservation.isLive = true ∧
    ∃ row ∈ database.allocationRows reservation.id, (row.productId, row.allocation.providerId) = k ∧
      row.allocation.status ∈ [.held, .unknown]

instance (database : Database) (k : Uuid × Uuid) : Decidable (database.Relied k) :=
  inferInstanceAs (Decidable (∃ reservation ∈ database.reservations.rows, _ ∧ ∃ row ∈ _, _))

/-- The request to remove an offer. -/
abbrev Event.removing (environment : Environment) (productId providerId : Uuid) : Event :=
  ⟨environment, .removeLevel productId providerId⟩

/-- An offer that exists is deleted only if nobody relies on it; otherwise the request raises and changes
nothing. -/
def Database.RemovesUnused (sha256 : String → String) (environment : Environment) (database : Database)
    (productId providerId : Uuid) : Prop :=
  ∀ offer ∈ database.offers.find? (productId, providerId),
    (¬ database.Relied (productId, providerId) ∧
      (System.step sha256 database (.removing environment productId providerId)).offers.find?
        (productId, providerId) = none) ∨
    ((System.execute sha256 (.removing environment productId providerId) database).result =
        .error (.inventoryHasActiveReservations productId providerId offer.reserved) ∧
      System.step sha256 database (.removing environment productId providerId) = database)

/-- There is no such offer, or it is internal, or nobody relies on it. -/
def Database.Removable (database : Database) (k : Uuid × Uuid) : Prop :=
  database.offers.find? k = none ∨
    (∀ provider ∈ database.providers.find? k.2, provider.kind = .internal) ∨ ¬ database.Relied k

instance (database : Database) (k : Uuid × Uuid) : Decidable (database.Removable k) :=
  inferInstanceAs (Decidable (_ ∨ _ ∨ _))

/-! ## The request -/

section Removing
variable (sha256 : String → String) (environment : Environment) {database : Database}
  {productId providerId : Uuid} {offer : ProductOfferModel}

theorem execute_removing_unreserved (ho : database.offers.find? (productId, providerId) = some offer)
    (hreserved : offer.reserved = 0) :
    ∃ offers, offers.find? (productId, providerId) = none ∧
      System.execute sha256 (.removing environment productId providerId) database =
        ⟨.ok (.removed true), { database with offers }, []⟩ := by
  obtain ⟨deleted, hd⟩ : ∃ deleted, database.offers.deleteReturning (productId, providerId)
      (fun offer => offer.reserved = 0) = some deleted := by
    unfold Table.deleteReturning
    rw [ho]
    dsimp only
    rw [if_pos (decide_eq_true hreserved)]
    exact ⟨_, rfl⟩
  obtain ⟨row, offers⟩ := deleted
  refine ⟨offers, ?_, ?_⟩
  · rw [Table.find?_deleteReturning hd, if_pos rfl]
  · have hbody : removeLevel productId providerId (.start database) =
        .ok true ⟨{ database with offers }, [], 0⟩ := by
      have hd' : (Session.start database).database.offers.deleteReturning (productId, providerId)
          (fun offer => offer.reserved = 0) = some (row, offers) := hd
      rw [removeLevel, readDatabase_bind, hd']
      rfl
    change (databaseTransaction (removeLevel productId providerId) database).map Response.removed = _
    rw [databaseTransaction_of_ok hbody]
    rfl

theorem execute_removing_reserved (ho : database.offers.find? (productId, providerId) = some offer)
    (hreserved : offer.reserved ≠ 0) :
    System.execute sha256 (.removing environment productId providerId) database =
      ⟨.error (.inventoryHasActiveReservations productId providerId offer.reserved), database, []⟩ := by
  have hd : (Session.start database).database.offers.deleteReturning (productId, providerId)
      (fun offer => offer.reserved = 0) = none := by
    have ho' : (Session.start database).database.offers.find? (productId, providerId) = some offer := ho
    unfold Table.deleteReturning
    rw [ho']
    dsimp only
    rw [if_neg fun h => hreserved (of_decide_eq_true h)]
  have hbody : removeLevel productId providerId (.start database) =
      .error (.inventoryHasActiveReservations productId providerId offer.reserved) (.start database) := by
    have ho' : (Session.start database).database.offers.find? (productId, providerId) = some offer := ho
    rw [removeLevel, readDatabase_bind, hd]
    dsimp only
    rw [ho']
    rfl
  change (databaseTransaction (removeLevel productId providerId) database).map Response.removed = _
  rw [databaseTransaction_of_error hbody]
  rfl

end Removing

/-! ## Units that are relied on -/

theorem Database.unitsHeld_nonneg (database : Database) (k : Uuid × Uuid)
    (allocation : InventoryAllocationModel) : 0 ≤ database.unitsHeld k allocation := by
  unfold unitsHeld
  split
  · exact allocation.quantity.positive.le
  · exact le_rfl

theorem Database.heldAt_pos {database : Database} {k : Uuid × Uuid} {allocation : InventoryAllocationModel}
    (ha : allocation ∈ database.allocations) (hholds : database.holdsAt k allocation) :
    0 < database.heldAt k := by
  have hunits : 0 < database.unitsHeld k allocation := by
    unfold unitsHeld
    rw [if_pos hholds]
    exact allocation.quantity.positive
  refine hunits.trans_le (List.single_le_sum ?_ _ (List.mem_map_of_mem ha))
  intro units hu
  obtain ⟨other, -, rfl⟩ := List.mem_map.mp hu
  exact database.unitsHeld_nonneg k other

/-- At an internal provider only held units are relied on. -/
theorem Database.Relied.heldAt_pos {database : Database} {k : Uuid × Uuid} (h : database.Relied k)
    (hsettled : ∀ r aggregate, database.aggregate? r = some aggregate → aggregate.InternalSettled)
    {provider : InventoryProviderModel} (hp : database.providers.find? k.2 = some provider)
    (hk : provider.kind = .internal) : 0 < database.heldAt k := by
  obtain ⟨reservation, hr, hlive, row, hrow, rfl, hstatus⟩ := h
  obtain ⟨hmem, hj⟩ := Database.mem_allocationRows.mp hrow
  obtain ⟨item, provider', hi, hp', -, heq⟩ := Database.joinAllocation_eq_some_iff.mp hj
  have hinternal : row.provider.kind = .internal := by
    rw [heq]
    cases hp'.symm.trans hp
    exact hk
  have haggregate : database.aggregate? reservation.id = some ⟨reservation, database.itemsOf reservation.id,
      database.allocationViews reservation.id, database.orders.find? reservation.id⟩ :=
    Database.aggregate?_eq_some_iff.mpr ⟨Table.find?_of_mem hr, rfl, rfl, rfl⟩
  have hstatuses := hsettled reservation.id _ haggregate
  have hview := Database.view_mem haggregate hrow
  have hheld : row.allocation.status = .held := by
    have hlive : reservation.status ∈ [.pending, .confirming, .releasing] := of_decide_eq_true hlive
    simp only [List.mem_cons, List.not_mem_nil, or_false] at hlive
    rcases hlive with hpending | hconfirming | hreleasing
    · exact hstatuses.pending hpending _ hview hinternal
    · have hconfirmed : row.allocation.status = .confirmed := hstatuses.confirming hconfirming _ hview hinternal
      rw [hconfirmed] at hstatus
      exact absurd hstatus (by decide)
    · have hreleased : row.allocation.status = .released := hstatuses.releasing hreleasing _ hview hinternal
      rw [hreleased] at hstatus
      exact absurd hstatus (by decide)
  refine database.heldAt_pos hmem ⟨hheld, rfl, ?_⟩
  rw [hi, heq]
  rfl

/-! ## Runs -/

theorem Database.reservedAt_of_find? {database : Database} {k : Uuid × Uuid} {offer : ProductOfferModel}
    (ho : database.offers.find? k = some offer) : database.reservedAt k = offer.reserved := by
  have hkey : offer.identity = k := Table.key_of_find? ho
  rw [← hkey]
  exact Database.reservedAt_of_mem (Table.mem_of_find? ho)

/-- An internal offer that a reservation relies on counts reserved units. -/
theorem Database.Relied.reserved_pos {database : Database} {k : Uuid × Uuid} (h : database.Relied k)
    (hbalanced : database.Balanced)
    (hsettled : ∀ r aggregate, database.aggregate? r = some aggregate → aggregate.InternalSettled)
    (hinternal : ∀ provider ∈ database.providers.find? k.2, provider.kind = .internal)
    {offer : ProductOfferModel} (ho : database.offers.find? k = some offer) : 0 < offer.reserved := by
  obtain ⟨provider, hp⟩ : ∃ provider, database.providers.find? k.2 = some provider := by
    obtain ⟨reservation, -, -, row, hrow, rfl, -⟩ := id h
    obtain ⟨-, hj⟩ := Database.mem_allocationRows.mp hrow
    obtain ⟨-, provider, -, hp, -, -⟩ := Database.joinAllocation_eq_some_iff.mp hj
    exact ⟨provider, hp⟩
  have hkind := hinternal provider hp
  calc 0 < database.heldAt k := h.heldAt_pos hsettled hp hkind
    _ = database.reservedAt k := (hbalanced.internal k provider hp hkind).symm
    _ = offer.reserved := Database.reservedAt_of_find? ho

/-- An external offer counts no reserved unit, so nothing stops its removal. -/
theorem Database.Balanced.external_reserved {database : Database} (hbalanced : database.Balanced)
    {k : Uuid × Uuid} {provider : InventoryProviderModel} (hp : database.providers.find? k.2 = some provider)
    (hk : provider.kind ≠ .internal) {offer : ProductOfferModel}
    (ho : database.offers.find? k = some offer) : offer.reserved = 0 := by
  have hkind : provider.kind = .external := by
    cases hkind : provider.kind with
    | internal => exact absurd hkind hk
    | external => rfl
  exact (Database.reservedAt_of_find? ho).symm.trans (hbalanced.external k provider hp hkind)

/-- In a balanced database the request is safe exactly where the offer can be removed. -/
theorem Database.removesUnused_iff {sha256 : String → String} {environment : Environment}
    {database : Database} (hbalanced : database.Balanced)
    (hsettled : ∀ r aggregate, database.aggregate? r = some aggregate → aggregate.InternalSettled)
    (productId providerId : Uuid) :
    database.RemovesUnused sha256 environment productId providerId ↔
      database.Removable (productId, providerId) := by
  constructor
  · intro h
    by_contra hnot
    obtain ⟨hoffer, hexternal, hrelied⟩ : database.offers.find? (productId, providerId) ≠ none ∧
        ¬ (∀ provider ∈ database.providers.find? providerId, provider.kind = .internal) ∧
        database.Relied (productId, providerId) := by
      simpa only [Removable, not_or, not_not] using hnot
    obtain ⟨offer, ho⟩ := Option.ne_none_iff_exists'.mp hoffer
    obtain ⟨provider, hp, hk⟩ : ∃ provider, database.providers.find? providerId = some provider ∧
        provider.kind ≠ .internal := by
      simpa using hexternal
    -- The offer is deleted although it is relied on.
    obtain ⟨offers, -, he⟩ :=
      execute_removing_unreserved sha256 environment ho (hbalanced.external_reserved hp hk ho)
    rcases h offer ho with ⟨hunused, -⟩ | ⟨hraises, -⟩
    · exact hunused hrelied
    · rw [he] at hraises
      cases hraises
  · intro h offer ho
    by_cases hreserved : offer.reserved = 0
    · obtain ⟨offers, hnone, he⟩ := execute_removing_unreserved sha256 environment ho hreserved
      have hdeleted : (System.step sha256 database (.removing environment productId providerId)).offers.find?
          (productId, providerId) = none := by
        unfold System.step
        rw [he]
        exact hnone
      refine Or.inl ⟨fun hrelied => ?_, hdeleted⟩
      rcases h with hmissing | hinternal | hunused
      · rw [ho] at hmissing
        cases hmissing
      · have hpositive := hrelied.reserved_pos hbalanced hsettled hinternal ho
        omega
      · exact hunused hrelied
    · right
      unfold System.step
      rw [execute_removing_reserved sha256 environment ho hreserved]
      exact ⟨rfl, rfl⟩

namespace System
variable {sha256 : String → String}

/-- In every state of a run that conserves stock, a request to remove an offer is safe exactly if the offer is
internal, missing, or relied on by nobody. -/
theorem run_removals_safe {database : Database} {events : List Event} (hinit : database.Initial)
    (hreserved : ∀ offer ∈ database.offers.rows, offer.reserved = 0)
    (hadmissible : Runs.Admissible (step sha256)
      (fun database event => event.request.settlesHeld database) database events)
    (environment : Environment) (productId providerId : Uuid) :
    (run sha256 database events).RemovesUnused sha256 environment productId providerId ↔
      (run sha256 database events).Removable (productId, providerId) :=
  Database.removesUnused_iff (run_balanced hinit hreserved hadmissible)
    (run_internalSettled sha256 hinit events) productId providerId

/-- Units of an internal offer are held, so the request to remove it raises. -/
theorem run_removals_safe_internal :
    (run Deployment.sha256 Deployment.database
      [Deployment.create 1000 100 0 [Deployment.line 1 10 2] "a"]).RemovesUnused Deployment.sha256
        (Deployment.environment 0 0 10) 1 10 :=
  (run_removals_safe Deployment.initial (by decide) (by decide +kernel)
    (Deployment.environment 0 0 10) 1 10).mpr (by decide +kernel)

/-- An external offer is deleted while a pending reservation holds units there. -/
theorem external_offer_removed :
    ¬ ∀ (sha256 : String → String) (database : Database) (events : List Event), database.Initial →
      (∀ offer ∈ database.offers.rows, offer.reserved = 0) → ∀ environment productId providerId,
        (run sha256 database events).RemovesUnused sha256 environment productId providerId := by
  intro h
  have hsafe := h Deployment.sha256 Deployment.database
    [Deployment.create 1000 100 0 [Deployment.line 2 20 1 Deployment.one_unit] "key"] Deployment.initial
    (by decide) (Deployment.environment 0 0 10) 2 20
  have hremovable := (Database.removesUnused_iff
    (run_balanced Deployment.initial (by decide) (by decide +kernel))
    (run_internalSettled _ Deployment.initial _) 2 20).mp hsafe
  exact absurd hremovable (by decide +kernel)

end System
end InventoryReservation
