import InventoryReservation.Repository.InventoryManagement

/-! # Rows of the offers table

Which statements the driver encodes, what the columns and the `CHECK` constraints accept, and what the database
has against the row that a statement makes of an accepted one. The guards of the statements keep the
constraints, so that only a column can be too small.
-/

namespace InventoryReservation
set_option autoImplicit false

namespace OfferStatement

theorem tryHold_encodable_iff {quantity : ℤ} : (tryHold quantity).Encodable ↔ FitsInteger quantity :=
  (and_iff_left (List.forall_mem_nil _)).trans List.forall_mem_singleton

theorem observe_encodable_iff {availableQuantity : ℤ} {observedAt : Instant} :
    (observe availableQuantity (some observedAt)).Encodable ↔ FitsTimestamp observedAt :=
  (and_iff_right (List.forall_mem_nil _)).trans List.forall_mem_singleton

theorem assign_encodable_iff {onHand allocationPriority : ℤ} {routingGroup : Option Uuid} :
    (assign onHand allocationPriority routingGroup).Encodable ↔
      FitsInteger onHand ∧ FitsInteger allocationPriority :=
  (and_iff_left (List.forall_mem_nil _)).trans
    (List.forall_mem_cons.trans (and_congr_right' List.forall_mem_singleton))

end OfferStatement

namespace ProductOfferModel

structure InRange (offer : ProductOfferModel) : Prop where
  reserved : 0 ≤ offer.reserved
  onHand : offer.reserved ≤ offer.onHand

instance : DecidablePred InRange := fun offer =>
  decidable_of_iff (0 ≤ offer.reserved ∧ offer.reserved ≤ offer.onHand)
    ⟨fun h => ⟨h.1, h.2⟩, fun h => ⟨h.reserved, h.onHand⟩⟩

/-- The constraints on the columns that no stock is kept in. -/
structure Ranked (offer : ProductOfferModel) : Prop where
  version : 1 ≤ offer.version
  allocationPriority : 0 ≤ offer.allocationPriority

variable {offer offer' : ProductOfferModel}

/-- The rows that the constraints of the table accept. -/
theorem failedCheck_eq_none_iff : offer.failedCheck = none ↔ offer.InRange ∧ offer.Ranked := by
  unfold failedCheck
  rw [ite_some_eq_none_iff, ite_some_eq_none_iff, ite_some_eq_none_iff, ite_some_eq_none_iff, ite_some_eq_none_iff]
  constructor
  · rintro ⟨-, hreserved, honHand, hversion, hpriority, -⟩
    exact ⟨⟨not_lt.mp hreserved, not_lt.mp honHand⟩, not_lt.mp hversion, not_lt.mp hpriority⟩
  · rintro ⟨⟨hreserved, honHand⟩, hversion, hpriority⟩
    exact ⟨not_lt.mpr (hreserved.trans honHand), not_lt.mpr hreserved, not_lt.mpr honHand, not_lt.mpr hversion,
      not_lt.mpr hpriority, rfl⟩

/-- The rows that the table accepts. -/
theorem violation_eq_none_iff :
    offer.violation = none ↔ offer.FitsColumns ∧ offer.InRange ∧ offer.Ranked := by
  rw [← failedCheck_eq_none_iff]
  unfold violation
  split
  · next hfits => exact (and_iff_right hfits).symm
  · next hfits => exact iff_of_false nofun fun h => hfits h.1

/-- Where the constraints hold, only a column can be too small. -/
theorem violation_eq_ite {wide : Prop} [Decidable wide] (hrange : offer.InRange) (hranked : offer.Ranked)
    (hwide : offer.FitsColumns ↔ wide) :
    offer.violation = if wide then none else some (.dataError "product_offers") := by
  unfold violation
  rw [failedCheck_eq_none_iff.mpr ⟨hrange, hranked⟩]
  exact if_congr hwide rfl rfl

/-! ## The row after a statement -/

/-- A hold fits the columns when the next version does. -/
theorem tryHold_violation {quantity : ℤ} (hquantity : 0 < quantity) (h : offer.violation = none)
    (ha : (OfferStatement.tryHold quantity).apply offer = some offer') :
    offer'.violation = if offer.version < 2 ^ 31 - 1 then none else some (.dataError "product_offers") := by
  obtain ⟨⟨fitsOnHand, -, fitsPriority, fitsVersion⟩, hrange, hranked⟩ := violation_eq_none_iff.mp h
  obtain ⟨hreserved, honHand⟩ := hrange
  obtain ⟨hguard, ⟨⟩⟩ := Option.ite_none_right_eq_some.mp ha
  have hafter : 0 ≤ offer.reserved + quantity := by omega
  have hbelow : offer.reserved + quantity ≤ offer.onHand := by omega
  refine violation_eq_ite ⟨hafter, hbelow⟩ ⟨Int.le_add_one hranked.version, hranked.allocationPriority⟩
    ⟨fun hfits => fitsVersion.succ.mp hfits.2.2.2, fun hlast => ?_⟩
  exact ⟨fitsOnHand, fitsOnHand.of_le hafter hbelow, fitsPriority, fitsVersion.succ.mpr hlast⟩

/-- An observation fits the columns when its quantity and the next version do. -/
theorem observe_violation {availableQuantity : ℤ} {observedAt : Option Instant} (h : offer.violation = none)
    (ha : (OfferStatement.observe availableQuantity observedAt).apply offer = some offer') :
    offer'.violation = if availableQuantity < 2 ^ 31 ∧ offer.version < 2 ^ 31 - 1 then none
      else some (.dataError "product_offers") := by
  obtain ⟨⟨-, fitsReserved, fitsPriority, fitsVersion⟩, hrange, hranked⟩ := violation_eq_none_iff.mp h
  obtain rfl := Option.some.inj ha
  have hmax : 0 ≤ max offer.reserved availableQuantity := hrange.reserved.trans (le_max_left _ _)
  refine violation_eq_ite ⟨hrange.reserved, le_max_left _ _⟩
    ⟨Int.le_add_one hranked.version, hranked.allocationPriority⟩ ⟨fun hfits => ?_, fun hlast => ?_⟩
  · obtain ⟨hstock, -, -, hnext⟩ := hfits
    exact ⟨(le_max_right _ _).trans_lt hstock.2, fitsVersion.succ.mp hnext⟩
  · exact ⟨(FitsInteger.of_nonneg hmax).mpr (max_lt fitsReserved.2 hlast.1), fitsReserved, fitsPriority,
      fitsVersion.succ.mpr hlast.2⟩

/-- The row an upsert proposes fits the columns when the two values do. -/
theorem proposedOffer_violation {onHand allocationPriority : ℤ} (productId providerId : Uuid)
    (routingGroup : Option Uuid) (honHand : 0 ≤ onHand) (hpriority : 0 ≤ allocationPriority) :
    (proposedOffer productId providerId onHand allocationPriority routingGroup).violation =
      if onHand < 2 ^ 31 ∧ allocationPriority < 2 ^ 31 then none else some (.dataError "product_offers") := by
  refine violation_eq_ite ⟨le_rfl, honHand⟩ ⟨le_rfl, hpriority⟩
    ⟨fun hfits => ⟨hfits.1.2, hfits.2.2.1.2⟩, fun hlast => ?_⟩
  have hzero : FitsInteger 0 := by decide
  have hone : FitsInteger 1 := by decide
  exact ⟨(FitsInteger.of_nonneg honHand).mpr hlast.1, hzero, (FitsInteger.of_nonneg hpriority).mpr hlast.2, hone⟩

/-- The row it updates fits them too when the next version does. -/
theorem assign_violation {onHand allocationPriority : ℤ} {routingGroup : Option Uuid}
    (honHand : FitsInteger onHand) (hpriority : FitsInteger allocationPriority) (hnonneg : 0 ≤ allocationPriority)
    (hrange : offer.InRange) (hranked : offer.Ranked)
    (ha : (OfferStatement.assign onHand allocationPriority routingGroup).apply offer = some offer') :
    offer'.violation = if offer.version < 2 ^ 31 - 1 then none else some (.dataError "product_offers") := by
  obtain ⟨⟨hbelow, -⟩, ⟨⟩⟩ := Option.ite_none_right_eq_some.mp ha
  have hversion := hranked.version
  refine violation_eq_ite ⟨hrange.reserved, hbelow⟩ ⟨Int.le_add_one hversion, hnonneg⟩
    ⟨fun hfits => ?_, fun hlast => ?_⟩
  · have hnext : offer.version + 1 < 2 ^ 31 := hfits.2.2.2.2
    omega
  · have hnext : FitsInteger (offer.version + 1) := (FitsInteger.of_nonneg (by omega)).mpr (by omega)
    exact ⟨honHand, honHand.of_le hrange.reserved hbelow, hpriority, hnext⟩

end ProductOfferModel

/-- The columns are wide enough for a hold: for the quantity, and for the next version of a row that has the
units. -/
def Holdable (row : Option ProductOfferModel) (quantity : ℤ) : Prop :=
  quantity < 2 ^ 31 ∧ ∀ offer ∈ row, quantity ≤ offer.onHand - offer.reserved → offer.version < 2 ^ 31 - 1

instance (row : Option ProductOfferModel) (quantity : ℤ) : Decidable (Holdable row quantity) :=
  inferInstanceAs (Decidable (_ ∧ _))

end InventoryReservation
