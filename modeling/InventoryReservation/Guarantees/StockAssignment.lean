import InventoryReservation.Guarantees.NoOversell
import InventoryReservation.Meaning.HoldPlan
import InventoryReservation.System.Deployment

/-! # Assigning stock

What `set_level` does to the offers: where the columns hold what it writes, it is refused exactly if more
units are reserved than the assigned stock has, and otherwise leaves the offer as it was asked for, with a new
version if anything changed. Where they do not, it fails and changes nothing.
-/

namespace InventoryReservation
set_option autoImplicit false

open Relational Transactional

/-- The offer has these values already. -/
def ProductOfferModel.Has (offer : ProductOfferModel) (onHand allocationPriority : ℤ)
    (routingGroup : Option Uuid) : Prop :=
  offer.onHand = onHand ∧ offer.allocationPriority = allocationPriority ∧ offer.routingGroup = routingGroup

instance (offer : ProductOfferModel) (onHand allocationPriority : ℤ) (routingGroup : Option Uuid) :
    Decidable (offer.Has onHand allocationPriority routingGroup) :=
  inferInstanceAs (Decidable (_ ∧ _))

/-- After an assignment: the offer is as it was asked for, with its reserved units and a version that counts
the change, the returned level is that offer, and nothing else changed. -/
structure Assigned (before after : Database) (productId providerId : Uuid) (onHand allocationPriority : ℤ)
    (routingGroup : Option Uuid) (level : InventoryLevel) : Prop where
  offer : ∃ offer, after.offers.find? (productId, providerId) = some offer ∧
    offer.Has onHand allocationPriority routingGroup ∧ level = offer.toLevel ∧
    (before.offers.find? (productId, providerId) = none → offer.reserved = 0 ∧ offer.version = 1) ∧
    ∀ old, before.offers.find? (productId, providerId) = some old → offer.reserved = old.reserved ∧
      offer.version = if old.Has onHand allocationPriority routingGroup then old.version else old.version + 1
  others : ∀ k, k ≠ (productId, providerId) → after.offers.find? k = before.offers.find? k
  tables : after = { before with offers := after.offers }

/-- The columns hold what the assignment writes: the two values and, if it changes an offer, the next version. -/
structure Database.Assignable (database : Database) (productId providerId : Uuid) (onHand allocationPriority : ℤ)
    (routingGroup : Option Uuid) : Prop where
  fitsOnHand : onHand < 2 ^ 31
  fitsPriority : allocationPriority < 2 ^ 31
  fitsVersion : ∀ offer, database.offers.find? (productId, providerId) = some offer → offer.reserved ≤ onHand →
    ¬ offer.Has onHand allocationPriority routingGroup → offer.version < 2 ^ 31 - 1

section Assignment
variable {productId providerId : Uuid} {onHand allocationPriority : ℤ} {routingGroup : Option Uuid}
  {s : Session} {offer : ProductOfferModel}

theorem assign_apply_iff {offer' : ProductOfferModel} :
    (OfferStatement.assign onHand allocationPriority routingGroup).apply offer = some offer' ↔
      (offer.reserved ≤ onHand ∧ ¬ offer.Has onHand allocationPriority routingGroup) ∧
        { offer with onHand, allocationPriority, routingGroup, version := offer.version + 1 } = offer' := by
  unfold ProductOfferModel.Has
  rw [not_and_or, not_and_or]
  exact Option.ite_none_right_eq_some.trans (and_congr_right' Option.some_inj)

/-- An assignment leaves an offer alone that has too many units reserved, or the values already. -/
theorem assign_apply_none (h : onHand < offer.reserved ∨ offer.Has onHand allocationPriority routingGroup) :
    (OfferStatement.assign onHand allocationPriority routingGroup).apply offer = none := by
  rw [Option.eq_none_iff_forall_ne_some]
  intro offer' happly
  obtain ⟨⟨hfits, hchanged⟩, -⟩ := assign_apply_iff.mp happly
  exact h.elim (fun hbelow => absurd hfits (not_le.mpr hbelow)) hchanged

/-- A value that no column holds. -/
theorem setLevel_unencodable (routingGroup : Option Uuid) (honHand : 0 ≤ onHand)
    (hpriority : 0 ≤ allocationPriority) (hwide : ¬ (onHand < 2 ^ 31 ∧ allocationPriority < 2 ^ 31)) :
    setLevel productId providerId onHand allocationPriority routingGroup s =
      .error (.dataError "product_offers") s := by
  rw [setLevel, ProductOfferModel.proposedOffer_violation _ _ _ honHand hpriority, if_neg hwide]
  rfl

section Encodable
variable (honHand : 0 ≤ onHand) (hpriority : 0 ≤ allocationPriority)
  (hwide : onHand < 2 ^ 31 ∧ allocationPriority < 2 ^ 31)
include honHand hpriority hwide

theorem assign_encodable : (OfferStatement.assign onHand allocationPriority routingGroup).Encodable :=
  OfferStatement.assign_encodable_iff.mpr
    ⟨(FitsInteger.of_nonneg honHand).mpr hwide.1, (FitsInteger.of_nonneg hpriority).mpr hwide.2⟩

theorem proposedOffer_accepted :
    (proposedOffer productId providerId onHand allocationPriority routingGroup).violation = none :=
  (ProductOfferModel.proposedOffer_violation _ _ _ honHand hpriority).trans (if_pos hwide)

/-- A new offer. -/
theorem setLevel_absent (routingGroup : Option Uuid)
    (hfree : s.database.offers.find? (productId, providerId) = none)
    (hproduct : productId ∈ s.database.products)
    (hprovider : (s.database.providers.find? providerId).isSome) :
    ∃ offers : Table ProductOfferModel.identity,
      setLevel productId providerId onHand allocationPriority routingGroup s =
        .ok (proposedOffer productId providerId onHand allocationPriority routingGroup).toLevel
          { s with database := { s.database with offers } } ∧
      ∀ k, offers.find? k = if k = (productId, providerId) then
        some (proposedOffer productId providerId onHand allocationPriority routingGroup)
        else s.database.offers.find? k := by
  obtain ⟨offers, hinsert⟩ : ∃ offers, s.database.offers.insert?
      (proposedOffer productId providerId onHand allocationPriority routingGroup) = some offers :=
    Table.exists_insert? hfree
  have hreferences : s.database.offerReferences productId providerId = none := by
    unfold Database.offerReferences
    rw [if_neg (not_not_intro hproduct), if_neg]
    rw [Option.isNone_iff_eq_none]
    exact Option.isSome_iff_ne_none.mp hprovider
  refine ⟨offers, ?_, Table.find?_insert? hinsert⟩
  rw [setLevel, proposedOffer_accepted honHand hpriority hwide, raiseIf_none_bind, readDatabase_bind, hinsert]
  dsimp only
  rw [hreferences, raiseIf_none_bind, writeDatabase_bind]
  rfl

/-- On an offer that exists the upsert comes to its update, and the level is read back. -/
theorem setLevel_existing {row : Option InventorySnapshot} {t : Session} {stored : ProductOfferModel}
    (hfound : s.database.offers.find? (productId, providerId) = some offer)
    (hupdate : updateOffer (.assign onHand allocationPriority routingGroup) productId providerId s = .ok row t)
    (hstored : t.database.offers.find? (productId, providerId) = some stored) :
    setLevel productId providerId onHand allocationPriority routingGroup s =
      if row = none ∧ onHand < stored.reserved then
        .error (.inventoryBelowReserved productId providerId stored.reserved) t
      else .ok stored.toLevel t := by
  rw [setLevel, proposedOffer_accepted honHand hpriority hwide, raiseIf_none_bind, readDatabase_bind,
    Table.insert?_eq_none hfound]
  dsimp only
  rw [bind_of_ok hupdate, readDatabase_bind, hstored]
  cases row with
  | none =>
    dsimp only
    by_cases hbelow : onHand < stored.reserved
    · rw [if_pos hbelow, if_pos ⟨rfl, hbelow⟩]
      rfl
    · rw [if_neg hbelow, if_neg fun h => hbelow h.2]
      rfl
  | some snapshot =>
    rw [if_neg fun h => Option.some_ne_none _ h.1]
    rfl

/-- Too few units for those that are reserved. -/
theorem setLevel_below (hfound : s.database.offers.find? (productId, providerId) = some offer)
    (hbelow : onHand < offer.reserved) :
    setLevel productId providerId onHand allocationPriority routingGroup s =
      .error (.inventoryBelowReserved productId providerId offer.reserved) s := by
  have hassign : s.database.updated (.assign onHand allocationPriority routingGroup) (productId, providerId) =
      .ok none := by
    rw [Database.updated_none_iff, hfound]
    exact ⟨assign_encodable honHand hpriority hwide, assign_apply_none (Or.inl hbelow)⟩
  rw [setLevel_existing honHand hpriority hwide hfound (updateOffer_none hassign) hfound, if_pos ⟨rfl, hbelow⟩]

/-- Nothing to change. -/
theorem setLevel_same (hfound : s.database.offers.find? (productId, providerId) = some offer)
    (hfits : offer.reserved ≤ onHand) (hsame : offer.Has onHand allocationPriority routingGroup) :
    setLevel productId providerId onHand allocationPriority routingGroup s = .ok offer.toLevel s := by
  have hassign : s.database.updated (.assign onHand allocationPriority routingGroup) (productId, providerId) =
      .ok none := by
    rw [Database.updated_none_iff, hfound]
    exact ⟨assign_encodable honHand hpriority hwide, assign_apply_none (Or.inr hsame)⟩
  rw [setLevel_existing honHand hpriority hwide hfound (updateOffer_none hassign) hfound,
    if_neg fun h => not_lt.mpr hfits h.2]

/-- What the update comes to on an offer that it changes. -/
theorem assign_updated (hfound : s.database.offers.find? (productId, providerId) = some offer)
    (hchecks : offer.failedCheck = none) (hfits : offer.reserved ≤ onHand)
    (hchanged : ¬ offer.Has onHand allocationPriority routingGroup) :
    s.database.updated (.assign onHand allocationPriority routingGroup) (productId, providerId) =
      if offer.version < 2 ^ 31 - 1 then
        .ok (some { offer with onHand, allocationPriority, routingGroup, version := offer.version + 1 })
      else .error (.dataError "product_offers") := by
  obtain ⟨hrange, hranked⟩ := ProductOfferModel.failedCheck_eq_none_iff.mp hchecks
  have hencodable : (OfferStatement.assign onHand allocationPriority routingGroup).Encodable :=
    assign_encodable honHand hpriority hwide
  obtain ⟨fitsOnHand, fitsPriority⟩ := OfferStatement.assign_encodable_iff.mp hencodable
  have happly := assign_apply_iff.mpr ⟨⟨hfits, hchanged⟩, rfl⟩
  have hviolation := ProductOfferModel.assign_violation fitsOnHand fitsPriority hpriority hrange hranked happly
  by_cases hlast : offer.version < 2 ^ 31 - 1
  · rw [if_pos hlast] at hviolation ⊢
    rw [Database.updated_some_iff, hfound]
    exact ⟨hencodable, happly, hviolation⟩
  · rw [if_neg hlast] at hviolation ⊢
    rw [Database.updated_error_iff, hfound]
    exact Or.inr ⟨hencodable, _, happly, hviolation⟩

/-- A change of the offer. -/
theorem setLevel_changed (hfound : s.database.offers.find? (productId, providerId) = some offer)
    (hchecks : offer.failedCheck = none) (hfits : offer.reserved ≤ onHand)
    (hchanged : ¬ offer.Has onHand allocationPriority routingGroup) (hlast : offer.version < 2 ^ 31 - 1) :
    ∃ offers : Table ProductOfferModel.identity,
      setLevel productId providerId onHand allocationPriority routingGroup s =
        .ok { offer with onHand, allocationPriority, routingGroup, version := offer.version + 1 }.toLevel
          { s with database := { s.database with offers } } ∧
      ∀ k, offers.find? k = if k = (productId, providerId) then
        some { offer with onHand, allocationPriority, routingGroup, version := offer.version + 1 }
        else s.database.offers.find? k := by
  have hassign := assign_updated honHand hpriority hwide hfound hchecks hfits hchanged
  rw [if_pos hlast] at hassign
  obtain ⟨offers, hupdate, hfind, -⟩ := updateOffer_some hassign
  refine ⟨offers, ?_, hfind⟩
  rw [setLevel_existing honHand hpriority hwide hfound hupdate ((hfind _).trans (if_pos rfl)),
    if_neg fun h => Option.some_ne_none _ h.1]

/-- A change of an offer that has no next version. -/
theorem setLevel_exhausted (hfound : s.database.offers.find? (productId, providerId) = some offer)
    (hchecks : offer.failedCheck = none) (hfits : offer.reserved ≤ onHand)
    (hchanged : ¬ offer.Has onHand allocationPriority routingGroup) (hlast : ¬ offer.version < 2 ^ 31 - 1) :
    setLevel productId providerId onHand allocationPriority routingGroup s =
      .error (.dataError "product_offers") s := by
  have hassign := assign_updated honHand hpriority hwide hfound hchecks hfits hchanged
  rw [if_neg hlast] at hassign
  rw [setLevel, proposedOffer_accepted honHand hpriority hwide, raiseIf_none_bind, readDatabase_bind,
    Table.insert?_eq_none hfound]
  dsimp only
  rw [bind_of_error (updateOffer_error hassign)]

end Encodable

/-- One call of `set_level`. -/
def setLevelTransaction (productId providerId : Uuid) (onHand allocationPriority : ℤ)
    (routingGroup : Option Uuid) (database : Database) : TransactionOutcome InventoryLevel :=
  databaseTransaction (setLevel productId providerId onHand allocationPriority routingGroup) database

theorem setLevelTransaction_ok {database after : Database} {level : InventoryLevel}
    (h : setLevel productId providerId onHand allocationPriority routingGroup (.start database) =
      .ok level (.start after)) :
    setLevelTransaction productId providerId onHand allocationPriority routingGroup database =
      ⟨.ok level, after, []⟩ :=
  databaseTransaction_of_ok h

theorem setLevelTransaction_error {database : Database} {failure : Failure}
    (h : setLevel productId providerId onHand allocationPriority routingGroup (.start database) =
      .error failure (.start database)) :
    setLevelTransaction productId providerId onHand allocationPriority routingGroup database =
      ⟨.error failure, database, []⟩ :=
  databaseTransaction_of_error h

/-- An offer that has the values is left alone. -/
theorem setLevelTransaction_same {database : Database} (honHand : 0 ≤ onHand)
    (hpriority : 0 ≤ allocationPriority) (hwide : onHand < 2 ^ 31 ∧ allocationPriority < 2 ^ 31)
    (hfound : database.offers.find? (productId, providerId) = some offer) (hfits : offer.reserved ≤ onHand)
    (hsame : offer.Has onHand allocationPriority routingGroup) :
    setLevelTransaction productId providerId onHand allocationPriority routingGroup database =
      ⟨.ok offer.toLevel, database, []⟩ :=
  setLevelTransaction_ok (setLevel_same (s := .start database) honHand hpriority hwide hfound hfits hsame)

/-- An assignment that the columns cannot hold fails. -/
theorem setLevelTransaction_unassignable {database : Database}
    (hchecks : ∀ offer ∈ database.offers, offer.failedCheck = none) (honHand : 0 ≤ onHand)
    (hpriority : 0 ≤ allocationPriority)
    (hlarge : ¬ database.Assignable productId providerId onHand allocationPriority routingGroup) :
    setLevelTransaction productId providerId onHand allocationPriority routingGroup database =
      ⟨.error (.dataError "product_offers"), database, []⟩ := by
  apply setLevelTransaction_error
  by_cases hwide : onHand < 2 ^ 31 ∧ allocationPriority < 2 ^ 31
  · obtain ⟨offer, hfound, hfits, hchanged, hlast⟩ : ∃ offer,
        database.offers.find? (productId, providerId) = some offer ∧ offer.reserved ≤ onHand ∧
          ¬ offer.Has onHand allocationPriority routingGroup ∧ ¬ offer.version < 2 ^ 31 - 1 := by
      by_contra hno
      refine hlarge ⟨hwide.1, hwide.2, fun offer hfound hfits hchanged => ?_⟩
      by_contra hlast
      exact hno ⟨offer, hfound, hfits, hchanged, hlast⟩
    exact setLevel_exhausted (s := .start database) honHand hpriority hwide hfound
      (hchecks offer (Table.mem_of_find? hfound)) hfits hchanged hlast
  · exact setLevel_unencodable routingGroup honHand hpriority hwide

/-- An assignment that is not refused takes effect, and a second one changes nothing. -/
theorem setLevelTransaction_assigned {database : Database}
    (hchecks : ∀ offer ∈ database.offers, offer.failedCheck = none) (honHand : 0 ≤ onHand)
    (hpriority : 0 ≤ allocationPriority) (hproduct : productId ∈ database.products)
    (hprovider : (database.providers.find? providerId).isSome)
    (hassignable : database.Assignable productId providerId onHand allocationPriority routingGroup)
    (hfits : ∀ offer, database.offers.find? (productId, providerId) = some offer → offer.reserved ≤ onHand) :
    ∃ level after,
      setLevelTransaction productId providerId onHand allocationPriority routingGroup database =
        ⟨.ok level, after, []⟩ ∧
      Assigned database after productId providerId onHand allocationPriority routingGroup level ∧
      setLevelTransaction productId providerId onHand allocationPriority routingGroup after =
        ⟨.ok level, after, []⟩ := by
  have hwide := And.intro hassignable.fitsOnHand hassignable.fitsPriority
  cases hfound : database.offers.find? (productId, providerId) with
  | none =>
    obtain ⟨offers, hset, hfind⟩ := setLevel_absent (s := .start database) honHand hpriority hwide routingGroup
      hfound hproduct hprovider
    have hself := hfind (productId, providerId)
    rw [if_pos rfl] at hself
    refine ⟨_, { database with offers }, setLevelTransaction_ok hset, ⟨⟨_, hself, ⟨rfl, rfl, rfl⟩, rfl, ?_, ?_⟩,
      fun k hk => ?_, rfl⟩, setLevelTransaction_same honHand hpriority hwide hself honHand ⟨rfl, rfl, rfl⟩⟩
    · exact fun _ => ⟨rfl, rfl⟩
    · intro old hold
      rw [hfound] at hold
      cases hold
    · exact (hfind k).trans (if_neg hk)
  | some offer =>
    by_cases hsame : offer.Has onHand allocationPriority routingGroup
    · have hset := setLevelTransaction_same honHand hpriority hwide hfound (hfits offer hfound) hsame
      refine ⟨offer.toLevel, database, hset, ⟨⟨offer, hfound, hsame, rfl, ?_, ?_⟩, fun _ _ => rfl, rfl⟩, hset⟩
      · intro hnone
        rw [hfound] at hnone
        cases hnone
      · intro old hold
        obtain rfl : offer = old := Option.some.inj (hfound.symm.trans hold)
        rw [if_pos hsame]
        exact ⟨rfl, rfl⟩
    · obtain ⟨offers, hset, hfind⟩ := setLevel_changed (s := .start database) honHand hpriority hwide hfound
        (hchecks offer (Table.mem_of_find? hfound)) (hfits offer hfound) hsame
        (hassignable.fitsVersion offer hfound (hfits offer hfound) hsame)
      have hself := hfind (productId, providerId)
      rw [if_pos rfl] at hself
      refine ⟨_, { database with offers }, setLevelTransaction_ok hset, ⟨⟨_, hself, ⟨rfl, rfl, rfl⟩, rfl, ?_, ?_⟩,
        fun k hk => ?_, rfl⟩,
        setLevelTransaction_same honHand hpriority hwide hself (hfits offer hfound) ⟨rfl, rfl, rfl⟩⟩
      · intro hnone
        rw [hfound] at hnone
        cases hnone
      · intro old hold
        obtain rfl : offer = old := Option.some.inj (hfound.symm.trans hold)
        rw [if_neg hsame]
        exact ⟨rfl, rfl⟩
      · exact (hfind k).trans (if_neg hk)

/-- An assignment that the columns cannot hold fails and changes nothing. Any other is refused exactly if the
offer exists with more units reserved than the assigned stock has, and then changes nothing either; otherwise
the offer is as it was asked for, and a second call with the same values finds nothing to change. -/
theorem set_level_assigns {database : Database}
    (hchecks : ∀ offer ∈ database.offers, offer.failedCheck = none)
    (hproduct : productId ∈ database.products) (hprovider : (database.providers.find? providerId).isSome)
    (honHand : 0 ≤ onHand) (hpriority : 0 ≤ allocationPriority) (routingGroup : Option Uuid) :
    (¬ database.Assignable productId providerId onHand allocationPriority routingGroup →
      setLevelTransaction productId providerId onHand allocationPriority routingGroup database =
        ⟨.error (.dataError "product_offers"), database, []⟩) ∧
    (database.Assignable productId providerId onHand allocationPriority routingGroup →
      (∀ reserved,
        (setLevelTransaction productId providerId onHand allocationPriority routingGroup database).result =
            .error (.inventoryBelowReserved productId providerId reserved) ↔
          ∃ offer, database.offers.find? (productId, providerId) = some offer ∧ offer.reserved = reserved ∧
            onHand < reserved) ∧
      ((∃ offer, database.offers.find? (productId, providerId) = some offer ∧ onHand < offer.reserved) →
        (setLevelTransaction productId providerId onHand allocationPriority routingGroup database).database =
          database) ∧
      ((¬ ∃ offer, database.offers.find? (productId, providerId) = some offer ∧ onHand < offer.reserved) →
        ∃ level after,
          setLevelTransaction productId providerId onHand allocationPriority routingGroup database =
            ⟨.ok level, after, []⟩ ∧
          Assigned database after productId providerId onHand allocationPriority routingGroup level ∧
          setLevelTransaction productId providerId onHand allocationPriority routingGroup after =
            ⟨.ok level, after, []⟩)) := by
  refine ⟨setLevelTransaction_unassignable hchecks honHand hpriority, fun hassignable => ?_⟩
  by_cases hbelow : ∃ offer, database.offers.find? (productId, providerId) = some offer ∧ onHand < offer.reserved
  · obtain ⟨offer, hfound, hlt⟩ := hbelow
    have hset : setLevelTransaction productId providerId onHand allocationPriority routingGroup database =
        ⟨.error (.inventoryBelowReserved productId providerId offer.reserved), database, []⟩ :=
      setLevelTransaction_error (setLevel_below (s := .start database) honHand hpriority
        ⟨hassignable.fitsOnHand, hassignable.fitsPriority⟩ hfound hlt)
    rw [hset]
    refine ⟨fun reserved => ⟨fun h => ?_, ?_⟩, fun _ => rfl, fun hno => absurd ⟨offer, hfound, hlt⟩ hno⟩
    · cases h
      exact ⟨offer, hfound, rfl, hlt⟩
    · rintro ⟨offer', hfound', rfl, -⟩
      rw [Option.some.inj (hfound.symm.trans hfound')]
  · have hfits : ∀ offer, database.offers.find? (productId, providerId) = some offer →
        offer.reserved ≤ onHand := fun offer hf => not_lt.mp fun hlt => hbelow ⟨offer, hf, hlt⟩
    obtain ⟨level, after, hset, hassigned, hagain⟩ := setLevelTransaction_assigned
      hchecks honHand hpriority hproduct hprovider hassignable hfits
    refine ⟨fun reserved => ⟨fun h => ?_, ?_⟩, fun h => absurd h hbelow,
      fun _ => ⟨level, after, hset, hassigned, hagain⟩⟩
    · rw [hset] at h
      cases h
    · rintro ⟨offer, hf, rfl, hlt⟩
      exact absurd ⟨offer, hf, hlt⟩ hbelow

end Assignment

/-- More stock for a product of the warehouse. -/
theorem set_level_assigns_warehouse :
    ∃ level after,
      setLevelTransaction 1 10 8 50 (some 30) Deployment.database = ⟨.ok level, after, []⟩ ∧
      Assigned Deployment.database after 1 10 8 50 (some 30) level ∧
      setLevelTransaction 1 10 8 50 (some 30) after = ⟨.ok level, after, []⟩ := by
  have hassignable : Deployment.database.Assignable 1 10 8 50 (some 30) := by
    refine ⟨by decide, by decide, fun offer hfound _ _ => ?_⟩
    cases hfound
    decide
  have hassigns := @set_level_assigns 1 10 8 50 Deployment.database (by decide) (by decide) (by decide) (by decide)
    (by decide) (some 30)
  exact (hassigns.2 hassignable).2.2 (by decide)

/-- The stock is one above what its column holds: no units are reserved, and the assignment fails nevertheless. -/
theorem set_level_overflows :
    (∀ offer ∈ Deployment.database.offers, offer.failedCheck = none) ∧
      (¬ ∃ offer, Deployment.database.offers.find? (1, 10) = some offer ∧ 2147483648 < offer.reserved) ∧
      setLevelTransaction 1 10 2147483648 50 (some 30) Deployment.database =
        ⟨.error (.dataError "product_offers"), Deployment.database, []⟩ :=
  ⟨by decide, by decide, rfl⟩

end InventoryReservation
