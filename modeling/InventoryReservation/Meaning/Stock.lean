import InventoryReservation.Meaning.Refinement
import InventoryReservation.Meaning.Routing

/-! # Reserved and held units

`heldAt` adds up the held allocations of a product at a provider. A transaction conserves stock when
the reserved units of every internal offer move with the held units, and those of every external offer
do not move at all.
-/

namespace InventoryReservation
set_option autoImplicit false

open Relational

/-- The allocation holds units of the product and provider `k`. -/
def Database.holdsAt (database : Database) (k : Uuid × Uuid) (allocation : InventoryAllocationModel) :
    Prop :=
  allocation.status = .held ∧ allocation.providerId = k.2 ∧
    (database.items.find? allocation.reservationItemId).map ReservationItemModel.productId = some k.1

instance (database : Database) (k : Uuid × Uuid) (allocation : InventoryAllocationModel) :
    Decidable (database.holdsAt k allocation) :=
  inferInstanceAs (Decidable (_ ∧ _))

/-- The units an allocation holds of `k`. -/
def Database.unitsHeld (database : Database) (k : Uuid × Uuid) (allocation : InventoryAllocationModel) :
    ℤ :=
  if database.holdsAt k allocation then allocation.quantity.units else 0

theorem Database.holdsAt_iff {database : Database} {item : ReservationItemModel}
    {allocation : InventoryAllocationModel}
    (hi : database.items.find? allocation.reservationItemId = some item) (k : Uuid × Uuid)
    (status : AllocationStatus) :
    database.holdsAt k { allocation with status } ↔
      status = .held ∧ k = (item.productId, allocation.providerId) := by
  unfold holdsAt
  rw [hi, Option.map_some, Option.some.injEq, Prod.ext_iff, eq_comm (a := k.1), eq_comm (a := k.2),
    and_comm (a := item.productId = k.1)]

theorem Database.unitsHeld_congr {database database' : Database} {allocation : InventoryAllocationModel}
    (h : database'.items.find? allocation.reservationItemId =
      database.items.find? allocation.reservationItemId) (k : Uuid × Uuid) :
    database'.unitsHeld k allocation = database.unitsHeld k allocation := by
  have hholds : database'.holdsAt k allocation ↔ database.holdsAt k allocation := by
    unfold holdsAt
    rw [h]
  exact if_congr hholds rfl rfl

/-- The units all allocations together hold of `k`. -/
def Database.heldAt (database : Database) (k : Uuid × Uuid) : ℤ :=
  database.allocations.total (database.unitsHeld k)

/-- Reserved and held units of internal offers move together; external offers reserve nothing new. -/
structure Conserves (s t : Database) : Prop where
  providers : t.providers = s.providers
  internal : ∀ k provider, s.providers.find? k.2 = some provider → provider.kind = .internal →
    t.reservedAt k - s.reservedAt k = t.heldAt k - s.heldAt k
  external : ∀ k provider, s.providers.find? k.2 = some provider → provider.kind = .external →
    t.reservedAt k = s.reservedAt k

theorem Conserves.refl (s : Database) : Conserves s s where
  providers := rfl
  internal _ _ _ _ := by rw [sub_self, sub_self]
  external _ _ _ _ := rfl

theorem Conserves.trans {s t u : Database} (h : Conserves s t) (h' : Conserves t u) : Conserves s u where
  providers := h'.providers.trans h.providers
  internal k provider hp hk := by
    have h1 := h.internal k provider hp hk
    have h2 := h'.internal k provider (h.providers ▸ hp) hk
    omega
  external k provider hp hk :=
    (h'.external k provider (h.providers ▸ hp) hk).trans (h.external k provider hp hk)

/-! ## Walks -/

namespace Settlement
variable {ω : Type} [DecidableEq ω] {S : Settlement ω} {environment : Environment}
  {context : ProviderOperationContext} {rows : List AllocationRow} {s t : Session}

theorem PassEffect.reservedAt (h : S.PassEffect environment context rows s t) (k : Uuid × Uuid) :
    t.database.reservedAt k = s.database.reservedAt k - S.drawn k rows := by
  unfold Database.reservedAt
  rw [h.offers, Option.map_map]
  cases ho : s.database.offers.find? k with
  | some offer => rfl
  | none =>
    have hzero : S.drawn k rows = 0 := by
      apply drawn_of_idle
      rintro row hrow ⟨hd, rfl⟩
      have hoffered := h.offered row hrow hd
      rw [ho] at hoffered
      cases hoffered
    rw [hzero]
    rfl

omit [DecidableEq ω] in
theorem drawn_eq_total {database : Database} {r : Uuid} (hrows : rows.Perm (database.allocationRows r))
    (k : Uuid × Uuid) :
    S.drawn k rows = database.allocations.total fun allocation =>
      ((database.joinAllocation r allocation).map fun row =>
        if S.drawsAt k row then row.allocation.quantity.units else 0).getD 0 := by
  unfold drawn
  rw [(hrows.map _).sum_eq]
  exact Table.total_filterMap _ _ _

omit [DecidableEq ω] in
/-- An allocation the walk does not see keeps its status. -/
theorem relabel_of_none {database : Database} {r : Uuid}
    (hrows : rows.Perm (database.allocationRows r)) {allocation : InventoryAllocationModel}
    (ha : allocation ∈ database.allocations) (h : database.joinAllocation r allocation = none) :
    S.relabel environment context database rows allocation = allocation := by
  unfold relabel
  cases hf : rows.find? (fun row => row.allocation.id = allocation.id) with
  | none => rfl
  | some row =>
    have hid : row.allocation.id = allocation.id := by simpa using List.find?_some hf
    obtain ⟨ha', hj⟩ := Database.mem_allocationRows.mp (hrows.mem_iff.mp (List.mem_of_find?_eq_some hf))
    rw [Table.eq_of_key_eq ha' ha hid, h] at hj
    cases hj

omit [DecidableEq ω] in
/-- Held units of one allocation before and after a walk that draws only where units are held. -/
theorem unitsHeld_relabel (hS : S.Lawful) {database : Database} {r : Uuid}
    (hrows : rows.Perm (database.allocationRows r))
    (hheld : ∀ row ∈ rows, S.draws row → row.allocation.status = .held)
    {k : Uuid × Uuid} {provider : InventoryProviderModel}
    (hp : database.providers.find? k.2 = some provider) (hk : provider.kind = .internal)
    {allocation : InventoryAllocationModel} (ha : allocation ∈ database.allocations) :
    database.unitsHeld k (S.relabel environment context database rows allocation) =
      database.unitsHeld k allocation -
        ((database.joinAllocation r allocation).map fun row =>
          if S.drawsAt k row then row.allocation.quantity.units else 0).getD 0 := by
  cases hj : database.joinAllocation r allocation with
  | none =>
    rw [relabel_of_none hrows ha hj]
    simp
  | some row =>
    obtain ⟨item, provider', hi, hp', -, rfl⟩ := Database.joinAllocation_eq_some_iff.mp hj
    have hmem : (⟨allocation, item.productId, provider'⟩ : AllocationRow) ∈ database.allocationRows r :=
      Database.mem_allocationRows.mpr ⟨ha, hj⟩
    rw [relabel_of_mem hrows hmem, Option.map_some, Option.getD_some]
    have hholds : ∀ status, database.holdsAt k { allocation with status } ↔
        status = .held ∧ k = (item.productId, allocation.providerId) := Database.holdsAt_iff hi k
    by_cases hkk : k = (item.productId, allocation.providerId)
    · have hsame : provider' = provider := by
        rw [hkk] at hp
        exact Option.some.inj (hp'.symm.trans hp)
      have hinternal : provider'.kind = .internal := hsame ▸ hk
      have hstatus : S.allocationStatus (S.outcome environment context
          (database.view context.reservationId ⟨allocation, item.productId, provider'⟩)) ≠ .held := by
        rw [outcome_of_internal hinternal, hS.status_settled]
        exact hS.settledStatus_ne_held
      have hafter : database.unitsHeld k { allocation with
          status := S.allocationStatus (S.outcome environment context
            (database.view context.reservationId ⟨allocation, item.productId, provider'⟩)) } = 0 :=
        if_neg fun h => hstatus ((hholds _).mp h).1
      rw [hafter]
      by_cases hpass : S.passes ⟨allocation, item.productId, provider'⟩
      · have hne : allocation.status ≠ .held := fun h => hS.settledStatus_ne_held (hpass.symm.trans h)
        have hbefore : database.unitsHeld k allocation = 0 :=
          if_neg fun h => hne ((hholds allocation.status).mp h).1
        have hdraws : ¬ S.drawsAt k ⟨allocation, item.productId, provider'⟩ := fun h => h.1.1 hpass
        rw [hbefore, if_neg hdraws, sub_zero]
      · have hdraws : S.draws ⟨allocation, item.productId, provider'⟩ := ⟨hpass, hinternal⟩
        have hstatus' := hheld _ (hrows.mem_iff.mpr hmem) hdraws
        have hbefore : database.unitsHeld k allocation = allocation.quantity.units :=
          if_pos ((hholds allocation.status).mpr ⟨hstatus', hkk⟩)
        have hdrawsAt : S.drawsAt k ⟨allocation, item.productId, provider'⟩ := ⟨hdraws, hkk⟩
        rw [hbefore, if_pos hdrawsAt, sub_self]
    · have hnone : ∀ status, database.unitsHeld k { allocation with status } = 0 :=
        fun status => if_neg fun h => hkk ((hholds status).mp h).2
      have hdraws : ¬ S.drawsAt k ⟨allocation, item.productId, provider'⟩ := fun h => hkk h.2
      rw [hnone, if_neg hdraws, sub_zero]
      exact (hnone allocation.status).symm

/-- A walk that draws only where units are held conserves stock. -/
theorem PassEffect.conserves (hS : S.Lawful) (h : S.PassEffect environment context rows s t) {r : Uuid}
    (hrows : rows.Perm (s.database.allocationRows r))
    (hheld : ∀ row ∈ rows, S.draws row → row.allocation.status = .held) :
    Conserves s.database t.database where
  providers := h.providers
  internal k provider hp hk := by
    have hunits : t.database.heldAt k = s.database.heldAt k - S.drawn k rows := by
      have hfun : t.database.unitsHeld k = s.database.unitsHeld k :=
        funext fun _ => Database.unitsHeld_congr (by rw [h.items]) k
      rw [Database.heldAt, hfun, h.allocations, Table.total_mapRows, drawn_eq_total hrows,
        Database.heldAt, ← Table.total_sub]
      apply Table.total_congr
      intro allocation ha
      exact unitsHeld_relabel hS hrows hheld hp hk ha
    rw [h.reservedAt, hunits]
    omega
  external k provider hp hk := by
    have hzero : S.drawn k rows = 0 := by
      apply drawn_of_idle
      rintro row hrow ⟨hd, rfl⟩
      obtain ⟨-, hj⟩ := Database.mem_allocationRows.mp (hrows.mem_iff.mp hrow)
      obtain ⟨item, provider', -, hp', -, heq⟩ := Database.joinAllocation_eq_some_iff.mp hj
      have hprovider : row.provider = provider := by
        rw [heq]
        exact Option.some.inj (hp'.symm.trans hp)
      have := hd.2.symm.trans (hprovider ▸ hk)
      cases this
    rw [h.reservedAt, hzero, sub_zero]

end Settlement
end InventoryReservation
