import InventoryReservation.Foundations.RowLocking
import InventoryReservation.Meaning.HoldPlan
import InventoryReservation.Repository.InventoryManagement

/-! # The statements that write offers

Six statements write the offers table. `OfferWrite.effect` says what each makes of the row it addresses,
without the columns and the `CHECK` constraints of the table, so that transactions that interleave can be
described row by row; `performed` says that the queries do that to the offers of a database, unless a
value does not fit or a constraint refuses the row.
-/

namespace InventoryReservation
set_option autoImplicit false

open Relational Transactional RowLocking

/-- The product and the provider of an offer. -/
abbrev OfferKey := Uuid × Uuid

inductive OfferWrite where
  | tryHold (quantity : ℤ)
  | confirmHold (quantity : ℤ)
  | releaseHold (quantity : ℤ)
  | observe (availableQuantity : ℤ) (observedAt : Option Instant)
  | setLevel (onHand allocationPriority : ℤ) (routingGroup : Option Uuid)
  | removeLevel
  deriving DecidableEq

namespace OfferWrite

/-- The new version of the row, none when it is deleted; nothing where the statement changes no row. -/
def effect : OfferWrite → OfferKey → Option ProductOfferModel → Option (Option ProductOfferModel)
  | tryHold quantity, _, row => (row.bind (OfferStatement.tryHold quantity).apply).map some
  | confirmHold quantity, _, row => (row.bind (OfferStatement.confirmHold quantity).apply).map some
  | releaseHold quantity, _, row => (row.bind (OfferStatement.releaseHold quantity).apply).map some
  | observe availableQuantity observedAt, _, row =>
    (row.bind (OfferStatement.observe availableQuantity observedAt).apply).map some
  | setLevel onHand allocationPriority routingGroup, k, none =>
    some (some (proposedOffer k.1 k.2 onHand allocationPriority routingGroup))
  | setLevel onHand allocationPriority routingGroup, _, some offer =>
    ((OfferStatement.assign onHand allocationPriority routingGroup).apply offer).map some
  | removeLevel, _, row => row.bind fun offer => if offer.reserved = 0 then some none else none

/-- The query behind the statement. -/
def perform : OfferWrite → OfferKey → TransactionM Unit
  | tryHold quantity, k => do
    let _ ← InventoryReservation.tryHold k.1 k.2 quantity
    pure ()
  | confirmHold quantity, k => do
    let _ ← InventoryReservation.confirmHold k.1 k.2 quantity
    pure ()
  | releaseHold quantity, k => do
    let _ ← InventoryReservation.releaseHold k.1 k.2 quantity
    pure ()
  | observe availableQuantity observedAt, k =>
    observeAvailability k.1 k.2 ⟨.fresh, some availableQuantity, observedAt⟩
  | setLevel onHand allocationPriority routingGroup, k => do
    let _ ← InventoryReservation.setLevel k.1 k.2 onHand allocationPriority routingGroup
    pure ()
  | removeLevel, k => do
    let _ ← InventoryReservation.removeLevel k.1 k.2
    pure ()

/-- What the callers ensure of the quantities: those of holds are positive, those a level is set to or
a provider answers are not negative. -/
def Bounded : OfferWrite → Prop
  | tryHold quantity => 0 < quantity
  | confirmHold quantity => 0 < quantity
  | releaseHold quantity => 0 < quantity
  | observe availableQuantity _ => 0 ≤ availableQuantity
  | setLevel onHand _ _ => 0 ≤ onHand
  | removeLevel => True

instance : DecidablePred Bounded
  | tryHold quantity => inferInstanceAs (Decidable (0 < quantity))
  | confirmHold quantity => inferInstanceAs (Decidable (0 < quantity))
  | releaseHold quantity => inferInstanceAs (Decidable (0 < quantity))
  | observe availableQuantity _ => inferInstanceAs (Decidable (0 ≤ availableQuantity))
  | setLevel onHand _ _ => inferInstanceAs (Decidable (0 ≤ onHand))
  | removeLevel => isTrue trivial

/-- A level is set with a priority that is not negative, as the request schema has it. -/
def Prioritized : OfferWrite → Prop
  | setLevel _ allocationPriority _ => 0 ≤ allocationPriority
  | _ => True

/-- The driver can encode the parameters of the update. -/
def Encodable : OfferWrite → Prop
  | tryHold quantity => (OfferStatement.tryHold quantity).Encodable
  | confirmHold quantity => (OfferStatement.confirmHold quantity).Encodable
  | releaseHold quantity => (OfferStatement.releaseHold quantity).Encodable
  | observe availableQuantity observedAt => (OfferStatement.observe availableQuantity observedAt).Encodable
  | setLevel onHand allocationPriority routingGroup =>
    (OfferStatement.assign onHand allocationPriority routingGroup).Encodable
  | removeLevel => True

/-! ## The queries have these effects -/

/-- The rows whose constraints the database checks for the statement: the one it writes, and the one
an upsert proposes even where it goes on to update. -/
inductive Checks (write : OfferWrite) (k : OfferKey) (row : Option ProductOfferModel) :
    ProductOfferModel → Prop
  | written (offer : ProductOfferModel) (h : write.effect k row = some (some offer)) :
      Checks write k row offer
  | proposed (onHand allocationPriority : ℤ) (routingGroup : Option Uuid)
      (h : write = .setLevel onHand allocationPriority routingGroup) :
      Checks write k row (proposedOffer k.1 k.2 onHand allocationPriority routingGroup)

/-- How a query ends: it changed the row as the effect says and no other row; or it raised and
changed nothing, because it addressed no row to change, or because a value or a row was refused. -/
inductive Performed (write : OfferWrite) (k : OfferKey) (s : Session) :
    EStateM.Result Failure Session Unit → Prop
  | returned (offers : Table ProductOfferModel.identity)
      (hrow : offers.find? k = (write.effect k (s.database.offers.find? k)).getD (s.database.offers.find? k))
      (hothers : ∀ k', k' ≠ k → offers.find? k' = s.database.offers.find? k') :
      Performed write k s (.ok () { s with database := { s.database with offers } })
  | refused (failure : Failure) (h : write.effect k (s.database.offers.find? k) = none) :
      Performed write k s (.error failure s)
  | unencodable (failure : Failure) (h : ¬ write.Encodable) : Performed write k s (.error failure s)
  | violated (failure : Failure) (offer : ProductOfferModel)
      (hchecked : write.Checks k (s.database.offers.find? k) offer)
      (hviolation : offer.violation = some failure) : Performed write k s (.error failure s)
  | unreferenced (failure : Failure) (h : s.database.offerReferences k.1 k.2 = some failure) :
      Performed write k s (.error failure s)

section Queries
variable {write : OfferWrite} {k : OfferKey} {s : Session}

/-- A query that found nothing to change and returned. -/
theorem Performed.unchanged (h : write.effect k (s.database.offers.find? k) = none) :
    Performed write k s (.ok () s) := by
  refine .returned s.database.offers ?_ fun _ _ => rfl
  rw [h]
  rfl

/-- A guarded update of one row. -/
theorem performed_update {statement : OfferStatement} (hencodable : write.Encodable → statement.Encodable)
    (heffect : ∀ row, write.effect k row = (row.bind statement.apply).map some) :
    Performed write k s ((do
      let _ ← updateOffer statement k.1 k.2
      pure () : TransactionM Unit) s) := by
  cases hu : s.database.updated statement k with
  | error failure =>
    rw [bind_of_error (updateOffer_error hu)]
    rcases Database.updated_error_iff.mp hu with hencoding | ⟨-, offer, hb, hv⟩
    · refine .unencodable failure fun h => ?_
      rw [OfferStatement.encodingFailure_eq_none_iff.mpr (hencodable h)] at hencoding
      cases hencoding
    · refine .violated failure offer (.written offer ?_) hv
      rw [heffect, hb]
      rfl
  | ok row =>
    cases row with
    | none =>
      rw [bind_of_ok (updateOffer_none hu)]
      apply Performed.unchanged
      rw [heffect, (Database.updated_none_iff.mp hu).2]
      rfl
    | some offer =>
      obtain ⟨offers, hupdate, hfind, -⟩ := updateOffer_some hu
      rw [bind_of_ok hupdate]
      refine .returned offers ?_ fun k' hne => ?_
      · rw [heffect, (Database.updated_some_iff.mp hu).2.1, hfind, if_pos rfl]
        rfl
      · rw [hfind, if_neg hne]

section Level
variable {onHand allocationPriority : ℤ} {routingGroup : Option Uuid}

/-- An upsert that finds no row. -/
theorem performed_insert {offers : Table ProductOfferModel.identity}
    (hv : (proposedOffer k.1 k.2 onHand allocationPriority routingGroup).violation = none)
    (hi : s.database.offers.insert? (proposedOffer k.1 k.2 onHand allocationPriority routingGroup) =
      some offers) :
    Performed (.setLevel onHand allocationPriority routingGroup) k s ((do
      let _ ← InventoryReservation.setLevel k.1 k.2 onHand allocationPriority routingGroup
      pure () : TransactionM Unit) s) := by
  have hfree : s.database.offers.find? k = none := (Table.insert?_eq_some_iff.mp hi).1
  have hfind := Table.find?_insert? hi
  cases href : s.database.offerReferences k.1 k.2 with
  | some failure =>
    have hset : InventoryReservation.setLevel k.1 k.2 onHand allocationPriority routingGroup s =
        .error failure s := by
      rw [InventoryReservation.setLevel, hv, raiseIf_none_bind, readDatabase_bind, hi]
      dsimp only
      rw [href]
      rfl
    rw [bind_of_error hset]
    exact .unreferenced failure href
  | none =>
    have hset : InventoryReservation.setLevel k.1 k.2 onHand allocationPriority routingGroup s =
        .ok (proposedOffer k.1 k.2 onHand allocationPriority routingGroup).toLevel
          { s with database := { s.database with offers } } := by
      rw [InventoryReservation.setLevel, hv, raiseIf_none_bind, readDatabase_bind, hi]
      dsimp only
      rw [href]
      rfl
    rw [bind_of_ok hset]
    refine .returned offers ?_ fun k' hne => ?_
    · rw [hfree]
      exact (hfind k).trans (if_pos rfl)
    · exact (hfind k').trans (if_neg hne)

/-- An upsert that finds a row. -/
theorem performed_assign {offer : ProductOfferModel}
    (hv : (proposedOffer k.1 k.2 onHand allocationPriority routingGroup).violation = none)
    (hf : s.database.offers.find? k = some offer) :
    Performed (.setLevel onHand allocationPriority routingGroup) k s ((do
      let _ ← InventoryReservation.setLevel k.1 k.2 onHand allocationPriority routingGroup
      pure () : TransactionM Unit) s) := by
  have heffect : (setLevel onHand allocationPriority routingGroup).effect k (some offer) =
      ((OfferStatement.assign onHand allocationPriority routingGroup).apply offer).map some := rfl
  have hi : s.database.offers.insert? (proposedOffer k.1 k.2 onHand allocationPriority routingGroup) =
      none := by
    cases hi : s.database.offers.insert? (proposedOffer k.1 k.2 onHand allocationPriority routingGroup) with
    | none => rfl
    | some offers => cases hf.symm.trans (Table.insert?_eq_some_iff.mp hi).1
  cases hu : s.database.updated (.assign onHand allocationPriority routingGroup) k with
  | error failure =>
    have hset : InventoryReservation.setLevel k.1 k.2 onHand allocationPriority routingGroup s =
        .error failure s := by
      rw [InventoryReservation.setLevel, hv, raiseIf_none_bind, readDatabase_bind, hi]
      exact bind_of_error (updateOffer_error hu)
    rw [bind_of_error hset]
    rcases Database.updated_error_iff.mp hu with hencoding | ⟨-, offer', hb, hviolation⟩
    · refine .unencodable failure fun h => ?_
      rw [OfferStatement.encodingFailure_eq_none_iff.mpr h] at hencoding
      cases hencoding
    · rw [hf, Option.bind_some] at hb
      refine .violated failure offer' (.written offer' ?_) hviolation
      rw [hf, heffect, hb]
      rfl
  | ok row =>
    cases row with
    | none =>
      have hb := (Database.updated_none_iff.mp hu).2
      rw [hf, Option.bind_some] at hb
      have hnone : (setLevel onHand allocationPriority routingGroup).effect k
          (s.database.offers.find? k) = none := by
        rw [hf, heffect, hb]
        rfl
      have hset : InventoryReservation.setLevel k.1 k.2 onHand allocationPriority routingGroup s =
          if onHand < offer.reserved then .error (.inventoryBelowReserved k.1 k.2 offer.reserved) s
          else .ok offer.toLevel s := by
        rw [InventoryReservation.setLevel, hv, raiseIf_none_bind, readDatabase_bind, hi]
        refine (bind_of_ok (updateOffer_none hu)).trans ?_
        have hf' : s.database.offers.find? (k.1, k.2) = some offer := hf
        rw [readDatabase_bind, hf']
        dsimp only
        split <;> rfl
      by_cases hbelow : onHand < offer.reserved
      · rw [if_pos hbelow] at hset
        rw [bind_of_error hset]
        exact .refused _ hnone
      · rw [if_neg hbelow] at hset
        rw [bind_of_ok hset]
        exact .unchanged hnone
    | some offer' =>
      obtain ⟨offers, hupdate, hfind, -⟩ := updateOffer_some hu
      have hb := (Database.updated_some_iff.mp hu).2.1
      rw [hf, Option.bind_some] at hb
      have hrow : offers.find? k = some offer' := (hfind k).trans (if_pos rfl)
      have hset : InventoryReservation.setLevel k.1 k.2 onHand allocationPriority routingGroup s =
          .ok offer'.toLevel { s with database := { s.database with offers } } := by
        rw [InventoryReservation.setLevel, hv, raiseIf_none_bind, readDatabase_bind, hi]
        refine (bind_of_ok hupdate).trans ?_
        rw [readDatabase_bind]
        dsimp only
        rw [hrow]
        rfl
      rw [bind_of_ok hset]
      refine .returned offers ?_ fun k' hne => ?_
      · rw [hrow, hf, heffect, hb]
        rfl
      · exact (hfind k').trans (if_neg hne)

theorem performed_setLevel (onHand allocationPriority : ℤ) (routingGroup : Option Uuid) :
    Performed (.setLevel onHand allocationPriority routingGroup) k s ((do
      let _ ← InventoryReservation.setLevel k.1 k.2 onHand allocationPriority routingGroup
      pure () : TransactionM Unit) s) := by
  cases hv : (proposedOffer k.1 k.2 onHand allocationPriority routingGroup).violation with
  | some failure =>
    have hset : InventoryReservation.setLevel k.1 k.2 onHand allocationPriority routingGroup s =
        .error failure s := by
      rw [InventoryReservation.setLevel, hv]
      rfl
    rw [bind_of_error hset]
    exact .violated failure _ (.proposed _ _ _ rfl) hv
  | none =>
    cases hf : s.database.offers.find? k with
    | none =>
      obtain ⟨offers, hi⟩ := Table.exists_insert? (t := s.database.offers)
        (r := proposedOffer k.1 k.2 onHand allocationPriority routingGroup) hf
      exact performed_insert hv hi
    | some offer => exact performed_assign hv hf

end Level

theorem performed_removeLevel :
    Performed .removeLevel k s ((do
      let _ ← InventoryReservation.removeLevel k.1 k.2
      pure () : TransactionM Unit) s) := by
  have heffect : ∀ row, removeLevel.effect k row =
      row.bind fun offer => if offer.reserved = 0 then some none else none := fun _ => rfl
  cases hd : s.database.offers.deleteReturning (k.1, k.2) (fun offer => offer.reserved = 0) with
  | some deleted =>
    obtain ⟨offer, offers⟩ := deleted
    obtain ⟨hf, hguard, -⟩ := Table.deleteReturning_eq_some_iff.mp hd
    have hfind := Table.find?_deleteReturning hd
    have hremove : InventoryReservation.removeLevel k.1 k.2 s =
        .ok true { s with database := { s.database with offers } } := by
      rw [InventoryReservation.removeLevel, readDatabase_bind, hd]
      rfl
    rw [bind_of_ok hremove]
    refine .returned offers ?_ fun k' hne => ?_
    · rw [hfind, if_pos rfl, heffect, hf, Option.bind_some, if_pos (of_decide_eq_true hguard)]
      rfl
    · rw [hfind, if_neg hne]
  | none =>
    cases hf : s.database.offers.find? k with
    | none =>
      have hremove : InventoryReservation.removeLevel k.1 k.2 s = .ok false s := by
        rw [InventoryReservation.removeLevel, readDatabase_bind, hd]
        dsimp only
        rw [hf]
        rfl
      rw [bind_of_ok hremove]
      apply Performed.unchanged
      rw [hf]
      rfl
    | some current =>
      have hremove : InventoryReservation.removeLevel k.1 k.2 s =
          .error (.inventoryHasActiveReservations k.1 k.2 current.reserved) s := by
        rw [InventoryReservation.removeLevel, readDatabase_bind, hd]
        dsimp only
        rw [hf]
        rfl
      rw [bind_of_error hremove]
      apply Performed.refused
      rw [hf, heffect, Option.bind_some]
      by_cases hreserved : current.reserved = 0
      · unfold Table.deleteReturning at hd
        rw [hf] at hd
        simp [hreserved] at hd
      · rw [if_neg hreserved]

/-- The queries have the effects of their statements. -/
theorem performed (write : OfferWrite) (k : OfferKey) (s : Session) :
    Performed write k s (write.perform k s) := by
  cases write with
  | tryHold quantity => exact performed_update id fun _ => rfl
  | confirmHold quantity => exact performed_update id fun _ => rfl
  | releaseHold quantity => exact performed_update id fun _ => rfl
  | observe availableQuantity observedAt => exact performed_update id fun _ => rfl
  | setLevel onHand allocationPriority routingGroup =>
    exact performed_setLevel onHand allocationPriority routingGroup
  | removeLevel => exact performed_removeLevel

end Queries
end OfferWrite
end InventoryReservation
