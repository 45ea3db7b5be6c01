import InventoryReservation.Concurrency.OfferWrites
import InventoryReservation.Meaning.OfferRows
import InventoryReservation.System.Deployment

/-! # No oversell from the guards alone

However the transactions that write offers interleave and abort, no version of an offer reserves more
than is on hand, and none goes below zero. The guards of the statements ensure it: the `CHECK`
constraints of the table play no part, and can therefore never refuse a row.
-/

namespace InventoryReservation
set_option autoImplicit false

open Relational RowLocking

/-! ## What each statement keeps -/

/-- The rows that the statement updates keep the property. -/
def OfferStatement.Preserves (statement : OfferStatement) (P : ProductOfferModel → Prop) : Prop :=
  ∀ offer offer', statement.apply offer = some offer' → P offer → P offer'

namespace OfferWrite
variable {P : ProductOfferModel → Prop}

/-- What a statement has to satisfy to keep a property of rows: its update does, and so does the row
it inserts. -/
def Preserves (P : ProductOfferModel → Prop) : OfferWrite → Prop
  | tryHold quantity => (OfferStatement.tryHold quantity).Preserves P
  | confirmHold quantity => (OfferStatement.confirmHold quantity).Preserves P
  | releaseHold quantity => (OfferStatement.releaseHold quantity).Preserves P
  | observe availableQuantity observedAt => (OfferStatement.observe availableQuantity observedAt).Preserves P
  | setLevel onHand allocationPriority routingGroup =>
    (OfferStatement.assign onHand allocationPriority routingGroup).Preserves P ∧
      ∀ productId providerId, P (proposedOffer productId providerId onHand allocationPriority routingGroup)
  | removeLevel => True

theorem respects_update {write : OfferWrite} {statement : OfferStatement} (h : statement.Preserves P)
    (heffect : ∀ k row, write.effect k row = (row.bind statement.apply).map some) :
    Store.Respects effect (fun _ row => ∀ offer ∈ row, P offer) write := by
  intro k before after ha hbefore row hrow
  rw [heffect] at ha
  obtain ⟨offer', hb, rfl⟩ := Option.map_eq_some_iff.mp ha
  obtain ⟨offer, hoffer, happly⟩ := Option.bind_eq_some_iff.mp hb
  obtain rfl : offer' = row := Option.some.inj hrow
  exact h offer offer' happly (hbefore offer hoffer)

theorem Preserves.respects {write : OfferWrite} (h : write.Preserves P) :
    Store.Respects effect (fun _ row => ∀ offer ∈ row, P offer) write := by
  cases write with
  | tryHold quantity => exact respects_update h fun _ _ => rfl
  | confirmHold quantity => exact respects_update h fun _ _ => rfl
  | releaseHold quantity => exact respects_update h fun _ _ => rfl
  | observe availableQuantity observedAt => exact respects_update h fun _ _ => rfl
  | setLevel onHand allocationPriority routingGroup =>
    obtain ⟨hassign, hproposed⟩ := h
    intro k before after ha hbefore row hrow
    cases before with
    | none =>
      obtain rfl : some (proposedOffer k.1 k.2 onHand allocationPriority routingGroup) = after :=
        Option.some.inj ha
      obtain rfl : _ = row := Option.some.inj hrow
      exact hproposed k.1 k.2
    | some offer =>
      obtain ⟨offer', happly, rfl⟩ := Option.map_eq_some_iff.mp ha
      obtain rfl : offer' = row := Option.some.inj hrow
      exact hassign offer offer' happly (hbefore offer rfl)
  | removeLevel =>
    intro k before after ha _ row hrow
    obtain ⟨offer, -, hdelete⟩ := Option.bind_eq_some_iff.mp ha
    obtain ⟨-, ⟨⟩⟩ := Option.ite_none_right_eq_some.mp hdelete
    cases hrow

/-- The guards keep the reserved units within what is on hand. -/
theorem Bounded.preserves {write : OfferWrite} (h : write.Bounded) :
    write.Preserves ProductOfferModel.InRange := by
  cases write with
  | tryHold quantity =>
    have hq : 0 < quantity := h
    intro offer offer' happly ⟨hreserved, honHand⟩
    obtain ⟨hguard, ⟨⟩⟩ := Option.ite_none_right_eq_some.mp happly
    constructor <;> dsimp only <;> omega
  | confirmHold quantity =>
    intro offer offer' happly ⟨hreserved, honHand⟩
    obtain ⟨hguard, ⟨⟩⟩ := Option.ite_none_right_eq_some.mp happly
    constructor <;> dsimp only <;> omega
  | releaseHold quantity =>
    have hq : 0 < quantity := h
    intro offer offer' happly ⟨hreserved, honHand⟩
    obtain ⟨hguard, ⟨⟩⟩ := Option.ite_none_right_eq_some.mp happly
    constructor <;> dsimp only <;> omega
  | observe availableQuantity observedAt =>
    intro offer offer' happly ⟨hreserved, honHand⟩
    cases happly
    constructor <;> dsimp only <;> omega
  | setLevel onHand allocationPriority routingGroup =>
    have honHand : 0 ≤ onHand := h
    refine ⟨fun offer offer' happly hrange => ?_, fun _ _ => ⟨le_rfl, honHand⟩⟩
    obtain ⟨hguard, ⟨⟩⟩ := Option.ite_none_right_eq_some.mp happly
    exact ⟨hrange.reserved, hguard.1⟩
  | removeLevel => trivial

theorem Prioritized.preserves {write : OfferWrite} (h : write.Prioritized) :
    write.Preserves ProductOfferModel.Ranked := by
  cases write with
  | tryHold quantity =>
    intro offer offer' happly ⟨hversion, hpriority⟩
    obtain ⟨-, ⟨⟩⟩ := Option.ite_none_right_eq_some.mp happly
    exact ⟨by dsimp only; omega, hpriority⟩
  | confirmHold quantity =>
    intro offer offer' happly ⟨hversion, hpriority⟩
    obtain ⟨-, ⟨⟩⟩ := Option.ite_none_right_eq_some.mp happly
    exact ⟨by dsimp only; omega, hpriority⟩
  | releaseHold quantity =>
    intro offer offer' happly ⟨hversion, hpriority⟩
    obtain ⟨-, ⟨⟩⟩ := Option.ite_none_right_eq_some.mp happly
    exact ⟨by dsimp only; omega, hpriority⟩
  | observe availableQuantity observedAt =>
    intro offer offer' happly ⟨hversion, hpriority⟩
    cases happly
    exact ⟨by dsimp only; omega, hpriority⟩
  | setLevel onHand allocationPriority routingGroup =>
    refine ⟨fun offer offer' happly hranked => ?_, fun _ _ => ⟨le_rfl, h⟩⟩
    obtain ⟨-, ⟨⟩⟩ := Option.ite_none_right_eq_some.mp happly
    exact ⟨by dsimp only; have := hranked.version; omega, h⟩
  | removeLevel => trivial

end OfferWrite

/-! ## Interleavings -/

section Interleavings
variable {τ : Type} [DecidableEq τ]

/-- The offers after an interleaving of transactions, from a table that no transaction is using. -/
def interleave (offers : Table ProductOfferModel.identity) (moves : List (RowLocking.Move OfferKey τ OfferWrite)) :
    Store OfferKey τ ProductOfferModel :=
  Runs.run (Store.step OfferWrite.effect) (Store.of offers.find?) moves

variable {offers : Table ProductOfferModel.identity} {moves : List (RowLocking.Move OfferKey τ OfferWrite)}

theorem interleave_all {P : ProductOfferModel → Prop} (hoffers : ∀ offer ∈ offers, P offer)
    (hmoves : ∀ move ∈ moves, move.Satisfies (OfferWrite.Preserves P)) :
    (interleave offers moves).All fun _ row => ∀ offer ∈ row, P offer := by
  apply Store.run_all
  · exact Store.All.of fun k offer hf => hoffers offer (Table.mem_of_find? hf)
  · intro move hm
    exact (hmoves move hm).mono fun _ h => h.respects

/-- The units asked for are there. -/
def Available (row : Option ProductOfferModel) (quantity : ℤ) : Prop :=
  ∃ offer ∈ row, quantity ≤ offer.onHand - offer.reserved

theorem available_iff {row : Option ProductOfferModel} {quantity : ℤ} :
    Available row quantity ↔ ∃ offer', row.bind (OfferStatement.tryHold quantity).apply = some offer' := by
  constructor
  · rintro ⟨offer, hrow, hguard⟩
    obtain rfl : row = some offer := hrow
    exact ⟨_, if_pos hguard⟩
  · rintro ⟨offer', hb⟩
    obtain ⟨offer, hrow, happly⟩ := Option.bind_eq_some_iff.mp hb
    exact ⟨offer, hrow, (Option.ite_none_right_eq_some.mp happly).1⟩

theorem tryHold_effect_iff {k : OfferKey} {row : Option ProductOfferModel} {quantity : ℤ} :
    (∃ row', (OfferWrite.tryHold quantity).effect k row = some row') ↔ Available row quantity := by
  rw [available_iff]
  constructor
  · rintro ⟨row', h⟩
    obtain ⟨offer', hb, -⟩ := Option.map_eq_some_iff.mp h
    exact ⟨offer', hb⟩
  · rintro ⟨offer', hb⟩
    exact ⟨some offer', congrArg (Option.map some) hb⟩

/-- Where no constraint refuses the row, a hold that fits the columns returns, and it returns a snapshot just
when the units are there. -/
theorem tryHold_answers {k : OfferKey} {quantity : ℤ} {session : Session} (hq : 0 < quantity)
    (h : ∀ offer ∈ session.database.offers.find? k, offer.violation = none)
    (hholdable : Holdable (session.database.offers.find? k) quantity) :
    ∃ answer session', tryHold k.1 k.2 quantity session = .ok answer session' ∧
      (answer.isSome ↔ Available (session.database.offers.find? k) quantity) := by
  have hupdated := Database.updated_tryHold hq h hholdable
  unfold tryHold
  cases hb : (session.database.offers.find? k).bind (OfferStatement.tryHold quantity).apply with
  | none =>
    rw [hb] at hupdated
    refine ⟨none, session, updateOffer_none hupdated, ?_⟩
    rw [available_iff, hb]
    simp
  | some offer' =>
    rw [hb] at hupdated
    obtain ⟨offers, hupdate, -⟩ := updateOffer_some hupdated
    refine ⟨_, _, hupdate, ?_⟩
    rw [available_iff, hb]
    simp

/-- What holds of the offers after an interleaving, whatever has committed or aborted by then. -/
structure NoOversell (offers : Table ProductOfferModel.identity)
    (moves : List (RowLocking.Move OfferKey τ OfferWrite)) : Prop where
  inRange : (interleave offers moves).All fun _ row => ∀ offer ∈ row, offer.InRange
  granted : ∀ k quantity, (∃ row, (OfferWrite.tryHold quantity).effect k (interleave offers moves k).latest =
    some row) ↔ Available (interleave offers moves k).latest quantity
  /-- No constraint of the table refuses a row, when none refuses an initial row. -/
  unchecked : (∀ offer ∈ offers, offer.failedCheck = none) →
    (∀ move ∈ moves, move.Satisfies OfferWrite.Prioritized) →
      (interleave offers moves).All fun _ row => ∀ offer ∈ row, offer.failedCheck = none
  /-- The query itself then answers by the latest version of the row, when the columns are wide enough. -/
  answers : (∀ offer ∈ offers, offer.failedCheck = none) →
    (∀ move ∈ moves, move.Satisfies OfferWrite.Prioritized) → ∀ k quantity (session : Session), 0 < quantity →
      session.database.offers.find? k = (interleave offers moves k).latest →
        (∀ offer ∈ (interleave offers moves k).latest, offer.FitsColumns) →
          Holdable (interleave offers moves k).latest quantity →
            ∃ answer session', tryHold k.1 k.2 quantity session = .ok answer session' ∧
              (answer.isSome ↔ Available (interleave offers moves k).latest quantity)
  /-- It raises when they are not. -/
  overflows : ∀ k quantity (session : Session),
    session.database.offers.find? k = (interleave offers moves k).latest →
      ¬ Holdable (interleave offers moves k).latest quantity →
        tryHold k.1 k.2 quantity session = .error (.dataError "product_offers") session

/-- The guards prevent overselling in every interleaving of transactions that commit and abort. -/
theorem interleave_no_oversell (hoffers : ∀ offer ∈ offers, offer.InRange)
    (hmoves : ∀ move ∈ moves, move.Satisfies OfferWrite.Bounded) : NoOversell offers moves := by
  have hinRange : (interleave offers moves).All fun _ row => ∀ offer ∈ row, offer.InRange :=
    interleave_all hoffers fun move hm => (hmoves move hm).mono fun _ h => h.preserves
  have hunchecked : (∀ offer ∈ offers, offer.failedCheck = none) →
      (∀ move ∈ moves, move.Satisfies OfferWrite.Prioritized) →
        (interleave offers moves).All fun _ row => ∀ offer ∈ row, offer.failedCheck = none := by
    intro hchecks hprioritized
    have hranked : (interleave offers moves).All fun _ row => ∀ offer ∈ row, offer.Ranked :=
      interleave_all (fun offer ho => (ProductOfferModel.failedCheck_eq_none_iff.mp (hchecks offer ho)).2)
        fun move hm => (hprioritized move hm).mono fun _ h => h.preserves
    intro k
    exact (hinRange k).and (hranked k) fun _ hrange hrank offer ho =>
      ProductOfferModel.failedCheck_eq_none_iff.mpr ⟨hrange offer ho, hrank offer ho⟩
  refine ⟨hinRange, fun _ _ => tryHold_effect_iff, hunchecked, ?_, ?_⟩
  · intro hchecks hprioritized k quantity session hq hrow hfits hholdable
    rw [← hrow] at hfits hholdable ⊢
    refine tryHold_answers hq (fun offer ho => ?_) hholdable
    refine ProductOfferModel.violation_eq_none_iff.mpr
      ⟨hfits offer ho, ProductOfferModel.failedCheck_eq_none_iff.mp ?_⟩
    rw [hrow] at ho
    exact (hunchecked hchecks hprioritized k).latest offer ho
  · intro k quantity session hrow hholdable
    rw [← hrow] at hholdable
    exact updateOffer_error (Database.updated_tryHold_overflows hholdable)

/-- A hold that waits, goes on when the first one is undone, and leaves too little for a third. -/
theorem contended_no_oversell : NoOversell (τ := ℕ)
    ⟨[{ productId := 1, providerId := 2, onHand := 10, reserved := 0, allocationPriority := 0,
        routingGroup := none, version := 1, observedAt := none }], List.nodup_singleton _⟩
    [.execute 0 (1, 2) (.tryHold 6), .execute 1 (1, 2) (.tryHold 6), .abort 0, .execute 1 (1, 2) (.tryHold 6),
      .execute 2 (1, 2) (.setLevel 3 0 none), .commit 1, .execute 2 (1, 2) (.observe 2 none),
      .execute 2 (1, 2) (.tryHold 6)] :=
  interleave_no_oversell (by decide) (by decide)

/-- The version is the last that its column holds: the units are there, and the hold fails nevertheless. -/
theorem last_version_refuses_hold :
    let offers : Table ProductOfferModel.identity :=
      ⟨[{ Deployment.stocked 1 10 with version := 2147483647 }], List.nodup_singleton _⟩
    (∀ offer ∈ offers, offer.InRange ∧ offer.violation = none) ∧
      Available (interleave (τ := ℕ) offers [] (1, 10)).latest 1 ∧
      tryHold 1 10 1 (.start { Deployment.database with offers }) =
        .error (.dataError "product_offers") (.start { Deployment.database with offers }) :=
  ⟨by decide, ⟨_, rfl, by decide⟩, rfl⟩

end Interleavings
end InventoryReservation
