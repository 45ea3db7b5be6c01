import InventoryReservation.Meaning.Commit
import InventoryReservation.System.Deployment
import Mathlib.Algebra.Group.Prod

/-! # Batches are all or nothing

A worker processes its batch in one transaction. Where processing one reservation raises, nothing of
the batch is committed; where the batch returns, each reservation ends as it does in the batch without
any other one, and each takes units of its own out of the offers.
-/

namespace InventoryReservation
set_option autoImplicit false

open Relational Transactional

/-! ## Shares of the stock -/

/-- Physical and reserved units of an offer. -/
def Database.stockAt (database : Database) (k : Uuid × Uuid) : Option (ℤ × ℤ) :=
  (database.offers.find? k).map fun offer => (offer.onHand, offer.reserved)

/-- The physical and reserved units that leave an offer with units settled in this way. -/
def SettlementKind.share (kind : SettlementKind) (units : ℤ) : ℤ × ℤ :=
  (if kind.consumes then units else 0, units)

/-- What a pass over this aggregate takes out of the offer `k`. -/
def Pass.share (k : Uuid × Uuid) (aggregate : Aggregate) : Pass → ℤ × ℤ
  | confirm _ => confirmation.kind.share
      (confirmation.drawn k (aggregate.allocations.map AllocationView.toAllocationRow))
  | release _ _ => releasing.kind.share
      (releasing.drawn k (aggregate.allocations.map AllocationView.toAllocationRow))

/-- What a walk over its reservation, as stored here, takes out of the offer `k`. -/
def Database.share (database : Database) (k : Uuid × Uuid) (walk : Walk) : ℤ × ℤ :=
  ((database.aggregate? walk.reservation.id).map fun aggregate => walk.pass.share k aggregate).getD 0

/-- What walks together take out of the offer `k`. -/
def Database.shares (database : Database) (k : Uuid × Uuid) (walks : List Walk) : ℤ × ℤ :=
  (walks.map (database.share k)).sum

theorem ProductOfferModel.stock_draw (kind : SettlementKind) (units : ℤ) (times : ℕ)
    (offer : ProductOfferModel) :
    ((offer.draw kind.consumes units times).onHand, (offer.draw kind.consumes units times).reserved) =
      (offer.onHand, offer.reserved) - kind.share units := by
  cases kind <;> simp [draw, SettlementKind.share, SettlementKind.consumes]

section Stock
variable {environment : Environment} {walk : Walk} {walks : List Walk} {s t : Session} {k : Uuid × Uuid}

theorem WalkEffect.stockAt {ω : Type} [DecidableEq ω] {S : Settlement ω} {context : ProviderOperationContext}
    {write : ReservationModel → ReservationModel} (h : WalkEffect S environment context write s t)
    (k : Uuid × Uuid) :
    t.database.stockAt k = (s.database.stockAt k).map
      (· - S.kind.share (S.drawn k (s.database.allocationRows context.reservationId))) := by
  obtain ⟨rows, hperm, hpass⟩ := h.walk
  have hdrawn : S.drawn k rows = S.drawn k (s.database.allocationRows context.reservationId) :=
    (hperm.map _).sum_eq
  unfold Database.stockAt
  rw [hpass.offers, Option.map_map, Option.map_map, ← hdrawn]
  congr 1
  funext offer
  exact offer.stock_draw S.kind _ _

theorem Database.allocationViews_rows (database : Database) (r : Uuid) :
    (database.allocationViews r).map AllocationView.toAllocationRow = database.allocationRows r := by
  rw [allocationViews, List.map_map]
  exact List.map_id _

/-- A walk takes its share out of every offer. -/
theorem Walk.run_stockAt (hid : walk.pass.context.reservationId = walk.reservation.id)
    (hstored : (s.database.reservations.find? walk.reservation.id).isSome)
    (h : walk.run environment s = .ok () t) (k : Uuid × Uuid) :
    t.database.stockAt k = (s.database.stockAt k).map (· - s.database.share k walk) := by
  rw [← Database.isSome_aggregate?] at hstored
  obtain ⟨before, hbefore⟩ := Option.isSome_iff_exists.mp hstored
  have hrows : before.allocations.map AllocationView.toAllocationRow =
      s.database.allocationRows walk.reservation.id := by
    rw [(Database.aggregate?_eq_some_iff.mp hbefore).2.2.1, Database.allocationViews_rows]
  have hshare : s.database.share k walk = walk.pass.share k before := by
    rw [Database.share, hbefore]
    rfl
  rw [hshare]
  obtain ⟨model, pass⟩ := walk
  cases pass with
  | confirm context =>
    have hid : context.reservationId = model.id := hid
    obtain ⟨result, v, hv, h⟩ := bind_ok_iff.mp h
    obtain ⟨-, rfl⟩ := pure_ok_iff.mp h
    rw [(confirmReservation_ok hid hv).1.stockAt k, hid, Pass.share, hrows]
  | release context terminalStatus =>
    have hid : context.reservationId = model.id := hid
    have hcontext : (some context).getD (.request model.id) = context := rfl
    rw [(releaseReservation_ok hcontext hid h).1.stockAt k, hid, Pass.share, hrows]

/-- Walks over distinct reservations take the shares these have at the start. -/
theorem walks_stockAt (hwf : s.database.WellFormed) (hw : Walkable s.database walks)
    (h : forEach (Walk.run environment) walks s = .ok () t) (k : Uuid × Uuid) :
    t.database.stockAt k = (s.database.stockAt k).map (· - s.database.shares k walks) := by
  induction walks generalizing s with
  | nil =>
    obtain ⟨-, rfl⟩ := pure_ok_iff.mp h
    simp [Database.shares]
  | cons walk walks ih =>
    rw [forEach] at h
    obtain ⟨_, v, hv, h⟩ := bind_ok_iff.mp h
    have hid := hw.context walk List.mem_cons_self
    have hstored := hw.stored walk List.mem_cons_self
    have hfirst := Walk.run_ok hwf hid hstored hv
    obtain ⟨htail, hothers⟩ := hw.tail hfirst
    have hshares : v.database.shares k walks = s.database.shares k walks := by
      unfold Database.shares
      congr 1
      apply List.map_congr_left
      intro walk' hw'
      rw [Database.share, Database.share, hothers walk' hw']
    rw [ih hfirst.wellFormed htail h, Walk.run_stockAt hid hstored hv k, hshares, Option.map_map]
    congr 1
    funext stock
    rw [Function.comp_apply, Database.shares, Database.shares, List.map_cons, List.sum_cons, sub_sub]

theorem Database.shares_filter (database : Database) (k : Uuid × Uuid) (p : Walk → Bool) (walks : List Walk) :
    database.shares k walks =
      database.shares k (walks.filter p) + database.shares k (walks.filter fun walk => !p walk) := by
  unfold shares
  induction walks with
  | nil => simp
  | cons walk walks ih =>
    cases hp : p walk with
    | true => simp [hp, ih, add_assoc]
    | false => simp [hp, ih, add_left_comm]

end Stock

/-! ## A batch with and without a reservation -/

def Request.isBatch : Request → Bool
  | .expireBatch _ => true
  | .reconcileBatch _ _ _ => true
  | _ => false

/-- The walks of a batch over reservations other than `r`. -/
def Event.walksBut (event : Event) (database : Database) (r : Uuid) : List Walk :=
  (event.walks database).filter fun walk => walk.reservation.id ≠ r

/-- The batch run without the reservation `r`. -/
def Event.batchBut (event : Event) (database : Database) (r : Uuid) : TransactionOutcome Unit :=
  reservationTransaction (forEach (Walk.run event.environment) (event.walksBut database r)) database

/-- What processing the reservation `r` raises when its turn comes in the batch. -/
def Event.failureAt (event : Event) (database : Database) (r : Uuid) : Option Failure :=
  match (event.walks database).find? fun walk => walk.reservation.id = r with
  | none => none
  | some walk =>
    match forEach (Walk.run event.environment)
        ((event.walks database).takeWhile fun walk => walk.reservation.id ≠ r) (.start database) with
    | .error _ _ => none
    | .ok _ s =>
      match walk.run event.environment s with
      | .error failure _ => some failure
      | .ok _ _ => none

/-- What a reservation has come to: its status and release target, its allocations with their
operations, and whether it has an order. -/
def Database.outcomeOf (database : Database) (r : Uuid) :
    Option (ReservationStatusModel × Option ReservationStatusModel × List AllocationView × Bool) :=
  (database.aggregate? r).map fun aggregate => (aggregate.reservation.status,
    aggregate.reservation.releaseTargetStatus, aggregate.allocations, aggregate.order.isSome)

/-- What a batch does with the database it meets. -/
structure System.BatchIsOne (sha256 : String → String) (event : Event) (database : Database) : Prop where
  undone : ∀ r failure, event.failureAt database r = some failure →
    (System.execute sha256 event database).result = .error (translateFailure failure) ∧
      (System.execute sha256 event database).database = database
  alike : ∀ r, (System.execute sha256 event database).result.isOk → (event.batchBut database r).result.isOk →
    ∀ walk ∈ event.walks database, walk.reservation.id ≠ r →
      (System.execute sha256 event database).database.outcomeOf walk.reservation.id =
        (event.batchBut database r).database.outcomeOf walk.reservation.id
  stock : ∀ r, (System.execute sha256 event database).result.isOk → (event.batchBut database r).result.isOk →
    ∀ k, (System.execute sha256 event database).database.stockAt k =
      ((event.batchBut database r).database.stockAt k).map (· - database.shares k
        ((event.walks database).filter fun walk => walk.reservation.id = r))

/-! ## Raising -/

section Raising
variable {event : Event} {database : Database} {r : Uuid} {failure : Failure}

/-- The batch raises what processing one of its reservations raises. -/
theorem Event.walks_error (h : event.failureAt database r = some failure) :
    ∃ t, forEach (Walk.run event.environment) (event.walks database) (.start database) = .error failure t := by
  unfold failureAt at h
  cases hf : (event.walks database).find? fun walk => walk.reservation.id = r with
  | none =>
    rw [hf] at h
    cases h
  | some walk =>
    simp only [hf] at h
    obtain ⟨hr, walks, rest, hwalks, hothers⟩ := List.find?_eq_some_iff_append.mp hf
    have hbefore : ((event.walks database).takeWhile fun walk => walk.reservation.id ≠ r) = walks := by
      rw [hwalks, List.takeWhile_append_of_pos, List.takeWhile_cons_of_neg, List.append_nil]
      · simpa using hr
      · simpa using hothers
    rw [hbefore] at h
    cases hfirst : forEach (Walk.run event.environment) walks (.start database) with
    | error _ _ =>
      rw [hfirst] at h
      cases h
    | ok u s =>
      simp only [hfirst] at h
      cases hturn : walk.run event.environment s with
      | ok _ _ =>
        rw [hturn] at h
        cases h
      | error failure' t =>
        rw [hturn] at h
        cases h
        refine ⟨t, ?_⟩
        rw [hwalks]
        exact forEach_of_error hfirst hturn

theorem batch_error {event : Event} (sha256 : String → String) (hbatch : event.request.isBatch)
    (h : event.failureAt database r = some failure) :
    (System.execute sha256 event database).result = .error (translateFailure failure) ∧
      (System.execute sha256 event database).database = database := by
  obtain ⟨t, ht⟩ := Event.walks_error h
  obtain ⟨environment, request⟩ := event
  cases request with
  | expireBatch limit =>
    have herror : expireBatch environment limit (.start database) = .error failure t := by
      rw [expireBatch, readDatabase_bind]
      refine bind_of_error ?_
      rw [show (fun reservation => releaseReservation environment reservation .expired none) =
        fun reservation => Walk.run environment reservation.expireWalk from rfl, ← forEach_map]
      exact ht
    simp only [System.execute, reservationTransaction_of_error herror]
    exact ⟨rfl, rfl⟩
  | reconcileBatch limit maxAttempts retryBaseDelay =>
    have herror : reconcileBatch environment limit maxAttempts retryBaseDelay (.start database) =
        .error failure t := by
      rw [reconcileBatch, readDatabase_bind]
      refine bind_of_error ?_
      rw [forEach_filterMap (reconcileReservation_eq environment maxAttempts retryBaseDelay)]
      exact ht
    simp only [System.execute, reservationTransaction_of_error herror]
    exact ⟨rfl, rfl⟩
  | create _ _ _ => cases hbatch
  | confirm _ _ => cases hbatch
  | cancel _ _ => cases hbatch
  | setLevel _ _ _ _ _ => cases hbatch
  | removeLevel _ _ => cases hbatch

end Raising

/-! ## Returning -/

/-- A pass leaves one outcome. -/
theorem Pass.Applies.outcome_eq {environment : Environment} {pass : Pass} {before a b : Aggregate}
    (ha : pass.Applies environment before a) (hb : pass.Applies environment before b) :
    (a.reservation.status, a.reservation.releaseTargetStatus, a.allocations, a.order.isSome) =
      (b.reservation.status, b.reservation.releaseTargetStatus, b.allocations, b.order.isSome) := by
  cases pass with
  | confirm context =>
    have hstatus : a.reservation.status = b.reservation.status := ha.status.trans hb.status.symm
    have hallocations : a.allocations = b.allocations := ha.allocations.trans hb.allocations.symm
    have htarget : a.reservation.releaseTargetStatus = b.reservation.releaseTargetStatus :=
      ha.releaseTargetStatus.trans hb.releaseTargetStatus.symm
    have horder : a.order.isSome = b.order.isSome := by
      rw [Bool.eq_iff_iff, ha.order, hb.order, hstatus]
    rw [hstatus, hallocations, htarget, horder]
  | release context terminalStatus =>
    have hstatus := ha.status.trans hb.status.symm
    have hallocations : a.allocations = b.allocations := ha.allocations.trans hb.allocations.symm
    have horder : a.order = b.order := ha.order.trans hb.order.symm
    obtain ⟨hstatus, htarget⟩ := Prod.ext_iff.mp hstatus
    dsimp only at hstatus htarget
    rw [hstatus, hallocations, htarget, horder]

/-- Two lists of walks from one database do the same to a reservation both walk over. -/
theorem Walked.outcomeOf_eq {environment : Environment} {walks walks' : List Walk} {walk : Walk}
    {s t t' : Session} (h : Walked environment walks s t) (h' : Walked environment walks' s t')
    (hw : walk ∈ walks) (hw' : walk ∈ walks') :
    t.database.outcomeOf walk.reservation.id = t'.database.outcomeOf walk.reservation.id := by
  obtain ⟨before, after, hb, ha, happlies, -⟩ := h.applied walk hw
  obtain ⟨before', after', hb', ha', happlies', -⟩ := h'.applied walk hw'
  obtain rfl : before = before' := Option.some.inj (hb.symm.trans hb')
  rw [Database.outcomeOf, ha, Database.outcomeOf, ha', Option.map_some, Option.map_some,
    happlies.outcome_eq happlies']

theorem Walkable.filter {database : Database} {walks : List Walk} (h : Walkable database walks)
    (p : Walk → Bool) : Walkable database (walks.filter p) where
  distinct := (List.filter_sublist.map _).nodup h.distinct
  context walk hw := h.context walk (List.mem_filter.mp hw).1
  stored walk hw := h.stored walk (List.mem_filter.mp hw).1

/-- A batch that returned has made its walks. -/
theorem batch_ok {sha256 : String → String} {event : Event} {database : Database}
    (hbatch : event.request.isBatch) (h : (System.execute sha256 event database).result.isOk) :
    ∃ t, forEach (Walk.run event.environment) (event.walks database) (.start database) = .ok () t ∧
      (System.execute sha256 event database).database = t.database := by
  obtain ⟨environment, request⟩ := event
  cases request with
  | expireBatch limit =>
    obtain ⟨result, t, hr, he⟩ := reservationTransaction_returned h
    exact ⟨t, expireBatch_makes (s := .start database) result t hr, congrArg TransactionOutcome.database he⟩
  | reconcileBatch limit maxAttempts retryBaseDelay =>
    obtain ⟨result, t, hr, he⟩ := reservationTransaction_returned h
    exact ⟨t, reconcileBatch_makes (s := .start database) result t hr,
      congrArg TransactionOutcome.database he⟩
  | create _ _ _ => cases hbatch
  | confirm _ _ => cases hbatch
  | cancel _ _ => cases hbatch
  | setLevel _ _ _ _ _ => cases hbatch
  | removeLevel _ _ => cases hbatch

theorem Event.batchBut_ok {event : Event} {database : Database} {r : Uuid}
    (h : (event.batchBut database r).result.isOk) :
    ∃ t, forEach (Walk.run event.environment) (event.walksBut database r) (.start database) = .ok () t ∧
      (event.batchBut database r).database = t.database := by
  unfold batchBut reservationTransaction at h ⊢
  rcases databaseTransaction_cases (forEach (Walk.run event.environment) (event.walksBut database r))
    database with ⟨result, t, hr, he⟩ | ⟨failure, t, -, he⟩
  · rw [he]
    exact ⟨t, hr, rfl⟩
  · rw [he] at h
    cases h

namespace System
variable {sha256 : String → String}

theorem batchIsOne {event : Event} {database : Database} (hwf : database.WellFormed)
    (hbatch : event.request.isBatch) : BatchIsOne sha256 event database where
  undone _ _ := batch_error sha256 hbatch
  alike := by
    intro r hok hok' walk hw hne
    obtain ⟨t, ht, hdatabase⟩ := batch_ok hbatch hok
    obtain ⟨t', ht', hdatabase'⟩ := Event.batchBut_ok hok'
    have hwalkable := event.walkable database
    have hwalked := walks_ok (s := .start database) hwf hwalkable ht
    have hwalked' := walks_ok (s := .start database) hwf (hwalkable.filter _) ht'
    rw [hdatabase, hdatabase']
    refine hwalked.outcomeOf_eq hwalked' hw (List.mem_filter.mpr ⟨hw, ?_⟩)
    simpa using hne
  stock := by
    intro r hok hok' k
    obtain ⟨t, ht, hdatabase⟩ := batch_ok hbatch hok
    obtain ⟨t', ht', hdatabase'⟩ := Event.batchBut_ok hok'
    have hwalkable := event.walkable database
    have hstock := walks_stockAt (s := .start database) hwf hwalkable ht k
    have hstock' := walks_stockAt (s := .start database) hwf (hwalkable.filter _) ht' k
    have hshares := database.shares_filter k (fun walk => walk.reservation.id ≠ r) (event.walks database)
    rw [hdatabase, hdatabase', hstock, hstock', Option.map_map]
    congr 1
    funext stock
    rw [Function.comp_apply, sub_sub]
    congr 1
    refine hshares.trans ?_
    simp only [ne_eq, decide_not, Bool.not_not]
    rfl

/-- In every state a run reaches, a batch that raises at one reservation commits nothing, and a batch
that returns treats every reservation as the batch without any other one does. -/
theorem run_batch_is_one {database : Database} {event : Event} (hinit : database.Initial)
    (events : List Event) (hbatch : event.request.isBatch) :
    BatchIsOne sha256 event (run sha256 database events) :=
  batchIsOne (run_sound sha256 hinit events).wellFormed hbatch

/-- Two reservations expire together. -/
theorem run_batch_is_one_expired :
    BatchIsOne Deployment.sha256 (Deployment.expire 1000)
      (run Deployment.sha256 Deployment.database
        [Deployment.create 1000 100 0 [Deployment.line 2 20 1] "a",
          Deployment.create 1100 101 1 [Deployment.line 1 10 1] "b"]) :=
  run_batch_is_one Deployment.initial _ rfl

/-- The release of the reservation that expired first raises: the second one, whose release would have
returned, stays pending. -/
theorem expire_blocked_by_other :
    ¬ ∀ (sha256 : String → String) (database : Database) (events : List Event) (event : Event) (r r' : Uuid),
      database.Initial → event.request.isBatch → (event.failureAt (run sha256 database events) r).isSome →
        r' ∈ (event.walks (run sha256 database events)).map (fun walk => walk.reservation.id) → r' ≠ r →
          ((execute sha256 event (run sha256 database events)).database.reservations.find? r').map
              ReservationModel.status =
            ((event.batchBut (run sha256 database events) r).database.reservations.find? r').map
              ReservationModel.status := by
  intro h
  have hbatch := h Deployment.sha256 Deployment.database
    [Deployment.create 1000 100 0 [Deployment.line 2 20 1] "a",
      Deployment.create 1100 101 1 [Deployment.line 1 10 1] "b"]
    { Deployment.expire 1000 with
      environment := { Deployment.environment 0 0 1000 with release := fun _ _ => .raised } }
    100 101 Deployment.initial
  revert hbatch
  decide +kernel

end System
end InventoryReservation
