import InventoryReservation.Guarantees.AllOrNothing
import InventoryReservation.Guarantees.OfferHistory
import InventoryReservation.Guarantees.ProviderAgreement
import InventoryReservation.Guarantees.StockConservation
import Mathlib.Algebra.Order.BigOperators.Group.List
import Mathlib.Algebra.Order.Group.Int

/-! # Where the stock has gone

Nothing but an assignment of stock adds units to an internal offer or writes them off: what has been put on
hand there is still on hand, or in confirmed allocations. The held units are among those on hand, and the
units of the orders among those confirmed.
-/

namespace InventoryReservation
set_option autoImplicit false

open Relational Transactional Replaying

/-! ## Units on hand and units sold -/

/-- The units on hand of the offer `k`; no offer has none. -/
def Database.inStock (database : Database) (k : OfferKey) : ℤ := (database.onHandAt k).getD 0

/-- The allocation is of the product and provider `k`. -/
def Database.isAt (database : Database) (k : OfferKey) (allocation : InventoryAllocationModel) : Prop :=
  allocation.providerId = k.2 ∧
    (database.items.find? allocation.reservationItemId).map ReservationItemModel.productId = some k.1

instance (database : Database) (k : OfferKey) (allocation : InventoryAllocationModel) :
    Decidable (database.isAt k allocation) :=
  inferInstanceAs (Decidable (_ ∧ _))

/-- The units of `k` that an allocation with this status has. -/
def Database.unitsIn (database : Database) (status : AllocationStatus) (k : OfferKey)
    (allocation : InventoryAllocationModel) : ℤ :=
  if allocation.status = status ∧ database.isAt k allocation then allocation.quantity.units else 0

/-- The units of `k` in confirmed allocations. -/
def Database.soldAt (database : Database) (k : OfferKey) : ℤ :=
  database.allocations.total (database.unitsIn .confirmed k)

/-- There is an order for the reservation of the allocation. -/
def Database.isOrdered (database : Database) (allocation : InventoryAllocationModel) : Prop :=
  ∃ item ∈ database.items.find? allocation.reservationItemId,
    (database.orders.find? item.reservationId).isSome

instance (database : Database) : DecidablePred database.isOrdered := fun allocation =>
  inferInstanceAs (Decidable (∃ item ∈ database.items.find? allocation.reservationItemId, _))

/-- The units of `k` that customers have ordered. -/
def Database.orderedAt (database : Database) (k : OfferKey) : ℤ :=
  database.allocations.total fun allocation =>
    if database.isOrdered allocation ∧ database.isAt k allocation then allocation.quantity.units else 0

theorem Database.isAt_iff {database : Database} {item : ReservationItemModel}
    {allocation : InventoryAllocationModel}
    (hi : database.items.find? allocation.reservationItemId = some item) (k : OfferKey) :
    database.isAt k allocation ↔ k = (item.productId, allocation.providerId) := by
  unfold isAt
  rw [hi, Option.map_some, Option.some.injEq, Prod.ext_iff, eq_comm (a := k.1), eq_comm (a := k.2),
    and_comm (a := item.productId = k.1)]

theorem Database.unitsIn_congr {database database' : Database} {allocation : InventoryAllocationModel}
    (h : database'.items.find? allocation.reservationItemId =
      database.items.find? allocation.reservationItemId) (status : AllocationStatus) (k : OfferKey) :
    database'.unitsIn status k allocation = database.unitsIn status k allocation := by
  have hat : database'.isAt k allocation ↔ database.isAt k allocation := by
    unfold isAt
    rw [h]
  exact if_congr (and_congr_right' hat) rfl rfl

theorem Database.unitsIn_nonneg (database : Database) (status : AllocationStatus) (k : OfferKey)
    (allocation : InventoryAllocationModel) : 0 ≤ database.unitsIn status k allocation := by
  unfold unitsIn
  split
  · exact allocation.quantity.positive.le
  · exact le_rfl

/-- At internal offers, what leaves the units on hand has been sold. -/
structure Delivers (s t : Database) : Prop where
  providers : t.providers = s.providers
  internal : ∀ k, ProviderOf s.providers .internal k → t.inStock k + t.soldAt k = s.inStock k + s.soldAt k

namespace Delivers
variable {s t u : Database}

theorem refl (s : Database) : Delivers s s := ⟨rfl, fun _ _ => rfl⟩

theorem trans (h : Delivers s t) (h' : Delivers t u) : Delivers s u where
  providers := h'.providers.trans h.providers
  internal k hk := (h'.internal k (h.providers ▸ hk)).trans (h.internal k hk)

end Delivers

/-! ## Walks -/

namespace Settlement
variable {ω : Type} [DecidableEq ω] {S : Settlement ω} {environment : Environment}
  {context : ProviderOperationContext} {rows : List AllocationRow} {s t : Session}

/-- The units a walk sells at the offer `k`. -/
def sold (S : Settlement ω) (k : OfferKey) (rows : List AllocationRow) : ℤ :=
  if S.kind.consumes then S.drawn k rows else 0

theorem PassEffect.inStock (h : S.PassEffect environment context rows s t) (k : OfferKey) :
    t.database.inStock k = s.database.inStock k - S.sold k rows := by
  unfold Database.inStock Database.onHandAt sold
  rw [h.offers, Option.map_map]
  cases ho : s.database.offers.find? k with
  | some offer =>
    simp only [Option.map_some, Function.comp_apply, Option.getD_some, ProductOfferModel.draw]
    cases S.kind.consumes
    · exact (sub_zero _).symm
    · rfl
  | none =>
    have hzero : S.drawn k rows = 0 := by
      apply drawn_of_idle
      rintro row hrow ⟨hd, rfl⟩
      have hoffered := h.offered row hrow hd
      rw [ho] at hoffered
      cases hoffered
    rw [hzero, ite_self]
    rfl

omit [DecidableEq ω] in
/-- The allocations whose units a walk takes are confirmed by a confirmation and by nothing else. -/
theorem settledStatus_confirmed_iff (hsettled : S.settledStatus = S.kind.settledStatus) :
    S.settledStatus = .confirmed ↔ S.kind.consumes = true := by
  rw [hsettled]
  cases S.kind <;> decide

omit [DecidableEq ω] in
/-- Sold units of one allocation before and after a walk that draws only where units are held. -/
theorem unitsSold_relabel (hS : S.Lawful) (hsettled : S.settledStatus = S.kind.settledStatus)
    {database : Database} {r : Uuid} (hrows : rows.Perm (database.allocationRows r))
    (hheld : ∀ row ∈ rows, S.draws row → row.allocation.status = .held)
    {k : OfferKey} (hk : ProviderOf database.providers .internal k)
    {allocation : InventoryAllocationModel} (ha : allocation ∈ database.allocations) :
    database.unitsIn .confirmed k (S.relabel environment context database rows allocation) =
      database.unitsIn .confirmed k allocation +
        ((database.joinAllocation r allocation).map fun row =>
          if S.kind.consumes ∧ S.drawsAt k row then row.allocation.quantity.units else 0).getD 0 := by
  cases hj : database.joinAllocation r allocation with
  | none =>
    rw [relabel_of_none hrows ha hj]
    exact (add_zero _).symm
  | some row =>
    obtain ⟨item, provider, hi, hp, -, rfl⟩ := Database.joinAllocation_eq_some_iff.mp hj
    have hmem : (⟨allocation, item.productId, provider⟩ : AllocationRow) ∈ database.allocationRows r :=
      Database.mem_allocationRows.mpr ⟨ha, hj⟩
    rw [relabel_of_mem hrows hmem, Option.map_some, Option.getD_some]
    have hat : ∀ status, database.isAt k { allocation with status } ↔
        k = (item.productId, allocation.providerId) := fun _ => Database.isAt_iff hi k
    by_cases hkk : k = (item.productId, allocation.providerId)
    · have hinternal : provider.kind = .internal := by
        obtain ⟨provider', hp', hkind⟩ := hk
        rw [hkk] at hp'
        cases hp.symm.trans hp'
        exact hkind
      rw [outcome_of_internal hinternal, hS.status_settled]
      have hafter : database.unitsIn .confirmed k { allocation with status := S.settledStatus } =
          if S.kind.consumes then allocation.quantity.units else 0 :=
        if_congr ((and_iff_left ((hat _).mpr hkk)).trans (settledStatus_confirmed_iff hsettled)) rfl rfl
      rw [hafter]
      by_cases hpass : S.passes ⟨allocation, item.productId, provider⟩
      · have hstatus : allocation.status = S.settledStatus := hpass
        have hbefore : database.unitsIn .confirmed k allocation =
            if S.kind.consumes then allocation.quantity.units else 0 := by
          refine if_congr ((and_iff_left ((hat allocation.status).mpr hkk)).trans ?_) rfl rfl
          rw [hstatus]
          exact settledStatus_confirmed_iff hsettled
        have hdraws : ¬ (S.kind.consumes = true ∧ S.drawsAt k ⟨allocation, item.productId, provider⟩) :=
          fun h => h.2.1.1 hpass
        rw [hbefore, if_neg hdraws, add_zero]
      · have hdraws : S.draws ⟨allocation, item.productId, provider⟩ := ⟨hpass, hinternal⟩
        have hstatus := hheld _ (hrows.mem_iff.mpr hmem) hdraws
        have hbefore : database.unitsIn .confirmed k allocation = 0 :=
          if_neg fun h => absurd (hstatus.symm.trans h.1) (by decide)
        have hdrawsAt : S.drawsAt k ⟨allocation, item.productId, provider⟩ := ⟨hdraws, hkk⟩
        rw [hbefore, zero_add]
        exact if_congr (and_iff_left hdrawsAt).symm rfl rfl
    · have hnone : ∀ status, database.unitsIn .confirmed k { allocation with status } = 0 :=
        fun status => if_neg fun h => hkk ((hat status).mp h.2)
      have hdraws : ¬ (S.kind.consumes = true ∧ S.drawsAt k ⟨allocation, item.productId, provider⟩) :=
        fun h => hkk h.2.2
      rw [hnone, if_neg hdraws, add_zero]
      exact (hnone allocation.status).symm

omit [DecidableEq ω] in
theorem sold_eq_total {database : Database} {r : Uuid} (hrows : rows.Perm (database.allocationRows r))
    (k : OfferKey) :
    S.sold k rows = database.allocations.total fun allocation =>
      ((database.joinAllocation r allocation).map fun row =>
        if S.kind.consumes ∧ S.drawsAt k row then row.allocation.quantity.units else 0).getD 0 := by
  unfold sold
  cases S.kind.consumes with
  | true =>
    rw [if_pos rfl, drawn_eq_total hrows]
    simp only [true_and]
  | false =>
    rw [if_neg (by decide)]
    unfold Table.total
    refine (List.sum_eq_zero fun units hu => ?_).symm
    obtain ⟨allocation, -, rfl⟩ := List.mem_map.mp hu
    cases database.joinAllocation r allocation <;> simp

/-- A walk that draws only where units are held delivers what it draws, or gives it back. -/
theorem PassEffect.delivers (hS : S.Lawful) (hsettled : S.settledStatus = S.kind.settledStatus)
    (h : S.PassEffect environment context rows s t) {r : Uuid}
    (hrows : rows.Perm (s.database.allocationRows r))
    (hheld : ∀ row ∈ rows, S.draws row → row.allocation.status = .held) :
    Delivers s.database t.database where
  providers := h.providers
  internal k hk := by
    have hunits : t.database.soldAt k = s.database.soldAt k + S.sold k rows := by
      have hfun : t.database.unitsIn .confirmed k = s.database.unitsIn .confirmed k :=
        funext fun _ => Database.unitsIn_congr (by rw [h.items]) _ k
      have hrelabel : t.database.soldAt k = s.database.allocations.total fun allocation =>
          s.database.unitsIn .confirmed k (S.relabel environment context s.database rows allocation) := by
        rw [Database.soldAt, hfun, h.allocations, Table.total_mapRows]
        rfl
      have hdifference : s.database.allocations.total (fun allocation =>
          s.database.unitsIn .confirmed k (S.relabel environment context s.database rows allocation) -
            s.database.unitsIn .confirmed k allocation) = S.sold k rows := by
        rw [sold_eq_total hrows]
        apply Table.total_congr
        intro allocation ha
        rw [unitsSold_relabel hS hsettled hrows hheld hk ha]
        exact add_sub_cancel_left _ _
      rw [Table.total_sub, ← hrelabel] at hdifference
      change t.database.soldAt k - s.database.soldAt k = _ at hdifference
      omega
    rw [h.inStock, hunits]
    omega

end Settlement

/-- A walk that draws held units only delivers them. -/
theorem WalkEffect.delivers {ω : Type} [DecidableEq ω] {S : Settlement ω} {environment : Environment}
    {context : ProviderOperationContext} {write : ReservationModel → ReservationModel} {s t : Session}
    (hS : S.Lawful) (hsettled : S.settledStatus = S.kind.settledStatus)
    (h : WalkEffect S environment context write s t) {before : Aggregate}
    (hbefore : s.database.aggregate? context.reservationId = some before)
    (hheld : ∀ view ∈ before.allocations, S.draws view.toAllocationRow → view.allocation.status = .held) :
    Delivers s.database t.database := by
  obtain ⟨rows, hperm, hpass⟩ := h.walk
  refine hpass.delivers hS hsettled hperm fun row hrow hd => ?_
  exact hheld _ (Database.view_mem hbefore (hperm.mem_iff.mp hrow)) hd

section Walks
variable {environment : Environment} {s t : Session}

theorem Walk.run_delivers {walk : Walk} {u : Unit}
    (hid : walk.pass.context.reservationId = walk.reservation.id)
    (hstored : (s.database.reservations.find? walk.reservation.id).isSome)
    (hdraws : ∀ before ∈ s.database.aggregate? walk.reservation.id, walk.pass.DrawsHeld before)
    (h : walk.run environment s = .ok u t) : Delivers s.database t.database := by
  rw [← Database.isSome_aggregate?] at hstored
  obtain ⟨before, hbefore⟩ := Option.isSome_iff_exists.mp hstored
  have hheld := hdraws before hbefore
  obtain ⟨model, pass⟩ := walk
  rw [← hid] at hbefore
  cases pass with
  | confirm context =>
    obtain ⟨result, v, hv, h⟩ := bind_ok_iff.mp h
    obtain ⟨-, rfl⟩ := pure_ok_iff.mp h
    exact (confirmReservation_ok hid hv).1.delivers confirmation_lawful rfl hbefore hheld
  | release context terminalStatus =>
    have hcontext : (some context).getD (.request model.id) = context := rfl
    exact (releaseReservation_ok hcontext hid h).1.delivers releasing_lawful rfl hbefore hheld

theorem walks_delivers {walks : List Walk} {u : Unit} (hwf : s.database.WellFormed)
    (hw : Walkable s.database walks)
    (hdraws : ∀ walk ∈ walks, ∀ before ∈ s.database.aggregate? walk.reservation.id, walk.pass.DrawsHeld before)
    (h : forEach (Walk.run environment) walks s = .ok u t) : Delivers s.database t.database := by
  induction walks generalizing s with
  | nil =>
    obtain ⟨-, rfl⟩ := pure_ok_iff.mp h
    exact .refl _
  | cons walk walks ih =>
    rw [forEach] at h
    obtain ⟨_, v, hv, h⟩ := bind_ok_iff.mp h
    have hcontext := hw.context walk List.mem_cons_self
    have hstored := hw.stored walk List.mem_cons_self
    have hwalked := Walk.run_ok hwf hcontext hstored hv
    obtain ⟨htail, hothers⟩ := hw.tail hwalked
    have hfirst := Walk.run_delivers hcontext hstored (hdraws walk List.mem_cons_self) hv
    refine hfirst.trans (ih hwalked.wellFormed htail (fun walk' hw' before hb => ?_) h)
    rw [hothers walk' hw'] at hb
    exact hdraws walk' (List.mem_cons_of_mem _ hw') before hb

end Walks

/-! ## Creating -/

section Creating
variable {environment : Environment} {s t u : Session}

/-- New allocations are held, not sold. -/
theorem HoldPhase.soldAt {done : List ReservationItemModel} (h : HoldPhase done s u) (k : OfferKey) :
    u.database.soldAt k = s.database.soldAt k := by
  obtain ⟨news, hrows, -, hheld⟩ := h.allocated
  have hunits : u.database.unitsIn .confirmed k = s.database.unitsIn .confirmed k :=
    funext fun _ => Database.unitsIn_congr (by rw [h.items]) _ k
  have hnews : (news.map (s.database.unitsIn .confirmed k)).sum = 0 := by
    apply List.sum_eq_zero
    intro units hu
    obtain ⟨allocation, ha, rfl⟩ := List.mem_map.mp hu
    refine if_neg fun hsold => ?_
    cases (hheld allocation ha).1.symm.trans hsold.1
  unfold Database.soldAt Table.total
  rw [hunits, hrows, List.map_append, List.sum_append, hnews, add_zero]

/-- Neither the holds of a create nor its compensation sell anything. -/
theorem addWithHold_soldAt {reservation : Reservation} {held : Bool} (hwf : s.database.WellFormed)
    (h : addWithHold environment reservation s = .ok held t) {k : OfferKey}
    (hk : ProviderOf s.database.providers .internal k) : t.database.soldAt k = s.database.soldAt k := by
  rw [addWithHold] at h
  obtain ⟨models, v, hv, h⟩ := bind_ok_iff.mp h
  have hstored := addReservation_ok hv
  have hadded : v.database.soldAt k = s.database.soldAt k := by
    unfold Database.soldAt
    rw [hstored.allocations]
    exact Table.total_congr fun allocation ha => Database.unitsIn_congr (hstored.findItem hwf ha) _ k
  have howned : ∀ item ∈ models, item ∈ v.database.items ∧ item.reservationId = reservation.id :=
    fun item hi => ⟨(Table.mem_of_append hstored.items item).mpr (Or.inr hi), hstored.owner item hi⟩
  rcases holdItems_ok (fun item hi => (howned item hi).1) h with
    ⟨rfl, hphase⟩ | ⟨rfl, done, u, hpart, hphase, hcompensated⟩
  · exact (hphase.soldAt k).trans hadded
  · have howned' : ∀ item ∈ done, item ∈ v.database.items ∧ item.reservationId = reservation.id :=
      fun item hi => howned item (hpart.subset hi)
    obtain ⟨before, hbefore, -, hopened⟩ :=
      hphase.opened (hstored.wellFormed hwf) howned' hstored.models (hstored.aggregate_self hwf)
    obtain ⟨hwalk, -, -⟩ := hcompensated.walkEffect
    have hreleased := hwalk.delivers releasing_lawful rfl hbefore fun view hv _ => hopened.held view hv
    obtain ⟨rows, -, hpass⟩ := hwalk.walk
    have hstock : t.database.inStock k = u.database.inStock k := (hpass.inStock k).trans (sub_zero _)
    have hinternal : ProviderOf u.database.providers .internal k := by
      rw [hphase.conserves.providers, hstored.providers]
      exact hk
    have hbalance := hreleased.internal k hinternal
    have hheld := (hphase.soldAt k).trans hadded
    omega

theorem addWithHold_delivers {reservation : Reservation} {held : Bool} (hwf : s.database.WellFormed)
    (h : addWithHold environment reservation s = .ok held t) : Delivers s.database t.database := by
  have hkeeps := KeepsOnHand.addWithHold s held t h
  refine ⟨hkeeps.providers, fun k hk => ?_⟩
  obtain ⟨provider, hp, hinternal⟩ := hk
  unfold Database.inStock
  rw [hkeeps.onHand k provider hp hinternal, addWithHold_soldAt hwf h ⟨provider, hp, hinternal⟩]

end Creating

/-! ## Steps -/

/-- The request assigns the stock of the offer `k`, or removes the offer. -/
def Request.Assigns (k : OfferKey) : Request → Prop
  | .setLevel productId providerId _ _ _ => k = (productId, providerId)
  | .removeLevel productId providerId => k = (productId, providerId)
  | _ => False

instance (k : OfferKey) : DecidablePred (Request.Assigns k) := fun request =>
  match request with
  | .setLevel productId providerId _ _ _ => inferInstanceAs (Decidable (k = (productId, providerId)))
  | .removeLevel productId providerId => inferInstanceAs (Decidable (k = (productId, providerId)))
  | .create _ _ _ => isFalse id
  | .confirm _ _ => isFalse id
  | .cancel _ _ => isFalse id
  | .expireBatch _ => isFalse id
  | .reconcileBatch _ _ _ => isFalse id

namespace System
variable {sha256 : String → String} {database : Database}

/-- A change of stock levels sells nothing. -/
theorem soldAt_of_holdEffect {t : Session} (h : HoldEffect 0 (.start database) t) (k : OfferKey) :
    t.database.soldAt k = database.soldAt k := by
  rw [h.tables]
  rfl

/-- A change of the level of one offer leaves the others as they are. -/
theorem inStock_of_rewrites {t : Database} {ok : OfferWrite → Prop} {k : OfferKey}
    (h : Rewrites ok k database t) (hother : ∀ write, ¬ ok write) : t.inStock k = database.inStock k := by
  obtain ⟨writes, hok, hreplay⟩ := h.history
  have hnil : writes = [] := List.eq_nil_iff_forall_not_mem.mpr fun write hmem => hother write (hok write hmem)
  rw [hnil, replay_nil] at hreplay
  unfold Database.inStock Database.onHandAt
  rw [← Option.some.inj hreplay]

theorem step_delivers (hsound : database.Sound) {event : Event} (hdraws : DrawsHeld event database)
    {k : OfferKey} (hk : ProviderOf database.providers .internal k) (hassigns : ¬ event.request.Assigns k) :
    (step sha256 database event).inStock k + (step sha256 database event).soldAt k =
      database.inStock k + database.soldAt k := by
  refine step_of_commit (J := fun t => t.inStock k + t.soldAt k = database.inStock k + database.soldAt k) rfl
    fun t ht => ?_
  have hwalks : forEach (Walk.run event.environment) (event.walks database) (.start database) = .ok () t →
      t.database.inStock k + t.database.soldAt k = database.inStock k + database.soldAt k := fun h =>
    (walks_delivers (s := .start database) hsound.wellFormed (event.walkable database) hdraws h).internal k hk
  obtain ⟨environment, request⟩ := event
  cases request with
  | create userId items idempotencyKey =>
    obtain ⟨result, hr⟩ := commitOf_eq_some_iff.mp ht
    rcases createTransaction_stores hr with rfl | ⟨reservation, held, hstores⟩
    · rfl
    · exact (addWithHold_delivers (s := .start database) hsound.wellFormed hstores).internal k hk
  | confirm reservationId userId =>
    obtain ⟨result, hr⟩ := commitOf_eq_some_iff.mp ht
    exact hwalks (confirm_makes (s := .start database) hsound.booked result t hr)
  | cancel reservationId userId =>
    obtain ⟨result, hr⟩ := commitOf_eq_some_iff.mp ht
    exact hwalks (cancel_makes (s := .start database) result t hr)
  | expireBatch limit =>
    obtain ⟨result, hr⟩ := commitOf_eq_some_iff.mp ht
    exact hwalks (expireBatch_makes (s := .start database) result t hr)
  | reconcileBatch limit maxAttempts retryBaseDelay =>
    obtain ⟨result, hr⟩ := commitOf_eq_some_iff.mp ht
    exact hwalks (reconcileBatch_makes (s := .start database) result t hr)
  | setLevel productId providerId onHand allocationPriority routingGroup =>
    obtain ⟨result, hr⟩ := commitOf_eq_some_iff.mp ht
    have hrewrites : Rewrites _ k database t.database := setLevel_rewrites database.providers hr
    rw [inStock_of_rewrites hrewrites fun write hok => hassigns hok.2.1,
      soldAt_of_holdEffect (setLevel_ok hr).1]
  | removeLevel productId providerId =>
    obtain ⟨result, hr⟩ := commitOf_eq_some_iff.mp ht
    have hrewrites : Rewrites _ k database t.database := removeLevel_rewrites database.providers hr
    rw [inStock_of_rewrites hrewrites fun write hok => hassigns hok.2.1,
      soldAt_of_holdEffect (removeLevel_ok hr).1]

theorem step_assigns {event : Event} {k : OfferKey} (hassigns : event.request.Assigns k) :
    (step sha256 database event).soldAt k = database.soldAt k := by
  refine step_of_commit (J := fun t => t.soldAt k = database.soldAt k) rfl fun t ht => ?_
  obtain ⟨environment, request⟩ := event
  cases request with
  | setLevel productId providerId onHand allocationPriority routingGroup =>
    obtain ⟨result, hr⟩ := commitOf_eq_some_iff.mp ht
    exact soldAt_of_holdEffect (setLevel_ok hr).1 k
  | removeLevel productId providerId =>
    obtain ⟨result, hr⟩ := commitOf_eq_some_iff.mp ht
    exact soldAt_of_holdEffect (removeLevel_ok hr).1 k
  | create userId items idempotencyKey => exact hassigns.elim
  | confirm reservationId userId => exact hassigns.elim
  | cancel reservationId userId => exact hassigns.elim
  | expireBatch limit => exact hassigns.elim
  | reconcileBatch limit maxAttempts retryBaseDelay => exact hassigns.elim

/-- What the assignments of a run have added to the units on hand of the offer `k`, or written off. -/
def restocked (sha256 : String → String) (k : OfferKey) (database : Database) (events : List Event) : ℤ :=
  (Runs.trace (step sha256) (fun database event =>
    if event.request.Assigns k then [(step sha256 database event).inStock k - database.inStock k] else [])
    database events).sum

theorem restocked_cons (k : OfferKey) (event : Event) (events : List Event) :
    restocked sha256 k database (event :: events) =
      (if event.request.Assigns k then (step sha256 database event).inStock k - database.inStock k else 0) +
        restocked sha256 k (step sha256 database event) events := by
  unfold restocked
  rw [Runs.trace, List.sum_append]
  split
  · rw [List.sum_singleton]
  · rw [List.sum_nil]

/-- The units sold and those on hand, after a run that draws held units only. -/
theorem run_balance {events : List Event} (hsound : database.Sound)
    (hinternal : ∀ r aggregate, database.aggregate? r = some aggregate → aggregate.InternalSettled)
    (hadmissible : Runs.Admissible (step sha256)
      (fun database event => event.request.settlesHeld database) database events)
    {k : OfferKey} (hk : ProviderOf database.providers .internal k) :
    (run sha256 database events).inStock k + (run sha256 database events).soldAt k =
      database.inStock k + database.soldAt k + restocked sha256 k database events := by
  induction events generalizing database with
  | nil => exact (add_zero _).symm
  | cons event events ih =>
    obtain ⟨hok, hadmissible⟩ := hadmissible
    have hproviders := (step_rewrites sha256 hsound.booked event k).providers
    have hrest := ih (step_sound sha256 hsound event) (maintains_internalSettled.step hsound hinternal trivial)
      hadmissible (hproviders ▸ hk)
    have hrun : run sha256 database (event :: events) = run sha256 (step sha256 database event) events := rfl
    rw [hrun, hrest, restocked_cons]
    by_cases hassigns : event.request.Assigns k
    · rw [if_pos hassigns, step_assigns hassigns]
      omega
    · rw [if_neg hassigns, step_delivers hsound (hok.drawsHeld hinternal) hk hassigns]
      omega

/-- The offers of a run keep within the range of the table's constraints. -/
theorem run_inRange (sha256 : String → String) (hsound : database.Sound)
    (hoffers : ∀ offer ∈ database.offers, offer.InRange) (events : List Event) (k : OfferKey) :
    ∀ offer ∈ (run sha256 database events).offers.find? k, offer.InRange := by
  refine (run_rewrites sha256 hsound events k).history.keeps (P := fun row => ∀ offer ∈ row, offer.InRange)
    (fun write hok before after heffect => ?_) fun offer hoffer => hoffers offer (Table.mem_of_find? hoffer)
  have hrespects := (OfferWrite.Bounded.preserves hok.1.bounded).respects
  exact hrespects k before after heffect

end System

/-! ## Orders -/

/-- The units of an order are in confirmed allocations. -/
theorem Database.Sound.orderedAt_le {database : Database} (hsound : database.Sound)
    (huniform : ∀ r aggregate, database.aggregate? r = some aggregate → aggregate.Uniform) (k : OfferKey) :
    database.orderedAt k ≤ database.soldAt k := by
  unfold Database.orderedAt Database.soldAt Table.total
  apply List.sum_le_sum
  intro allocation ha
  split
  · next hordered =>
    obtain ⟨⟨item, hi, horder⟩, hat⟩ := hordered
    rw [Option.mem_def] at hi
    have hitem := Table.mem_of_find? hi
    obtain ⟨reservation, hr⟩ := Option.isSome_iff_exists.mp (hsound.wellFormed.itemReservation item hitem)
    have hagg : database.aggregate? item.reservationId = some
        ⟨reservation, database.itemsOf item.reservationId, database.allocationViews item.reservationId,
          database.orders.find? item.reservationId⟩ :=
      Database.aggregate?_eq_some_iff.mpr ⟨hr, rfl, rfl, rfl⟩
    have hconfirmed := (hsound.aggregates _ _ hagg).booked.mp horder
    obtain ⟨view, hv, hview⟩ := hsound.wellFormed.allocation_view hagg
      (List.mem_filter.mpr ⟨hitem, decide_eq_true rfl⟩) ha (Table.key_of_find? hi).symm
    have hstatus := (huniform _ _ hagg).confirmed hconfirmed view hv
    rw [hview] at hstatus
    exact (if_pos ⟨hstatus, hat⟩).ge
  · exact database.unitsIn_nonneg _ _ _

/-- The account of an internal offer: what has been put on hand is on hand still or sold, what is held is on
hand, and what is ordered is sold. -/
structure Database.Accounts (database : Database) (k : OfferKey) (stock : ℤ) : Prop where
  balance : database.inStock k + database.soldAt k = stock
  held : database.heldAt k ≤ database.inStock k
  ordered : database.orderedAt k ≤ database.soldAt k

namespace System
variable {sha256 : String → String} {database : Database}

theorem soldAt_of_initial (hinit : database.Initial) (k : OfferKey) : database.soldAt k = 0 := by
  unfold Database.soldAt
  rw [hinit.allocations]
  rfl

/-- In runs that conserve stock, the account of every internal offer is settled. -/
theorem run_stock_accounts {events : List Event} (hinit : database.Initial)
    (hoffers : ∀ offer ∈ database.offers.rows, offer.reserved = 0 ∧ 0 ≤ offer.onHand)
    (hadmissible : Runs.Admissible (step sha256)
      (fun database event => event.request.settlesHeld database) database events)
    {k : OfferKey} (hk : ProviderOf database.providers .internal k) :
    (run sha256 database events).Accounts k (database.inStock k + restocked sha256 k database events) := by
  have hsound : database.Sound := .of_initial hinit
  have hrun := run_rewrites sha256 hsound events k
  have hmaintains : Maintains sha256 (fun _ _ => True) Aggregate.Uniform := maintains_uniform
  constructor
  · have hbalance := run_balance hsound (run_internalSettled sha256 hinit []) hadmissible hk
    have hnone := soldAt_of_initial hinit k
    omega
  · have hbalanced := run_balanced hinit (fun offer ho => (hoffers offer ho).1) hadmissible
    obtain ⟨provider, hp, hinternal⟩ := hk
    rw [← hrun.providers] at hp
    rw [← hbalanced.internal k provider hp hinternal]
    have hrange := run_inRange sha256 hsound (fun offer ho => by
      obtain ⟨hreserved, honHand⟩ := hoffers offer ho
      exact ⟨hreserved.ge, hreserved ▸ honHand⟩) events k
    unfold Database.reservedAt Database.inStock Database.onHandAt
    cases ho : (run sha256 database events).offers.find? k with
    | none => exact le_rfl
    | some offer => exact (hrange offer ho).onHand
  · exact (run_sound sha256 hinit events).orderedAt_le
      (hmaintains.run hinit (.of_all (fun _ _ => trivial) database events)) k

/-- One customer's units are sold, the stock is replenished, and another customer's units are given back. -/
theorem run_stock_accounts_replenished :
    (run Deployment.sha256 Deployment.database
      [Deployment.create 1000 100 0 [Deployment.line 1 10 2] "a",
        Deployment.create 1100 200 0 [Deployment.line 1 10 3] "b", Deployment.confirm 1200 100 10,
        ⟨Deployment.environment 1300 0 10, .setLevel 1 10 20 0 none⟩,
        Deployment.cancel 1400 200 10]).Accounts (1, 10)
      (Deployment.database.inStock (1, 10) + restocked Deployment.sha256 (1, 10) Deployment.database
        [Deployment.create 1000 100 0 [Deployment.line 1 10 2] "a",
          Deployment.create 1100 200 0 [Deployment.line 1 10 3] "b", Deployment.confirm 1200 100 10,
          ⟨Deployment.environment 1300 0 10, .setLevel 1 10 20 0 none⟩,
          Deployment.cancel 1400 200 10]) :=
  run_stock_accounts Deployment.initial (by decide) (by decide +kernel)
    ⟨Deployment.internalProvider, by decide +kernel, rfl⟩

end System
end InventoryReservation
