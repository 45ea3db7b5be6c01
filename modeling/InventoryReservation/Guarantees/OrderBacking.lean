import InventoryReservation.Guarantees.Lifecycle

/-! # Orders are backed by stock

Every item of an ordered reservation has one allocation, which is confirmed and as large as the item,
as long as confirm is only asked of reservations whose items are all allocated and not released.
-/

namespace InventoryReservation
set_option autoImplicit false

open Relational

/-- Every ordered item has exactly one allocation, confirmed and of the requested quantity. -/
def Database.OrdersBacked (database : Database) : Prop :=
  ∀ order ∈ database.orders.rows, ∀ item ∈ database.items.rows, item.reservationId = order.reservationId →
    ∃ allocation ∈ database.allocations.rows, allocation.reservationItemId = item.id ∧
      allocation.status = .confirmed ∧ allocation.quantity = item.requestedQuantity ∧
      ∀ other ∈ database.allocations.rows, other.reservationItemId = item.id → other = allocation

instance (database : Database) : Decidable database.OrdersBacked :=
  inferInstanceAs (Decidable (∀ order ∈ database.orders.rows, _))

/-- Every item of the reservation is allocated, and the allocation has not been released. -/
def Database.Allocated (database : Database) (reservationId : Uuid) : Prop :=
  ∀ item ∈ database.itemsOf reservationId, ∃ allocation ∈ database.allocations.rows,
    allocation.reservationItemId = item.id ∧ allocation.status ≠ .released

instance (database : Database) (reservationId : Uuid) : Decidable (database.Allocated reservationId) :=
  inferInstanceAs (Decidable (∀ item ∈ database.itemsOf reservationId, _))

/-- An order that appears is for a reservation whose items were allocated and not released. -/
def OrdersAllocated (s t : Database) : Prop :=
  ∀ order ∈ t.orders.rows, s.orders.find? order.reservationId = none → s.Allocated order.reservationId

/-- A confirm that is not answered or refused by the status alone is addressed to a reservation whose
items are allocated. -/
def Request.confirmsAllocated (database : Database) : Request → Prop
  | .confirm reservationId userId =>
    ∀ reservation ∈ database.findOwned reservationId userId,
      reservation.status ∈ [.confirmed, .cancelled] ∨ database.Allocated reservation.id
  | _ => True

instance (database : Database) (request : Request) : Decidable (request.confirmsAllocated database) :=
  match request with
  | .confirm _ _ => inferInstanceAs (Decidable (∀ reservation ∈ database.findOwned _ _, _))
  | .create _ _ _ => isTrue trivial
  | .cancel _ _ => isTrue trivial
  | .expireBatch _ => isTrue trivial
  | .reconcileBatch _ _ _ => isTrue trivial
  | .setLevel _ _ _ _ _ => isTrue trivial
  | .removeLevel _ _ => isTrue trivial

/-! ## Allocations and items of one reservation -/

/-- Every item has an allocation; there are no others. -/
def Aggregate.Covered (aggregate : Aggregate) : Prop :=
  (aggregate.allocations.map fun view => (view.allocation.reservationItemId, view.allocation.quantity)) =
    aggregate.items.map fun item => (item.id, item.requestedQuantity)

theorem Database.itemsOf_nodup (database : Database) (reservationId : Uuid) :
    ((database.itemsOf reservationId).map ReservationItemModel.id).Nodup :=
  (List.filter_sublist.map _).nodup database.items.nodup

section Aggregates
variable {database : Database} {r : Uuid} {aggregate : Aggregate}

/-- The allocations of a stored item are allocations of its reservation. -/
theorem Database.WellFormed.allocation_view (hwf : database.WellFormed)
    (ha : database.aggregate? r = some aggregate) {item : ReservationItemModel}
    (hi : item ∈ aggregate.items) {allocation : InventoryAllocationModel}
    (hallocation : allocation ∈ database.allocations) (hid : allocation.reservationItemId = item.id) :
    ∃ view ∈ aggregate.allocations, view.allocation = allocation := by
  obtain ⟨hfound, hitems, hviews, -⟩ := Database.aggregate?_eq_some_iff.mp ha
  rw [hitems] at hi
  obtain ⟨hmem, hr⟩ := List.mem_filter.mp hi
  obtain ⟨item', provider, hi', hp, hrow⟩ := hwf.joined hallocation
  have hsame : item' = item := by
    rw [hid, Table.find?_of_mem hmem] at hi'
    exact (Option.some.inj hi').symm
  rw [hsame, of_decide_eq_true hr] at hrow
  rw [hviews]
  exact ⟨_, List.mem_map_of_mem hrow, rfl⟩

/-- A reservation all of whose items are allocated is covered. -/
theorem Aggregate.Sound.covered (hsound : aggregate.Sound) (hwf : database.WellFormed)
    (ha : database.aggregate? r = some aggregate) (hallocated : database.Allocated r) :
    aggregate.Covered := by
  obtain ⟨done, hdone, hcovers⟩ := hsound.covers
  have hitems : aggregate.items = database.itemsOf r := (Database.aggregate?_eq_some_iff.mp ha).2.1
  have hsub : aggregate.items.map ReservationItemModel.id ⊆ done.map ReservationItemModel.id := by
    intro id hmem
    obtain ⟨item, hi, rfl⟩ := List.mem_map.mp hmem
    obtain ⟨allocation, hallocation, hid, -⟩ := hallocated item (hitems ▸ hi)
    obtain ⟨view, hv, rfl⟩ := hwf.allocation_view ha hi hallocation hid
    have hpair : (view.allocation.reservationItemId, view.allocation.quantity) ∈
        done.map fun item => (item.id, item.requestedQuantity) := by
      rw [← hcovers]
      exact List.mem_map_of_mem hv
    obtain ⟨item', hi', he⟩ := List.mem_map.mp hpair
    have hid' : item'.id = item.id := (Prod.ext_iff.mp he).1.trans hid
    exact hid' ▸ List.mem_map_of_mem hi'
  have hlength : aggregate.items.length ≤ done.length := by
    have hnodup := hitems ▸ database.itemsOf_nodup r
    simpa using (List.subperm_of_subset hnodup hsub).length_le
  unfold Aggregate.Covered
  rw [hcovers, hdone.eq_of_length_le hlength]

/-- In a covered reservation an item has one allocation. -/
theorem Aggregate.Covered.unique (hcovered : aggregate.Covered) (hwf : database.WellFormed)
    (ha : database.aggregate? r = some aggregate) {item : ReservationItemModel}
    (hi : item ∈ aggregate.items) :
    ∃ view ∈ aggregate.allocations, view.allocation.reservationItemId = item.id ∧
      view.allocation.quantity = item.requestedQuantity ∧
      ∀ other ∈ database.allocations, other.reservationItemId = item.id → other = view.allocation := by
  have hpair : (item.id, item.requestedQuantity) ∈ aggregate.allocations.map fun view =>
      (view.allocation.reservationItemId, view.allocation.quantity) := by
    rw [hcovered]
    exact List.mem_map_of_mem hi
  obtain ⟨view, hv, he⟩ := List.mem_map.mp hpair
  obtain ⟨hid, hquantity⟩ := Prod.ext_iff.mp he
  refine ⟨view, hv, hid, hquantity, ?_⟩
  intro other hother hid'
  obtain ⟨view', hv', rfl⟩ := hwf.allocation_view ha hi hother hid'
  have hnodup : (aggregate.allocations.map fun view => view.allocation.reservationItemId).Nodup := by
    have hkeys := congrArg (List.map Prod.fst) hcovered
    rw [List.map_map, List.map_map] at hkeys
    have hitems : aggregate.items = database.itemsOf r := (Database.aggregate?_eq_some_iff.mp ha).2.1
    have hids : (aggregate.items.map ReservationItemModel.id).Nodup := hitems ▸ database.itemsOf_nodup r
    exact hkeys ▸ hids
  rw [List.inj_on_of_nodup_map hnodup hv' hv (hid'.trans hid.symm)]

theorem Aggregate.Covered.of_pass {environment : Environment} {pass : Pass} {after : Aggregate}
    (h : aggregate.Covered) (hpass : pass.Applies environment aggregate after) : after.Covered := by
  unfold Aggregate.Covered at h ⊢
  rw [hpass.allocations, hpass.items, ← h, List.map_map]
  apply List.map_congr_left
  intro view _
  simp

end Aggregates

/-! ## Walks -/

/-- What a reservation on the way to an order has. -/
structure Aggregate.Backing (aggregate : Aggregate) : Prop where
  covered : aggregate.reservation.status ∈ [.pending, .confirming, .confirmed] → aggregate.Covered
  confirmed : aggregate.reservation.status = .confirmed →
    ∀ view ∈ aggregate.allocations, view.allocation.status = .confirmed
  confirming : aggregate.reservation.status = .confirming →
    ∀ view ∈ aggregate.allocations, view.allocation.status ≠ .released

/-- A reservation off that way needs nothing. -/
theorem Aggregate.Backing.of_status {aggregate : Aggregate}
    (h : aggregate.reservation.status ∈ [.releasing, .cancelled, .expired, .failed]) :
    aggregate.Backing := by
  refine ⟨fun hs => ?_, fun hs => ?_, fun hs => ?_⟩
  · exfalso
    generalize aggregate.reservation.status = status at h hs
    revert h hs
    cases status <;> decide
  · rw [hs] at h
    exact absurd h (by decide)
  · rw [hs] at h
    exact absurd h (by decide)

theorem Aggregate.Backing.of_released {environment : Environment} {context : ProviderOperationContext}
    {terminalStatus : ReservationStatusModel} {before after : Aggregate}
    (hterminal : terminalStatus ∈ [.cancelled, .expired, .failed])
    (hr : before.Released environment context terminalStatus after) : after.Backing := by
  refine .of_status ?_
  rcases hr.cases with ⟨-, hs, -⟩ | ⟨-, hs, -⟩
  · rw [hs]
    decide
  · rw [hs]
    exact List.mem_cons_of_mem _ hterminal

theorem Aggregate.Covered.backing {environment : Environment} {context : ProviderOperationContext}
    {before after : Aggregate} (h : before.Covered) (hc : before.Confirmed environment context after) :
    after.Backing := by
  have hpass : (Pass.confirm context).Applies environment before after := hc
  refine ⟨fun _ => h.of_pass hpass, fun hs view hv => ?_, fun _ view hv => ?_⟩
  · obtain ⟨view', hv', rfl⟩ := hpass.mem_allocations hv
    rcases hc.cases with ⟨-, hs'⟩ | ⟨-, hs'⟩ | ⟨hflags, -⟩
    · rw [hs'] at hs
      cases hs
    · rw [hs'] at hs
      cases hs
    · exact congrArg confirmation.allocationStatus
        (outcome_of_confirmation_flags environment context hflags view' hv')
  · obtain ⟨view', -, rfl⟩ := hpass.mem_allocations hv
    change confirmation.allocationStatus (confirmation.outcome environment context view') ≠ .released
    cases confirmation.outcome environment context view' <;> decide

/-- Confirming walks meet covered reservations none of whose allocations is released. -/
theorem Request.confirmsAllocated.allocated {event : Event} {database : Database} {walk : Walk}
    {before : Aggregate} (hok : event.request.confirmsAllocated database)
    (hwalk : walk ∈ event.walks database) (hreservation : before.reservation = walk.reservation)
    (hsound : database.Sound) (hb : database.aggregate? walk.reservation.id = some before)
    (hbacking : before.Backing) {context : ProviderOperationContext}
    (hconfirm : walk.pass = .confirm context) : database.Allocated walk.reservation.id := by
  obtain ⟨hoccasion, hstored⟩ := event.occasion hwalk
  cases hoccasion with
  | confirm reservation hrequest hconfirmed hcancelled =>
    rw [hrequest] at hok
    refine (hok reservation (Database.findOwned_self hstored)).resolve_left fun hmem => ?_
    have hor : reservation.status = .confirmed ∨ reservation.status = .cancelled := by simpa using hmem
    exact hor.elim hconfirmed hcancelled
  | cancel reservation hrequest hcancelled hconfirmed hconfirming => cases hconfirm
  | expire reservation limit hrequest hpending => cases hconfirm
  | resumeRelease reservation limit maxAttempts retryBaseDelay terminalStatus hrequest hreleasing
      htarget hterminal => cases hconfirm
  | resumeConfirm reservation limit maxAttempts retryBaseDelay hrequest hconfirming =>
    have hs : before.reservation.status = .confirming := hreservation ▸ hconfirming
    have hcovered := hbacking.covered (by rw [hs]; decide)
    intro item hi
    rw [← (Database.aggregate?_eq_some_iff.mp hb).2.1] at hi
    obtain ⟨view, hv, hid, -, -⟩ := hcovered.unique hsound.wellFormed hb hi
    exact ⟨view.allocation, Database.mem_allocations_of_view hb hv, hid, hbacking.confirming hs view hv⟩

theorem Aggregate.Created.backing {environment : Environment} {reservation : Reservation}
    {exchanges : List Exchange} {held : Bool} {after : Aggregate} {draft : ReservationDraft}
    (hstart : Reservation.start draft = .ok reservation)
    (h : Aggregate.Created environment reservation exchanges held after) : after.Backing := by
  cases h with
  | held _ h =>
    have hs : after.reservation.status = .pending := by
      rw [h.status, (Reservation.start_ok hstart).2.2.2.2.2.1]
      rfl
    refine ⟨fun _ => h.covers, fun hc => ?_, fun hc => ?_⟩
    · rw [hs] at hc
      cases hc
    · rw [hs] at hc
      cases hc
  | compensated before _ done hdone h hr => exact .of_released (by decide) hr

/-! ## Runs -/

namespace System
variable {sha256 : String → String}

theorem maintains_backing :
    Maintains sha256 (fun database event => event.request.confirmsAllocated database)
      Aggregate.Backing where
  created _ _ hstart hcreated := hcreated.backing hstart
  walked := by
    intro database event walk before after hok hwalk hreservation hsound hb hbacking happlies _
    obtain ⟨model, pass⟩ := walk
    cases pass with
    | confirm context =>
      have hallocated := hok.allocated hwalk hreservation hsound hb hbacking rfl
      exact ((hsound.aggregates _ _ hb).covered hsound.wellFormed hb hallocated).backing happlies
    | release context terminalStatus =>
      exact .of_released (event.terminal hwalk) happlies

/-- An order is the order of a sound reservation with all that backs it. -/
theorem ordersBacked_of_backing {database : Database} (hsound : database.Sound)
    (hbacking : ∀ r aggregate, database.aggregate? r = some aggregate → aggregate.Backing) :
    database.OrdersBacked := by
  intro order horder item hitem hr
  have hfound := Table.find?_of_mem horder
  obtain ⟨reservation, hreservation⟩ := Option.isSome_iff_exists.mp
    (hsound.wellFormed.orderReservation order.reservationId (by rw [hfound]; rfl))
  obtain ⟨aggregate, ha⟩ := Option.isSome_iff_exists.mp
    ((database.isSome_aggregate? order.reservationId).trans (by rw [hreservation]; rfl))
  obtain ⟨-, hitems, -, ho⟩ := Database.aggregate?_eq_some_iff.mp ha
  have hstatus : aggregate.reservation.status = .confirmed := by
    rw [← (hsound.aggregates _ _ ha).booked, ho, hfound]
    rfl
  have hb := hbacking _ _ ha
  have hi : item ∈ aggregate.items := by
    rw [hitems]
    exact List.mem_filter.mpr ⟨hitem, decide_eq_true hr⟩
  obtain ⟨view, hv, hid, hquantity, hunique⟩ :=
    (hb.covered (by rw [hstatus]; decide)).unique hsound.wellFormed ha hi
  exact ⟨view.allocation, Database.mem_allocations_of_view ha hv, hid, hb.confirmed hstatus view hv,
    hquantity, hunique⟩

/-- A new order comes from a confirming walk. -/
theorem ordersAllocated_of_backing {database : Database} {event : Event} (hsound : database.Sound)
    (hbacking : ∀ r aggregate, database.aggregate? r = some aggregate → aggregate.Backing)
    (hok : event.request.confirmsAllocated database) :
    OrdersAllocated database (step sha256 database event) := by
  intro order horder hnone
  have hafter := step_sound sha256 hsound event
  have hfound := Table.find?_of_mem horder
  obtain ⟨reservation, hreservation⟩ := Option.isSome_iff_exists.mp
    (hafter.wellFormed.orderReservation order.reservationId (by rw [hfound]; rfl))
  obtain ⟨after, ha⟩ := Option.isSome_iff_exists.mp
    (((step sha256 database event).isSome_aggregate? order.reservationId).trans (by rw [hreservation]; rfl))
  have hstatus : after.reservation.status = .confirmed := by
    rw [← (hafter.aggregates _ _ ha).booked, (Database.aggregate?_eq_some_iff.mp ha).2.2.2, hfound]
    rfl
  have hchange := (step_transition sha256 hsound event).changes order.reservationId
  rw [ha] at hchange
  generalize hb : database.aggregate? order.reservationId = before? at hchange
  cases hchange with
  | kept =>
    have hbooked := (hsound.aggregates _ _ hb).booked.mpr hstatus
    rw [(Database.aggregate?_eq_some_iff.mp hb).2.2.2, hnone] at hbooked
    cases hbooked
  | created userId items idempotencyKey reservation' held after hrequest hstart hid hcreated =>
    cases hcreated with
    | held _ h =>
      rw [h.status, (Reservation.start_ok hstart).2.2.2.2.2.1] at hstatus
      cases hstatus
    | compensated before _ done hdone h hr =>
      rcases hr.cases with ⟨-, hs, -⟩ | ⟨-, hs, -⟩
      · rw [hs] at hstatus
        cases hstatus
      · rw [hs] at hstatus
        cases hstatus
  | walked walk before after hwalk hreservation' hid happlies hanswered =>
    rw [← hid] at hb ⊢
    obtain ⟨model, pass⟩ := walk
    cases pass with
    | confirm context =>
      exact hok.allocated hwalk hreservation' hsound hb (hbacking _ _ hb) rfl
    | release context terminalStatus =>
      have hterminal := event.terminal hwalk
      rcases Aggregate.Released.cases happlies with ⟨-, hs, -⟩ | ⟨-, hs, -⟩
      · rw [hs] at hstatus
        cases hstatus
      · rw [← hs, hstatus] at hterminal
        exact absurd hterminal (by decide)

/-- As long as confirm is asked of allocated reservations, every order is backed by confirmed
allocations, and none appears for items that were not allocated or already released. -/
theorem run_orders_backed {database : Database} {events : List Event} (hinit : database.Initial)
    (hadmissible : Runs.Admissible (step sha256)
      (fun database event => event.request.confirmsAllocated database) database events) :
    (run sha256 database events).OrdersBacked ∧
      ∀ earlier event, events = earlier ++ [event] →
        OrdersAllocated (run sha256 database earlier) (run sha256 database events) := by
  constructor
  · exact ordersBacked_of_backing (run_sound sha256 hinit events) (maintains_backing.run hinit hadmissible)
  · rintro earlier event rfl
    obtain ⟨hearlier, hok, -⟩ := Runs.Admissible.append_iff.mp hadmissible
    have hstep : run sha256 database (earlier ++ [event]) =
        step sha256 (run sha256 database earlier) event := Runs.run_append _ _ _ _
    rw [hstep]
    exact ordersAllocated_of_backing (run_sound sha256 hinit earlier)
      (maintains_backing.run hinit hearlier) hok

/-- A reservation that is created, confirmed without an answer and reconciled gets a backed order. -/
theorem run_orders_backed_reconciled :
    (run Deployment.sha256 Deployment.database
      [Deployment.create 1000 100 0 [Deployment.line 1 10 2, Deployment.line 2 20 1] "a",
        Deployment.confirming .unknown (Deployment.confirm 1100 100 10),
        Deployment.reconcile 1200 100000000]).OrdersBacked :=
  (run_orders_backed Deployment.initial (by decide +kernel)).1

/-- Confirming a reservation whose creation failed orders items that were never held. -/
theorem confirm_orders_failed :
    ¬ ∀ (sha256 : String → String) (database : Database) (events : List Event),
      database.Initial → (run sha256 database events).OrdersBacked := by
  intro h
  refine absurd (h Deployment.sha256 Deployment.database
    [Deployment.outOfStock (Deployment.create 1000 100 0 [Deployment.line 2 20 1] "a"),
      Deployment.confirm 1100 100 10] Deployment.initial) ?_
  decide +kernel

end System
end InventoryReservation
