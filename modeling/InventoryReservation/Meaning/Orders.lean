import InventoryReservation.Meaning.Commit

/-! # Orders and their lines

An order belongs to one stored reservation and its user, and its lines are the items of that
reservation (`Database.OrdersFilled`). Orders are written at the end of a confirming walk only, whole.
-/

namespace InventoryReservation
set_option autoImplicit false

open Relational Transactional

/-- Products and quantities of an order. -/
def Database.orderLines (database : Database) (orderId : Uuid) : List (Uuid × Quantity) :=
  (database.orderItems.rows.filter fun item => item.orderId = orderId).map fun item =>
    (item.productId, item.quantity)

/-- Products and quantities of a reservation. -/
def Database.requestedLines (database : Database) (reservationId : Uuid) : List (Uuid × Quantity) :=
  (database.itemsOf reservationId).map fun item => (item.productId, item.requestedQuantity)

/-- The order is for this reservation: same user, same lines. -/
structure Database.Fills (database : Database) (order : OrderModel) (reservation : ReservationModel) :
    Prop where
  user : order.userId = reservation.userId
  lines : (database.orderLines order.id).Perm (database.requestedLines reservation.id)

structure Database.OrdersFilled (database : Database) : Prop where
  owned : ∀ item ∈ database.orderItems, ∃ order ∈ database.orders, order.id = item.orderId
  filled : ∀ order ∈ database.orders, ∃ reservation,
    database.reservations.find? order.reservationId = some reservation ∧ database.Fills order reservation

namespace Database.OrdersFilled
variable {s t : Database}

/-- Orders stay filled when no line, no item of an ordered reservation and no user changes. -/
theorem of_same (h : s.OrdersFilled) (horders : t.orders = s.orders) (hlines : t.orderItems = s.orderItems)
    (hreservations : ∀ r reservation, s.reservations.find? r = some reservation →
      ∃ reservation', t.reservations.find? r = some reservation' ∧
        reservation'.userId = reservation.userId)
    (hitems : ∀ r, (s.reservations.find? r).isSome → t.itemsOf r = s.itemsOf r) : t.OrdersFilled where
  owned := by
    rw [hlines, horders]
    exact h.owned
  filled order ho := by
    rw [horders] at ho
    obtain ⟨reservation, hf, hfills⟩ := h.filled order ho
    obtain ⟨reservation', hf', huser⟩ := hreservations _ reservation hf
    refine ⟨reservation', hf', hfills.user.trans huser.symm, ?_⟩
    have hid : reservation'.id = reservation.id :=
      (Table.key_of_find? hf').trans (Table.key_of_find? hf).symm
    unfold orderLines requestedLines
    rw [hlines, hid, Table.key_of_find? hf, hitems _ (Option.isSome_iff_exists.mpr ⟨_, hf⟩),
      ← Table.key_of_find? hf]
    exact hfills.lines

theorem of_initial (h : s.Initial) : s.OrdersFilled where
  owned item hi := by
    rw [h.orderItems] at hi
    exact absurd hi (Table.not_mem_empty _)
  filled order ho := by
    rw [h.orders] at ho
    exact absurd ho (Table.not_mem_empty _)

end Database.OrdersFilled

/-! ## Writing an order -/

/-- The row of an item in an order. -/
def ReservationItemModel.orderLine (orderId : Uuid) (item : ReservationItemModel) : OrderItemModel :=
  ⟨orderId, item.productId, item.requestedQuantity⟩

section Placing
variable {s t : Database} (order : OrderModel) {reservation : ReservationModel}
  {items : List ReservationItemModel}

theorem Database.orderLines_of_placed
    (hlines : t.orderItems.rows = s.orderItems.rows ++ items.map (ReservationItemModel.orderLine order.id))
    (orderId : Uuid) :
    t.orderLines orderId = s.orderLines orderId ++
      if order.id = orderId then items.map fun item => (item.productId, item.requestedQuantity) else [] := by
  unfold orderLines
  rw [hlines, List.filter_append, List.map_append, List.append_cancel_left_eq]
  by_cases hid : order.id = orderId
  · rw [if_pos hid, List.filter_eq_self.mpr, List.map_map]
    · rfl
    · intro item hi
      obtain ⟨item', -, rfl⟩ := List.mem_map.mp hi
      exact decide_eq_true hid
  · rw [if_neg hid, List.filter_eq_nil_iff.mpr, List.map_nil]
    intro item hi
    obtain ⟨item', -, rfl⟩ := List.mem_map.mp hi
    exact fun h => hid (of_decide_eq_true h)

/-- A new order comes with the items of its reservation, and other orders keep their lines. -/
theorem Database.OrdersFilled.of_placed (h : s.OrdersFilled)
    (hfree : ∀ other ∈ s.orders, other.id ≠ order.id) (horders : t.orders.rows = s.orders.rows ++ [order])
    (hlines : t.orderItems.rows = s.orderItems.rows ++ items.map (ReservationItemModel.orderLine order.id))
    (hitems : items.Perm (s.itemsOf order.reservationId)) (hsame : t.items = s.items)
    (hreservations : t.reservations = s.reservations)
    (hf : s.reservations.find? order.reservationId = some reservation)
    (huser : order.userId = reservation.userId) : t.OrdersFilled where
  owned item hi := by
    rcases (Table.mem_of_append hlines item).mp hi with hi | hi
    · obtain ⟨other, ho, hid⟩ := h.owned item hi
      exact ⟨other, (Table.mem_of_append horders other).mpr (Or.inl ho), hid⟩
    · obtain ⟨item', -, rfl⟩ := List.mem_map.mp hi
      exact ⟨order, (Table.mem_of_append horders order).mpr (Or.inr (List.mem_singleton_self _)), rfl⟩
  filled other ho := by
    have hrequested : ∀ r, t.requestedLines r = s.requestedLines r := by
      intro r
      unfold requestedLines itemsOf
      rw [hsame]
    rw [hreservations]
    rcases (Table.mem_of_append horders other).mp ho with ho | ho
    · obtain ⟨reservation', hf', hfills⟩ := h.filled other ho
      refine ⟨reservation', hf', hfills.user, ?_⟩
      rw [orderLines_of_placed order hlines, if_neg (hfree other ho).symm, List.append_nil, hrequested]
      exact hfills.lines
    · rw [List.mem_singleton.mp ho]
      refine ⟨reservation, hf, huser, ?_⟩
      have hnone : s.orderLines order.id = [] := by
        unfold orderLines
        rw [List.filter_eq_nil_iff.mpr, List.map_nil]
        intro item hi hid
        obtain ⟨other', ho', hid'⟩ := h.owned item hi
        exact hfree other' ho' (hid'.trans (of_decide_eq_true hid))
      rw [orderLines_of_placed order hlines, if_pos rfl, hnone, List.nil_append, hrequested,
        Table.key_of_find? hf]
      exact hitems.map _

end Placing

theorem ensureOrder_filled {environment : Environment} {reservation row : ReservationModel}
    {s t : Session} {u : Unit} (hfilled : s.database.OrdersFilled)
    (hf : s.database.reservations.find? reservation.id = some row) (huser : row.userId = reservation.userId)
    (h : ensureOrder environment reservation s = .ok u t) : t.database.OrdersFilled := by
  cases ensureOrder_cases h with
  | existing => exact hfilled
  | placed order horder orders orderItems hnone hfresh hinsert hlines =>
    subst horder
    exact Database.OrdersFilled.of_placed ⟨environment.uuid7 s.generated, reservation.id, reservation.userId⟩
      hfilled hfresh (Table.insert?_eq_some_iff.mp hinsert).2 hlines (List.perm_insertionSort _ _) rfl rfl
      hf huser.symm

/-! ## Walks -/

section Walks
variable {environment : Environment} {reservation row : ReservationModel}
  {context : ProviderOperationContext} {s t : Session}

theorem WalkEffect.user {ω : Type} [DecidableEq ω] {S : Settlement ω}
    {write : ReservationModel → ReservationModel} (h : WalkEffect S environment context write s t)
    {r : Uuid} {stored : ReservationModel} (hf : s.database.reservations.find? r = some stored) :
    ∃ stored', t.database.reservations.find? r = some stored' ∧ stored'.userId = stored.userId :=
  ReservationModel.user_of_rewritten h.request h.reservations hf

theorem releaseReservation_orderItems {terminalStatus : ReservationStatusModel}
    {context? : Option ProviderOperationContext} {u : Unit}
    (h : releaseReservation environment reservation terminalStatus context? s = .ok u t) :
    t.database.orderItems = s.database.orderItems := by
  rw [releaseReservation, readDatabase_bind, writeReservation_bind, bind_ok_iff] at h
  obtain ⟨flags, v, hv, h⟩ := h
  have hnodup := s.database.scanAllocations_nodup environment reservation.id
  obtain ⟨-, -, hbooks⟩ := Settlement.settleAllocations_ok releasing_lawful hnodup hv
  obtain ⟨reservations, rfl, -⟩ := concludeRelease_ok h
  exact hbooks.orderItems

theorem releaseReservation_filled {terminalStatus : ReservationStatusModel}
    {context? : Option ProviderOperationContext} {u : Unit}
    (hcontext : context?.getD (.request reservation.id) = context)
    (hid : context.reservationId = reservation.id) (hfilled : s.database.OrdersFilled)
    (h : releaseReservation environment reservation terminalStatus context? s = .ok u t) :
    t.database.OrdersFilled := by
  obtain ⟨heffect, horders⟩ := releaseReservation_ok hcontext hid h
  obtain ⟨rows, -, hpass⟩ := heffect.walk
  exact hfilled.of_same horders (releaseReservation_orderItems h) (fun r stored => heffect.user)
    fun r _ => hpass.itemsOf r

theorem writeReservation_filled {reservationId : Uuid} {assign : ReservationModel → ReservationModel}
    {keeps : ∀ reservation, (assign reservation).id = reservation.id} {u : Unit}
    (hassign : ∀ reservation : ReservationModel, reservation.SameRequest (assign reservation))
    (hfilled : s.database.OrdersFilled) (hf : s.database.reservations.find? reservationId = some row)
    (h : writeReservation environment reservationId assign keeps s = .ok u t) :
    t.database.OrdersFilled ∧ ∃ row', t.database.reservations.find? reservationId = some row' ∧
      row'.userId = row.userId := by
  have hwritten : ∀ reservation : ReservationModel,
      reservation.SameRequest (reservation.written environment assign) := fun reservation =>
    ReservationModel.written_sameRequest environment assign reservation (hassign reservation)
  cases h
  refine ⟨hfilled.of_same rfl rfl (fun r stored => ?_) fun _ _ => rfl, ?_⟩
  · exact ReservationModel.user_of_rewritten hwritten rfl
  · exact ReservationModel.user_of_rewritten hwritten rfl hf

/-- The order is written whole, right after the status it belongs to. -/
theorem concludeConfirmation_filled {flags : PassFlags} {u : Unit} (hfilled : s.database.OrdersFilled)
    (hf : s.database.reservations.find? reservation.id = some row) (huser : row.userId = reservation.userId)
    (h : concludeConfirmation environment reservation flags s = .ok u t) : t.database.OrdersFilled := by
  have hstatus : ∀ (status : ReservationStatusModel) (reservation : ReservationModel),
      reservation.SameRequest { reservation with status } :=
    fun _ _ => ⟨rfl, rfl, rfl, rfl, rfl, rfl⟩
  unfold concludeConfirmation at h
  split at h
  · exact (writeReservation_filled (hstatus .failed) hfilled hf h).1
  · split at h
    · exact (writeReservation_filled (hstatus .confirming) hfilled hf h).1
    · obtain ⟨_, v, hv, h⟩ := bind_ok_iff.mp h
      obtain ⟨hfilled', row', hf', huser'⟩ := writeReservation_filled (hstatus .confirmed) hfilled hf hv
      exact ensureOrder_filled hfilled' hf' (huser'.trans huser) h

/-- A confirming walk over a reservation as it is stored. -/
theorem confirmReservation_filled {result : Option Reservation}
    (hfilled : s.database.OrdersFilled)
    (hf : s.database.reservations.find? reservation.id = some row) (huser : row.userId = reservation.userId)
    (h : confirmReservation environment reservation context s = .ok result t) :
    t.database.OrdersFilled := by
  rw [confirmReservation, readDatabase_bind, bind_ok_iff] at h
  obtain ⟨flags, v, hv, h⟩ := h
  obtain ⟨_, w, hw, h⟩ := bind_ok_iff.mp h
  cases getReservation_ok h
  have hnodup := s.database.scanAllocations_nodup environment reservation.id
  obtain ⟨-, hpass, hbooks⟩ := Settlement.settleAllocations_ok confirmation_lawful hnodup hv
  refine concludeConfirmation_filled (hfilled.of_same hbooks.orders hbooks.orderItems ?_ ?_) ?_ huser hw
  · intro r stored hr
    rw [hbooks.reservations]
    exact ⟨stored, hr, rfl⟩
  · exact fun r _ => hpass.itemsOf r
  · rw [hbooks.reservations]
    exact hf

/-- What is left to do finds its reservations with their users. -/
structure Owned (walks : List Walk) (s : Session) : Prop where
  context : ∀ walk ∈ walks, walk.pass.context.reservationId = walk.reservation.id
  stored : ∀ walk ∈ walks, ∃ stored, s.database.reservations.find? walk.reservation.id = some stored ∧
    stored.userId = walk.reservation.userId

theorem Walk.run_filled {walk : Walk} {walks : List Walk} {u : Unit} (hfilled : s.database.OrdersFilled)
    (howned : Owned (walk :: walks) s) (h : walk.run environment s = .ok u t) :
    t.database.OrdersFilled ∧ Owned walks t := by
  obtain ⟨reservation, pass⟩ := walk
  have hid := howned.context _ List.mem_cons_self
  obtain ⟨stored, hf, huser⟩ := howned.stored _ List.mem_cons_self
  have hrest : (∀ (r : Uuid) (stored : ReservationModel), s.database.reservations.find? r = some stored →
      ∃ stored', t.database.reservations.find? r = some stored' ∧ stored'.userId = stored.userId) →
      Owned walks t := by
    intro huser
    refine ⟨fun walk hw => howned.context walk (List.mem_cons_of_mem _ hw), fun walk hw => ?_⟩
    obtain ⟨stored, hf, howner⟩ := howned.stored walk (List.mem_cons_of_mem _ hw)
    obtain ⟨stored', hf', hsame⟩ := huser _ stored hf
    exact ⟨stored', hf', hsame.trans howner⟩
  cases pass with
  | confirm context =>
    obtain ⟨result, v, hv, h⟩ := bind_ok_iff.mp h
    obtain ⟨-, rfl⟩ := pure_ok_iff.mp h
    obtain ⟨heffect, -⟩ := confirmReservation_ok hid hv
    exact ⟨confirmReservation_filled hfilled hf huser hv, hrest fun r stored => heffect.user⟩
  | release context terminalStatus =>
    have hcontext : (some context).getD (.request reservation.id) = context := rfl
    obtain ⟨heffect, -⟩ := releaseReservation_ok hcontext hid h
    exact ⟨releaseReservation_filled hcontext hid hfilled h,
      hrest fun r stored => heffect.user⟩

end Walks

/-! ## Creations and stock levels -/

section Creations
variable {environment : Environment} {s t : Session}

theorem Stored.filled {reservation : Reservation} {models : List ReservationItemModel}
    (h : Stored environment reservation models s t) (hwf : s.database.WellFormed)
    (hfilled : s.database.OrdersFilled) : t.database.OrdersFilled := by
  have hne : ∀ {r : Uuid} {stored : ReservationModel},
      s.database.reservations.find? r = some stored → r ≠ reservation.id := by
    rintro r stored hf rfl
    rw [h.free] at hf
    cases hf
  refine hfilled.of_same (by rw [h.tables]) (by rw [h.tables]) (fun r stored hf => ?_) fun r hr => ?_
  · rw [h.findReservation, if_neg (hne hf)]
    exact ⟨stored, hf, rfl⟩
  · obtain ⟨stored, hf⟩ := Option.isSome_iff_exists.mp hr
    rw [h.itemsOf hwf, if_neg (hne hf)]

theorem HoldPhase.filled {done : List ReservationItemModel} (h : HoldPhase done s t)
    (hfilled : s.database.OrdersFilled) : t.database.OrdersFilled := by
  rw [h.tables]
  exact hfilled.of_same rfl rfl (fun _ stored hf => ⟨stored, hf, rfl⟩) fun _ _ => rfl

theorem Compensated.filled {reservation : ReservationModel} (h : Compensated environment reservation s t)
    (hfilled : s.database.OrdersFilled) : t.database.OrdersFilled := by
  obtain ⟨v, result, hrelease, -, hdatabase, hrows⟩ := h.release
  have hcontext : Option.getD none (.request reservation.id) =
      ProviderOperationContext.request reservation.id := rfl
  refine releaseReservation_filled hcontext rfl ?_ hrelease
  rw [hdatabase]
  exact hfilled.of_same rfl rfl (fun r stored => ReservationModel.user_of_rewritten
    (failureWrite_sameRequest environment) hrows) fun _ _ => rfl

theorem addWithHold_filled {reservation : Reservation} {held : Bool} (hwf : s.database.WellFormed)
    (hfilled : s.database.OrdersFilled) (h : addWithHold environment reservation s = .ok held t) :
    t.database.OrdersFilled := by
  rw [addWithHold] at h
  obtain ⟨models, v, hv, h⟩ := bind_ok_iff.mp h
  have hstored := addReservation_ok hv
  have hfilledv := hstored.filled hwf hfilled
  have hitems : ∀ item ∈ models, item ∈ v.database.items := fun item hi =>
    (Table.mem_of_append hstored.items item).mpr (Or.inr hi)
  rcases holdItems_ok hitems h with ⟨-, hphase⟩ | ⟨-, done, u, -, hphase, hcompensated⟩
  · exact hphase.filled hfilledv
  · exact hcompensated.filled (hphase.filled hfilledv)

end Creations

/-! ## Steps -/

namespace System
variable {sha256 : String → String} {event : Event} {database : Database} {t : Session}

theorem Committed.filled (hsound : database.Sound) (hfilled : database.OrdersFilled)
    (h : Committed sha256 event database t) : t.database.OrdersFilled := by
  cases h with
  | found => exact hfilled
  | walked t h =>
    have howned : Owned (event.walks database) (.start database) := by
      refine ⟨fun walk hw => event.walk_context hw, fun walk hw => ?_⟩
      exact ⟨walk.reservation, (event.occasion hw).2, rfl⟩
    exact (forEach_ok (P := fun walks s => s.database.OrdersFilled ∧ Owned walks s)
      (fun walk walks s t hP hrun => Walk.run_filled hP.1 hP.2 hrun) ⟨hfilled, howned⟩ h).1
  | created userId items idempotencyKey reservation held t hrequest hnone hstart h =>
    exact addWithHold_filled (s := .start database) hsound.wellFormed hfilled h
  | leveled t heffect hexchanges =>
    rw [heffect.tables]
    exact hfilled.of_same rfl rfl (fun _ stored hf => ⟨stored, hf, rfl⟩) fun _ _ => rfl

theorem step_filled (hsound : database.Sound) (hfilled : database.OrdersFilled) :
    (step sha256 database event).OrdersFilled :=
  step_of_commit hfilled fun _ hc => (commit_cases hsound.booked hc).filled hsound hfilled

theorem run_filled (sha256 : String → String) (hinit : database.Initial) (events : List Event) :
    (run sha256 database events).OrdersFilled :=
  (Runs.run_invariant_of_all (I := fun database : Database => database.Sound ∧ database.OrdersFilled)
    (fun _ event hd => ⟨step_sound sha256 hd.1 event, step_filled hd.1 hd.2⟩)
    ⟨.of_initial hinit, .of_initial hinit⟩ events).2

end System
end InventoryReservation
