import InventoryReservation.Meaning.Orders
import InventoryReservation.Meaning.Resting
import InventoryReservation.Guarantees.StockConservation

/-! # Repeated requests

Confirming and cancelling can be repeated. Once a call has returned, the next one finds no units to settle
and no order to place, and if the first left nothing open but unknown outcomes it asks no provider and
answers the same.
-/

namespace InventoryReservation
set_option autoImplicit false

open Relational Transactional

/-! ## The statement -/

namespace SettlementKind

/-- The request of a customer. -/
def request : SettlementKind → Uuid → Uuid → Request
  | confirm, reservationId, userId => .confirm reservationId userId
  | release, reservationId, userId => .cancel reservationId userId

/-- The status of a reservation for which the request is done. -/
def finalStatus : SettlementKind → ReservationStatusModel
  | confirm => .confirmed
  | release => .cancelled

/-- The status while outcomes are awaited. -/
def waitingStatus : SettlementKind → ReservationStatusModel
  | confirm => .confirming
  | release => .releasing

end SettlementKind

/-- Outcomes are awaited, and every external operation that has not succeeded is unknown. -/
structure Aggregate.AwaitsUnknown (kind : SettlementKind) (aggregate : Aggregate) : Prop where
  waiting : aggregate.reservation.status = kind.waitingStatus
  unresolved : ∀ view ∈ aggregate.allocations, view.provider.kind = .external →
    ∀ operation ∈ view.operation kind, operation.status ≠ .succeeded → operation.status = .unknown

instance (kind : SettlementKind) (aggregate : Aggregate) : Decidable (aggregate.AwaitsUnknown kind) :=
  decidable_of_iff (aggregate.reservation.status = kind.waitingStatus ∧
      ∀ view ∈ aggregate.allocations, view.provider.kind = .external →
        ∀ operation ∈ view.operation kind, operation.status ≠ .succeeded → operation.status = .unknown)
    ⟨fun h => ⟨h.1, h.2⟩, fun h => ⟨h.waiting, h.unresolved⟩⟩

/-- A customer's call on a reservation, made again after operations on other reservations. -/
structure RepeatsSafely (sha256 : String → String) (call again : Event) (reservationId : Uuid)
    (kind : SettlementKind) (before between : Database) : Prop where
  offers : ∀ k, (System.step sha256 between again).offers.find? k = between.offers.find? k
  orders : ∃ placed placed' : List OrderModel,
    (System.step sha256 before call).orders.rows = before.orders.rows ++ placed ∧
      (System.step sha256 between again).orders.rows = between.orders.rows ++ placed' ∧
      (placed ++ placed').length ≤ 1
  final : (∀ aggregate ∈ (System.step sha256 before call).aggregate? reservationId,
      aggregate.reservation.status = kind.finalStatus) →
    (System.execute sha256 again between).exchanges = [] ∧
      (System.execute sha256 again between).result = (System.execute sha256 call before).result
  waiting : (∀ aggregate ∈ (System.step sha256 before call).aggregate? reservationId,
      aggregate.AwaitsUnknown kind) →
    again.environment.providerRegistry = call.environment.providerRegistry →
    (System.execute sha256 again between).exchanges = [] ∧
      (System.execute sha256 again between).result = (System.execute sha256 call before).result

/-! ## How a call goes -/

namespace SettlementKind

/-- The repository function behind the request. -/
def call : SettlementKind → Environment → Uuid → Uuid → TransactionM (Option Reservation)
  | confirm => InventoryReservation.confirm
  | release => cancel

/-- The walk of the request. -/
def pass : SettlementKind → Uuid → Pass
  | confirm, reservationId => .confirm (.request reservationId)
  | release, reservationId => .release (.request reservationId) .cancelled

/-- The statuses in which the request raises. -/
def refuses : SettlementKind → ReservationStatusModel → Prop
  | confirm, status => status = .cancelled
  | release, status => status = .confirmed ∨ status = .confirming

/-- How a call that returned went. -/
inductive Called (kind : SettlementKind) (environment : Environment) (reservationId userId : Uuid)
    (s : Session) : Option Reservation → Session → Prop
  | absent (h : s.database.findOwned reservationId userId = none) :
      Called kind environment reservationId userId s none s
  | final (reservation : ReservationModel) (result : Option Reservation)
      (h : s.database.findOwned reservationId userId = some reservation)
      (hstatus : reservation.status = kind.finalStatus)
      (hloaded : getReservation reservationId s = .ok result s) :
      Called kind environment reservationId userId s result s
  | walked (reservation : ReservationModel) (result : Option Reservation) (t : Session)
      (h : s.database.findOwned reservationId userId = some reservation)
      (hstatus : reservation.status ≠ kind.finalStatus) (hallowed : ¬ kind.refuses reservation.status)
      (hwalk : Walk.run environment ⟨reservation, kind.pass reservationId⟩ s = .ok () t)
      (hloaded : getReservation reservationId t = .ok result t) :
      Called kind environment reservationId userId s result t

variable {kind : SettlementKind} {environment : Environment} {reservationId userId : Uuid}
  {s t : Session} {result : Option Reservation}

theorem confirmReservation_loaded {reservation : ReservationModel} {context : ProviderOperationContext}
    (h : confirmReservation environment reservation context s = .ok result t) :
    getReservation reservation.id t = .ok result t := by
  rw [confirmReservation, readDatabase_bind] at h
  obtain ⟨flags, v, -, h⟩ := bind_ok_iff.mp h
  obtain ⟨_, w, -, h⟩ := bind_ok_iff.mp h
  cases getReservation_ok h
  exact h

/-- The order of a confirmed reservation is there already. -/
theorem ensureOrder_confirmed {reservation : ReservationModel} (hbooked : s.database.Booked)
    (ho : s.database.findOwned reservationId userId = some reservation)
    (hstatus : reservation.status = .confirmed) :
    ensureOrder environment reservation s = .ok () s := by
  obtain ⟨hf, hid, -⟩ := Database.findOwned_eq_some ho
  have horder : (s.database.orders.find? reservationId).isSome :=
    hbooked reservationId ⟨reservation, _, _, _⟩
      (Database.aggregate?_eq_some_iff.mpr ⟨hf, rfl, rfl, rfl⟩) hstatus
  obtain ⟨order, horder⟩ := Option.isSome_iff_exists.mp horder
  rw [ensureOrder, readDatabase_bind, hid, horder]
  rfl

theorem confirm_ok_iff (hbooked : s.database.Booked) :
    InventoryReservation.confirm environment reservationId userId s = .ok result t ↔
      confirm.Called environment reservationId userId s result t := by
  constructor
  · intro h
    cases confirm_cases h with
    | absent ho => exact .absent ho
    | confirmed reservation _ _ ho hstatus horder hloaded =>
      obtain ⟨-, rfl, -⟩ := Database.findOwned_eq_some ho
      cases horder.symm.trans (ensureOrder_confirmed hbooked ho hstatus)
      exact .final reservation result ho hstatus hloaded
    | walked reservation _ _ ho hstatus hwalk =>
      obtain ⟨-, rfl, -⟩ := Database.findOwned_eq_some ho
      obtain ⟨hc, hallowed⟩ := not_or.mp hstatus
      exact .walked reservation result t ho hc hallowed (bind_ok_iff.mpr ⟨result, t, hwalk, rfl⟩)
        (confirmReservation_loaded hwalk)
  · intro h
    rw [InventoryReservation.confirm, readDatabase_bind]
    cases h with
    | absent ho =>
      rw [ho]
      rfl
    | final reservation _ ho hc hloaded =>
      obtain ⟨-, rfl, -⟩ := Database.findOwned_eq_some ho
      have hc : reservation.status = .confirmed := hc
      simp only [ho]
      rw [if_pos hc, bind_of_ok (ensureOrder_confirmed hbooked ho hc), hloaded]
    | walked reservation _ _ ho hc hallowed hwalk hloaded =>
      obtain ⟨-, rfl, -⟩ := Database.findOwned_eq_some ho
      have hc : ¬ reservation.status = .confirmed := hc
      have hallowed : ¬ reservation.status = .cancelled := hallowed
      obtain ⟨result', v, hrun, hv⟩ := bind_ok_iff.mp hwalk
      obtain ⟨-, rfl⟩ := pure_ok_iff.mp hv
      simp only [ho]
      rw [if_neg hc, if_neg hallowed]
      cases hloaded.symm.trans (confirmReservation_loaded hrun)
      exact hrun

theorem cancel_ok_iff :
    cancel environment reservationId userId s = .ok result t ↔
      release.Called environment reservationId userId s result t := by
  constructor
  · intro h
    cases cancel_cases h with
    | absent ho => exact .absent ho
    | cancelled reservation _ ho hstatus hloaded =>
      obtain ⟨-, rfl, -⟩ := Database.findOwned_eq_some ho
      exact .final reservation result ho hstatus hloaded
    | walked reservation _ _ ho hstatus hwalk hloaded =>
      obtain ⟨-, rfl, -⟩ := Database.findOwned_eq_some ho
      obtain ⟨hc, hallowed⟩ := not_or.mp hstatus
      exact .walked reservation result t ho hc hallowed hwalk hloaded
  · intro h
    rw [cancel, readDatabase_bind]
    cases h with
    | absent ho =>
      rw [ho]
      rfl
    | final reservation _ ho hc hloaded =>
      obtain ⟨-, rfl, -⟩ := Database.findOwned_eq_some ho
      have hc : reservation.status = .cancelled := hc
      simp only [ho]
      rw [if_pos hc, hloaded]
    | walked reservation _ _ ho hc hallowed hwalk hloaded =>
      obtain ⟨-, rfl, -⟩ := Database.findOwned_eq_some ho
      have hc : ¬ reservation.status = .cancelled := hc
      obtain ⟨hconfirmed, hconfirming⟩ := not_or.mp hallowed
      simp only [ho]
      rw [if_neg hc, if_neg hconfirmed, if_neg hconfirming]
      exact bind_ok_iff.mpr ⟨(), t, hwalk, hloaded⟩

/-- Both calls, read forwards and backwards. -/
theorem call_ok_iff (hbooked : s.database.Booked) :
    kind.call environment reservationId userId s = .ok result t ↔
      kind.Called environment reservationId userId s result t := by
  cases kind with
  | confirm => exact confirm_ok_iff hbooked
  | release => exact cancel_ok_iff

end SettlementKind

/-! ## Offers -/

section Walks
variable {environment : Environment} {walk : Walk} {s t : Session} {u : Unit}

/-- A walk that has nothing to settle at an offer leaves the offers as they are. -/
theorem Walk.run_offers (hid : walk.pass.context.reservationId = walk.reservation.id)
    (hidle : ∀ row ∈ s.database.allocationRows walk.reservation.id, ¬ walk.pass.draws row)
    (h : walk.run environment s = .ok u t) (k : Uuid × Uuid) :
    t.database.offers.find? k = s.database.offers.find? k := by
  obtain ⟨reservation, pass⟩ := walk
  cases pass with
  | confirm context =>
    have hid : context.reservationId = reservation.id := hid
    obtain ⟨result, v, hv, h⟩ := bind_ok_iff.mp h
    obtain ⟨-, rfl⟩ := pure_ok_iff.mp h
    obtain ⟨rows, hrows, hpass⟩ := (confirmReservation_ok hid hv).1.walk
    rw [hid] at hrows
    exact hpass.offers_of_idle fun row hrow hd => hidle row (hrows.mem_iff.mp hrow) hd.1
  | release context terminalStatus =>
    have hid : context.reservationId = reservation.id := hid
    have hcontext : (some context).getD (.request reservation.id) = context := rfl
    obtain ⟨rows, hrows, hpass⟩ := (releaseReservation_ok hcontext hid h).1.walk
    rw [hid] at hrows
    exact hpass.offers_of_idle fun row hrow hd => hidle row (hrows.mem_iff.mp hrow) hd.1

/-- Internal allocations are settled by the pass whatever they were before. -/
theorem Pass.settle_internal (environment : Environment) (pass : Pass) {view : AllocationView}
    (hk : view.provider.kind = .internal) :
    (pass.settle environment view).allocation.status = pass.kind.settledStatus := by
  cases pass with
  | confirm context => exact congrArg confirmation.allocationStatus (Settlement.outcome_of_internal hk)
  | release context terminalStatus =>
    exact congrArg releasing.allocationStatus (Settlement.outcome_of_internal hk)

theorem Pass.not_draws {pass : Pass} {row : AllocationRow}
    (h : row.provider.kind = .internal → row.allocation.status = pass.kind.settledStatus) : ¬ pass.draws row := by
  cases pass with
  | confirm context => exact fun hd => hd.1 (h hd.2)
  | release context terminalStatus => exact fun hd => hd.1 (h hd.2)

/-! ## Orders -/

/-- At most one order was placed, and none if the reservation has one. -/
structure Places (reservationId : Uuid) (placed : List OrderModel) (s t : Database) : Prop where
  rows : t.orders.rows = s.orders.rows ++ placed
  once : placed.length ≤ 1
  ordered : (s.orders.find? reservationId).isSome → placed = []
  found : placed ≠ [] → (t.orders.find? reservationId).isSome

theorem Places.of_same {r : Uuid} {s t : Database} (h : t.orders = s.orders) : Places r [] s t where
  rows := by rw [h, List.append_nil]
  once := Nat.zero_le 1
  ordered _ := rfl
  found hne := absurd rfl hne

theorem ensureOrder_places {reservation : ReservationModel} (h : ensureOrder environment reservation s = .ok u t) :
    ∃ placed, Places reservation.id placed s.database t.database := by
  have hfound := (ensureOrder_ok h).2.2
  cases ensureOrder_cases h with
  | existing => exact ⟨[], .of_same rfl⟩
  | placed order horder orders orderItems hnone hfresh hinsert hlines =>
    refine ⟨[order], (Table.insert?_eq_some_iff.mp hinsert).2, le_rfl, fun hsome => ?_, fun _ => hfound⟩
    rw [hnone] at hsome
    cases hsome

theorem Walk.run_places (hid : walk.pass.context.reservationId = walk.reservation.id)
    (h : walk.run environment s = .ok u t) :
    ∃ placed, Places walk.reservation.id placed s.database t.database := by
  obtain ⟨reservation, pass⟩ := walk
  cases pass with
  | confirm context =>
    obtain ⟨result, v, hv, h⟩ := bind_ok_iff.mp h
    obtain ⟨-, rfl⟩ := pure_ok_iff.mp h
    rw [confirmReservation, readDatabase_bind] at hv
    obtain ⟨flags, w, hw, hv⟩ := bind_ok_iff.mp hv
    obtain ⟨_, x, hx, hv⟩ := bind_ok_iff.mp hv
    cases getReservation_ok hv
    have hnodup := s.database.scanAllocations_nodup environment reservation.id
    obtain ⟨-, -, hbooks⟩ := Settlement.settleAllocations_ok confirmation_lawful hnodup hw
    unfold concludeConfirmation at hx
    by_cases hf : flags.failed
    · rw [if_pos hf] at hx
      cases hx
      exact ⟨[], .of_same hbooks.orders⟩
    · rw [if_neg hf] at hx
      by_cases hp : flags.pending
      · rw [if_pos hp] at hx
        cases hx
        exact ⟨[], .of_same hbooks.orders⟩
      · rw [if_neg hp, writeReservation_bind] at hx
        obtain ⟨placed, hplaced⟩ := ensureOrder_places hx
        have hrows := hplaced.rows
        have hordered := hplaced.ordered
        dsimp only at hrows hordered
        rw [hbooks.orders] at hrows hordered
        exact ⟨placed, hrows, hplaced.once, hordered, hplaced.found⟩
  | release context terminalStatus =>
    have hid : context.reservationId = reservation.id := hid
    have hcontext : (some context).getD (.request reservation.id) = context := rfl
    exact ⟨[], .of_same (releaseReservation_ok hcontext hid h).2⟩

end Walks

/-! ## The call again -/

/-- What is read of a reservation is read off its aggregate. -/
theorem getReservation_of_aggregate {reservationId : Uuid} {s s' : Session} {result : Option Reservation}
    (hsame : s'.database.aggregate? reservationId = s.database.aggregate? reservationId)
    (h : getReservation reservationId s = .ok result s) : getReservation reservationId s' = .ok result s' := by
  rw [getReservation, readDatabase_bind] at h ⊢
  cases ha : s.database.aggregate? reservationId with
  | none =>
    have hf : s.database.reservations.find? reservationId = none := by
      rw [← Database.aggregate?_reservation, ha]
      rfl
    have hf' : s'.database.reservations.find? reservationId = none := by
      rw [← Database.aggregate?_reservation, hsame, ha]
      rfl
    rw [hf] at h
    rw [hf']
    obtain ⟨rfl, -⟩ := pure_ok_iff.mp h
    rfl
  | some aggregate =>
    obtain ⟨hf, hitems, -⟩ := Database.aggregate?_eq_some_iff.mp ha
    obtain ⟨hf', hitems', -⟩ := Database.aggregate?_eq_some_iff.mp (hsame.trans ha)
    have hid : aggregate.reservation.id = reservationId := Table.key_of_find? hf
    have hdomain : s'.database.toDomain aggregate.reservation = s.database.toDomain aggregate.reservation := by
      unfold Database.toDomain Database.itemsByProduct
      rw [hid, ← hitems, ← hitems']
    rw [hf, toDomain, readDatabase_bind] at h
    rw [hf', toDomain, readDatabase_bind, hdomain]
    obtain ⟨loaded, hloaded, h⟩ := ofExcept_bind_ok_iff.mp h
    obtain ⟨rfl, -⟩ := pure_ok_iff.mp h
    rw [hloaded]
    rfl

theorem Database.findOwned_of_aggregate {database database' : Database} {reservationId : Uuid}
    (hsame : database'.aggregate? reservationId = database.aggregate? reservationId) (userId : Uuid) :
    database'.findOwned reservationId userId = database.findOwned reservationId userId := by
  unfold findOwned
  rw [← Database.aggregate?_reservation, hsame, Database.aggregate?_reservation]

namespace SettlementKind
variable {kind : SettlementKind} {first second : Environment} {reservationId userId : Uuid}
  {s t s' t' : Session} {result result' : Option Reservation} {reservation : ReservationModel}

theorem pass_context (kind : SettlementKind) (reservationId : Uuid) :
    (kind.pass reservationId).context.reservationId = reservationId := by
  cases kind <;> rfl

/-- What the walk of a call left of its reservation, which still belongs to the same user. -/
theorem walked_aggregate (hwf : s.database.WellFormed)
    (h : s.database.findOwned reservationId userId = some reservation)
    (hwalk : Walk.run first ⟨reservation, kind.pass reservationId⟩ s = .ok () t) :
    ∃ before after, s.database.aggregate? reservationId = some before ∧
      t.database.aggregate? reservationId = some after ∧
      (kind.pass reservationId).Applies first before after ∧
      t.database.findOwned reservationId userId = some after.reservation := by
  obtain ⟨hf, rfl, rfl⟩ := Database.findOwned_eq_some h
  have hstored : (s.database.reservations.find? reservation.id).isSome :=
    Option.isSome_iff_exists.mpr ⟨reservation, hf⟩
  have hwalked := Walk.run_ok hwf (pass_context kind reservation.id) hstored hwalk
  obtain ⟨before, after, hb, ha, happlies, -⟩ := hwalked.applied _ List.mem_cons_self
  refine ⟨before, after, hb, ha, happlies, ?_⟩
  have hbefore : before.reservation = reservation :=
    Option.some.inj ((Database.aggregate?_eq_some_iff.mp hb).1.symm.trans hf)
  have huser := happlies.request.userId
  rw [hbefore] at huser
  exact Option.filter_eq_some_iff.mpr ⟨(Database.aggregate?_eq_some_iff.mp ha).1, decide_eq_true huser⟩

/-- After a call that returned there is nothing to settle at an offer. -/
theorem Called.idle (hwf : s.database.WellFormed)
    (h : kind.Called first reservationId userId s result t)
    (hsame : s'.database.aggregate? reservationId = t.database.aggregate? reservationId)
    (h' : kind.Called second reservationId userId s' result' t') (k : Uuid × Uuid) :
    t'.database.offers.find? k = s'.database.offers.find? k := by
  cases h' with
  | absent => rfl
  | final => rfl
  | walked reservation' _ _ ho' hstatus' hallowed' hwalk' hloaded' =>
    have howned := Database.findOwned_of_aggregate hsame userId
    rw [ho'] at howned
    obtain ⟨-, hid', -⟩ := Database.findOwned_eq_some ho'
    subst hid'
    refine Walk.run_offers (pass_context kind reservation'.id) ?_ hwalk' k
    cases h with
    | absent ho =>
      rw [ho] at howned
      cases howned
    | final reservation _ ho hstatus hloaded =>
      cases howned.trans ho
      exact absurd hstatus hstatus'
    | walked reservation _ _ ho hstatus hallowed hwalk hloaded =>
      obtain ⟨before, after, hb, ha, happlies, -⟩ := walked_aggregate hwf ho hwalk
      rw [ha] at hsame
      intro row hrow
      refine Pass.not_draws fun hk => ?_
      obtain ⟨view, -, hview⟩ := happlies.mem_allocations (Database.view_mem hsame hrow)
      have hkind : view.provider.kind = .internal := by
        rw [← Pass.settle_provider first (kind.pass reservation'.id) view, ← hview]
        exact hk
      have hsettled := Pass.settle_internal first (kind.pass reservation'.id) hkind
      rw [← hview] at hsettled
      exact hsettled

theorem Called.places (h : kind.Called first reservationId userId s result t) :
    ∃ placed, Places reservationId placed s.database t.database := by
  cases h with
  | absent => exact ⟨[], .of_same rfl⟩
  | final => exact ⟨[], .of_same rfl⟩
  | walked reservation _ _ ho hstatus hallowed hwalk hloaded =>
    obtain ⟨-, rfl, -⟩ := Database.findOwned_eq_some ho
    exact Walk.run_places (pass_context kind reservation.id) hwalk

/-- A reservation for which an order was placed has it. -/
theorem Called.ordered (hwf : s.database.WellFormed) (h : kind.Called first reservationId userId s result t)
    {placed : List OrderModel} (hplaced : Places reservationId placed s.database t.database)
    (hne : placed ≠ []) :
    ∃ aggregate, t.database.aggregate? reservationId = some aggregate ∧ aggregate.order.isSome := by
  cases h with
  | absent => exact absurd (List.self_eq_append_right.mp hplaced.rows) hne
  | final => exact absurd (List.self_eq_append_right.mp hplaced.rows) hne
  | walked reservation _ _ ho hstatus hallowed hwalk hloaded =>
    obtain ⟨before, after, -, ha, -, -⟩ := walked_aggregate hwf ho hwalk
    refine ⟨after, ha, ?_⟩
    rw [(Database.aggregate?_eq_some_iff.mp ha).2.2.2]
    exact hplaced.found hne

/-- Once a reservation is in its final status, the call only reads. -/
theorem Called.again_final (hwf : s.database.WellFormed) (h : kind.Called first reservationId userId s result t)
    (hsame : s'.database.aggregate? reservationId = t.database.aggregate? reservationId)
    (hfinal : ∀ aggregate ∈ t.database.aggregate? reservationId,
      aggregate.reservation.status = kind.finalStatus) :
    kind.Called second reservationId userId s' result s' := by
  have howned := Database.findOwned_of_aggregate hsame userId
  cases h with
  | absent ho => exact .absent (howned.trans ho)
  | final reservation _ ho hstatus hloaded =>
    exact .final reservation result (howned.trans ho) hstatus (getReservation_of_aggregate hsame hloaded)
  | walked reservation _ _ ho hstatus hallowed hwalk hloaded =>
    obtain ⟨before, after, -, ha, -, ho'⟩ := walked_aggregate hwf ho hwalk
    exact .final after.reservation result (howned.trans ho') (hfinal after ha)
      (getReservation_of_aggregate hsame hloaded)

/-- The allocations of a reservation rest after a walk that left unknown outcomes only. -/
theorem allocationViews_rest {ω : Type} [DecidableEq ω] {S : Settlement ω} (hS : S.Lawful)
    (hstatus : S.allocationStatus S.unknown ≠ S.settledStatus) {database : Database}
    {before after : List AllocationView} (hbefore : before = database.allocationViews reservationId)
    (hafter : after = before.map (S.settle first (.request reservationId)))
    (hunresolved : ∀ view ∈ after, view.provider.kind = .external →
      ∀ operation ∈ view.operation S.kind, operation.status ≠ .succeeded → operation.status = .unknown)
    (hchecked : ∀ row ∈ database.allocationRows reservationId, ¬ S.passes row →
      row.provider.kind = .external → S.Checked first row)
    (hregistry : second.providerRegistry = first.providerRegistry) :
    (∀ view ∈ after, S.Rests second (.request reservationId) view) ∧
      S.flags second (.request reservationId) after = S.flags first (.request reservationId) before := by
  subst hafter
  refine Settlement.settle_views_rest hS rfl hstatus hunresolved ?_
  rw [hbefore]
  intro view hview hp hk
  obtain ⟨row, hrow, rfl⟩ := List.mem_map.mp hview
  exact (hchecked row hrow hp hk).of_registry hregistry

/-- Walking again over a reservation whose outcomes are awaited as unknown. -/
theorem run_again (ho : s.database.findOwned reservationId userId = some reservation)
    (hwf : s.database.WellFormed)
    (hwalk : Walk.run first ⟨reservation, kind.pass reservationId⟩ s = .ok () t)
    (hsame : s'.database.aggregate? reservationId = t.database.aggregate? reservationId) {after : Aggregate}
    (ha : t.database.aggregate? reservationId = some after) (hawaits : after.AwaitsUnknown kind)
    (hregistry : second.providerRegistry = first.providerRegistry)
    (hloaded : getReservation reservationId s' = .ok result s') :
    Walk.run second ⟨after.reservation, kind.pass reservationId⟩ s' = .ok () s' := by
  obtain ⟨before, after', hb, ha', happlies, -⟩ := walked_aggregate hwf ho hwalk
  cases ha.symm.trans ha'
  obtain ⟨-, rfl, -⟩ := Database.findOwned_eq_some ho
  rw [ha] at hsame
  obtain ⟨hstored, -, hviews, -⟩ := Database.aggregate?_eq_some_iff.mp hsame
  have hid : after.reservation.id = reservation.id := Table.key_of_find? hstored
  have hbefore : before.allocations = s.database.allocationViews reservation.id :=
    (Database.aggregate?_eq_some_iff.mp hb).2.2.1
  rw [← hid] at hstored hviews hloaded
  cases kind with
  | confirm =>
    have hconfirmed : before.Confirmed first (.request reservation.id) after := happlies
    have hwaiting : after.reservation.status = .confirming := hawaits.waiting
    obtain ⟨result', v, hv, -⟩ := bind_ok_iff.mp hwalk
    obtain ⟨hrests, hkept⟩ := allocationViews_rest confirmation_lawful (by decide) hbefore
      hconfirmed.allocations hawaits.unresolved (confirmReservation_checked hv) hregistry
    have hflags : confirmation.flags first (.request reservation.id) before.allocations = ⟨true, false⟩ := by
      rcases hconfirmed.cases with ⟨-, hs⟩ | ⟨hf, -⟩ | ⟨-, hs⟩
      · cases hwaiting.symm.trans hs
      · exact hf
      · cases hwaiting.symm.trans hs
    refine bind_ok_iff.mpr ⟨result, s', ?_, rfl⟩
    rw [hviews] at hrests hkept
    rw [confirmReservation_rests hid.symm hrests (hkept.trans hflags) hstored hwaiting]
    exact hloaded
  | release =>
    have hreleased : before.Released first (.request reservation.id) .cancelled after := happlies
    have hwaiting : after.reservation.status = .releasing := hawaits.waiting
    obtain ⟨hrests, hkept⟩ := allocationViews_rest releasing_lawful (by decide) hbefore
      hreleased.allocations hawaits.unresolved (releaseReservation_checked hwalk) hregistry
    rw [hviews, ← hid] at hrests hkept
    rw [← hid] at hreleased ⊢
    rcases hreleased.cases with ⟨hp, -, ht⟩ | ⟨-, hs, -⟩
    · exact releaseReservation_rests hrests (hkept ▸ hp) hstored hwaiting ht
    · cases hwaiting.symm.trans hs

theorem waitingStatus_ne_final (kind : SettlementKind) : kind.waitingStatus ≠ kind.finalStatus := by
  cases kind <;> decide

theorem waitingStatus_allowed (kind : SettlementKind) : ¬ kind.refuses kind.waitingStatus := by
  cases kind <;> simp [refuses, waitingStatus]

/-- While all open outcomes are unknown, the call changes nothing and asks nobody. -/
theorem Called.again_waiting (hwf : s.database.WellFormed) (h : kind.Called first reservationId userId s result t)
    (hsame : s'.database.aggregate? reservationId = t.database.aggregate? reservationId)
    (hawaits : ∀ aggregate ∈ t.database.aggregate? reservationId, aggregate.AwaitsUnknown kind)
    (hregistry : second.providerRegistry = first.providerRegistry) :
    kind.Called second reservationId userId s' result s' := by
  have howned := Database.findOwned_of_aggregate hsame userId
  cases h with
  | absent ho => exact .absent (howned.trans ho)
  | final reservation _ ho hstatus hloaded =>
    exact .final reservation result (howned.trans ho) hstatus (getReservation_of_aggregate hsame hloaded)
  | walked reservation _ _ ho hstatus hallowed hwalk hloaded =>
    obtain ⟨before, after, -, ha, -, ho'⟩ := walked_aggregate hwf ho hwalk
    have hwaiting := (hawaits after ha).waiting
    have hloaded' := getReservation_of_aggregate hsame hloaded
    refine .walked after.reservation result s' (howned.trans ho') ?_ ?_ ?_ hloaded'
    · rw [hwaiting]
      exact waitingStatus_ne_final kind
    · rw [hwaiting]
      exact waitingStatus_allowed kind
    · exact run_again ho hwf hwalk hsame ha (hawaits after ha) hregistry hloaded'

end SettlementKind

namespace System
variable {sha256 : String → String} {kind : SettlementKind} {environment : Environment}
  {reservationId userId : Uuid} {database : Database} {t : Session} {result : Option Reservation}

theorem execute_request (kind : SettlementKind) :
    execute sha256 ⟨environment, kind.request reservationId userId⟩ database =
      (reservationTransaction (kind.call environment reservationId userId) database).map .found := by
  cases kind <;> rfl

theorem commit_request (kind : SettlementKind) :
    commit sha256 ⟨environment, kind.request reservationId userId⟩ database =
      commitOf (kind.call environment reservationId userId) database := by
  cases kind <;> rfl

theorem execute_of_call (h : kind.call environment reservationId userId (.start database) = .ok result t) :
    execute sha256 ⟨environment, kind.request reservationId userId⟩ database =
      ⟨.ok (.found result), t.database, t.exchanges⟩ := by
  rw [execute_request, reservationTransaction_of_ok h]
  rfl

/-- Steps that are made for other reservations leave this one as it is. -/
theorem run_others (hsound : database.Sound) {events : List Event}
    (hothers : Runs.Admissible (step sha256) (fun database event => ¬ event.addresses database reservationId)
      database events) :
    (run sha256 database events).Sound ∧
      (run sha256 database events).aggregate? reservationId = database.aggregate? reservationId :=
  Runs.run_invariant
    (I := fun later : Database => later.Sound ∧ later.aggregate? reservationId = database.aggregate? reservationId)
    (fun _ event h hok => ⟨step_sound sha256 h.1 event, (step_others h.1 hok).trans h.2⟩) ⟨hsound, rfl⟩ hothers

/-- The call again, in any state that has kept the reservation as the first call left it. -/
theorem repeats_safely {before middle : Database} {first second : Environment} (hbefore : before.Sound)
    (hmiddle : middle.Sound)
    (hreturns : (execute sha256 ⟨first, kind.request reservationId userId⟩ before).result.isOk = true)
    (hsame : middle.aggregate? reservationId =
      (step sha256 before ⟨first, kind.request reservationId userId⟩).aggregate? reservationId) :
    RepeatsSafely sha256 ⟨first, kind.request reservationId userId⟩
      ⟨second, kind.request reservationId userId⟩ reservationId kind before middle := by
  rw [execute_request] at hreturns
  obtain ⟨result, t, hr, -⟩ := reservationTransaction_returned hreturns
  have hexecute : execute sha256 ⟨first, kind.request reservationId userId⟩ before =
      ⟨.ok (.found result), t.database, t.exchanges⟩ := execute_of_call hr
  have ht : step sha256 before ⟨first, kind.request reservationId userId⟩ = t.database :=
    congrArg TransactionOutcome.database hexecute
  have hcalled := (SettlementKind.call_ok_iff hbefore.booked).mp hr
  rw [ht] at hsame
  have hagain : ∀ t', commit sha256 ⟨second, kind.request reservationId userId⟩ middle = some t' →
      ∃ result', kind.Called second reservationId userId (.start middle) result' t' := by
    intro t' hc
    rw [commit_request] at hc
    obtain ⟨result', hr'⟩ := commitOf_eq_some_iff.mp hc
    exact ⟨result', (SettlementKind.call_ok_iff hmiddle.booked).mp hr'⟩
  have hrest : kind.Called second reservationId userId (.start middle) result (.start middle) →
      (execute sha256 ⟨second, kind.request reservationId userId⟩ middle).exchanges = [] ∧
        (execute sha256 ⟨second, kind.request reservationId userId⟩ middle).result =
          (execute sha256 ⟨first, kind.request reservationId userId⟩ before).result := by
    intro hc
    rw [execute_of_call ((SettlementKind.call_ok_iff hmiddle.booked).mpr hc), hexecute]
    exact ⟨rfl, rfl⟩
  constructor
  · refine step_of_commit (J := fun later => ∀ k, later.offers.find? k = middle.offers.find? k) (fun _ => rfl) ?_
    intro t' hc k
    obtain ⟨result', hcalled'⟩ := hagain t' hc
    exact hcalled.idle hbefore.wellFormed hsame hcalled' k
  · obtain ⟨placed, hplaced⟩ := hcalled.places
    obtain ⟨placed', hplaced'⟩ : ∃ placed', Places reservationId placed' middle
        (step sha256 middle ⟨second, kind.request reservationId userId⟩) := by
      refine step_of_commit (J := fun later => ∃ placed', Places reservationId placed' middle later)
        ⟨[], .of_same rfl⟩ ?_
      intro t' hc
      obtain ⟨result', hcalled'⟩ := hagain t' hc
      exact hcalled'.places
    refine ⟨placed, placed', ht ▸ hplaced.rows, hplaced'.rows, ?_⟩
    by_cases hnil : placed = []
    · rw [hnil, List.nil_append]
      exact hplaced'.once
    · obtain ⟨aggregate, ha, hordered⟩ := hcalled.ordered hbefore.wellFormed hplaced hnil
      rw [(Database.aggregate?_eq_some_iff.mp (hsame.trans ha)).2.2.2] at hordered
      rw [hplaced'.ordered hordered, List.append_nil]
      exact hplaced.once
  · rw [ht]
    exact fun hfinal => hrest (hcalled.again_final hbefore.wellFormed hsame hfinal)
  · rw [ht]
    exact fun hawaits hregistry => hrest (hcalled.again_waiting hbefore.wellFormed hsame hawaits hregistry)

/-- In every reachable state, for every reservation, whatever the providers reply. -/
theorem repeated_requests_safe (sha256 : String → String) {database : Database} (hinit : database.Initial)
    (events between : List Event) (kind : SettlementKind) (reservationId userId : Uuid)
    (first second : Environment)
    (hreturns : (execute sha256 ⟨first, kind.request reservationId userId⟩
      (run sha256 database events)).result.isOk = true)
    (hothers : Runs.Admissible (step sha256) (fun database event => ¬ event.addresses database reservationId)
      (run sha256 database (events ++ [⟨first, kind.request reservationId userId⟩])) between) :
    RepeatsSafely sha256 ⟨first, kind.request reservationId userId⟩ ⟨second, kind.request reservationId userId⟩
      reservationId kind (run sha256 database events)
      (run sha256 database (events ++ [⟨first, kind.request reservationId userId⟩] ++ between)) := by
  obtain ⟨hmiddle, hsame⟩ := run_others
    (run_sound sha256 hinit (events ++ [⟨first, kind.request reservationId userId⟩])) hothers
  have hrun : run sha256 database (events ++ [⟨first, kind.request reservationId userId⟩] ++ between) =
      run sha256 (run sha256 database (events ++ [⟨first, kind.request reservationId userId⟩])) between :=
    Runs.run_append _ _ _ _
  have hstep : run sha256 database (events ++ [⟨first, kind.request reservationId userId⟩]) =
      step sha256 (run sha256 database events) ⟨first, kind.request reservationId userId⟩ :=
    Runs.run_append _ _ _ _
  rw [hrun]
  refine repeats_safely (run_sound sha256 hinit events) hmiddle hreturns ?_
  rw [hsame, hstep]

end System

namespace Deployment

/-- A reservation of units at an internal and an external provider. -/
def ordering : List Event :=
  [create 1000 100 0 [line 1 10 1 one_unit, line 2 20 2 two_units] "key"]

/-- Another reservation is made and confirmed. -/
def meanwhile : List Event :=
  [create 3000 200 20 [line 1 10 1 one_unit] "other", confirm 4000 200 30]

/-- The supplier leaves the confirmation unknown; the call is made again when it would confirm. -/
theorem repeated_confirmation : RepeatsSafely sha256 (confirming .unknown (confirm 2000 100 10))
    (confirm 5000 100 40) 100 .confirm (System.run sha256 database ordering)
    (System.run sha256 database
      (ordering ++ [confirming .unknown (confirm 2000 100 10)] ++ meanwhile)) :=
  System.repeated_requests_safe sha256 initial ordering meanwhile .confirm 100 7
    (confirming .unknown (confirm 2000 100 10)).environment (confirm 5000 100 40).environment
    (by decide +kernel) (by decide +kernel)

example : ∀ aggregate ∈ (System.run sha256 database
    (ordering ++ [confirming .unknown (confirm 2000 100 10)])).aggregate? 100,
    aggregate.AwaitsUnknown .confirm := by decide +kernel

end Deployment
end InventoryReservation
