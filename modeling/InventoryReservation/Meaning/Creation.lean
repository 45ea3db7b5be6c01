import InventoryReservation.Meaning.Exchanges
import InventoryReservation.Meaning.Stock
import InventoryReservation.Meaning.WellFormed

/-! # What creating a reservation does

`addWithHold` in a run that returned: a new aggregate, either with every item held or put through a
releasing walk after some items were held (`Aggregate.Created`); other aggregates, the references
between the tables and the balance of the stock stay.
-/

namespace InventoryReservation
set_option autoImplicit false

open Relational Transactional

/-! ## New aggregates -/

/-- A reservation just stored, with the first of its items held and nothing asked of a provider since. -/
structure Aggregate.Opened (environment : Environment) (reservation : Reservation)
    (done : List ReservationItemModel) (aggregate : Aggregate) : Prop where
  request : (toModel environment reservation).SameRequest aggregate.reservation
  status : aggregate.reservation.status = reservation.status.toModel
  releaseTargetStatus : aggregate.reservation.releaseTargetStatus =
    reservation.releaseTargetStatus.map ReservationStatus.toModel
  items : aggregate.items.map ReservationItemModel.toDomain = reservation.items
  covers : (aggregate.allocations.map fun view =>
      (view.allocation.reservationItemId, view.allocation.quantity)) =
    done.map fun item => (item.id, item.requestedQuantity)
  held : ∀ view ∈ aggregate.allocations, view.allocation.status = .held
  fresh : ∀ view ∈ aggregate.allocations, ∀ kind, view.operation kind = none
  order : aggregate.order = none

/-- What `addWithHold` leaves: all items held, or the compensation of those that were. The replies to
release requests among the calls are those to the requests of the compensation. -/
inductive Aggregate.Created (environment : Environment) (reservation : Reservation)
    (exchanges : List Exchange) : Bool → Aggregate → Prop
  | held (aggregate : Aggregate) (h : aggregate.Opened environment reservation aggregate.items) :
      Created environment reservation exchanges true aggregate
  | compensated (before aggregate : Aggregate) (done : List ReservationItemModel)
      (hdone : done <+: before.items) (h : before.Opened environment reservation done)
      (hr : before.Released environment (.request reservation.id) .failed aggregate)
      (hreplies : ∀ reply,
        (∃ view ∈ before.allocations, releasing.asks (.request reservation.id) view ∧
          releasing.reply environment (.request reservation.id) view = reply) ↔
        ∃ providerId command, .release providerId command reply ∈ exchanges) :
      Created environment reservation exchanges false aggregate

/-! ## Storing -/

theorem insertReservation_ok {reservation : ReservationModel} {s t : Session} {u : Unit}
    (h : insertReservation reservation s = .ok u t) :
    ∃ reservations, s.database.reservations.insert? reservation = some reservations ∧
      s.database.reservationViolation reservation = none ∧
      t = { s with database := { s.database with reservations } } := by
  rw [insertReservation, readDatabase_bind, raiseIf_bind_ok_iff] at h
  obtain ⟨hv, h⟩ := h
  cases hi : s.database.reservations.insert? reservation with
  | none =>
    rw [hi] at h
    cases h
  | some reservations =>
    rw [hi] at h
    cases h
    exact ⟨reservations, rfl, hv, rfl⟩

/-- A row that violates nothing has a request key of its own. -/
theorem Database.request_free {database : Database} {reservation : ReservationModel}
    (h : database.reservationViolation reservation = none) :
    database.findByIdempotencyKey reservation.userId reservation.idempotencyKey = none := by
  cases hf : database.findByIdempotencyKey reservation.userId reservation.idempotencyKey with
  | none => rfl
  | some other =>
    unfold reservationViolation at h
    rw [hf, if_pos (Option.isSome_some : (some other).isSome = true)] at h
    repeat' split at h
    all_goals cases h

theorem insertItem_ok {environment : Environment} {reservationId : Uuid} {item : ReservationItem}
    {s t : Session} {model : ReservationItemModel}
    (h : insertItem environment reservationId item s = .ok model t) :
    model.reservationId = reservationId ∧ model.toDomain = item ∧
      ∃ items, s.database.items.insert? model = some items ∧
        t = { s with database := { s.database with items }, generated := s.generated + 1 } := by
  rw [insertItem, newId_bind, readDatabase_bind, raiseIf_bind_ok_iff] at h
  obtain ⟨-, h⟩ := h
  dsimp only at h
  cases hi : s.database.items.insert?
      ⟨environment.uuid7 s.generated, reservationId, item.productId, item.providerId, item.quantity⟩ with
  | none =>
    rw [hi] at h
    cases h
  | some items =>
    rw [hi] at h
    cases h
    exact ⟨rfl, rfl, items, hi, rfl⟩

theorem insertItems_ok {environment : Environment} {reservationId : Uuid} {items : List ReservationItem}
    {s t : Session} {models : List ReservationItemModel}
    (h : insertItems environment reservationId items s = .ok models t) :
    (∀ model ∈ models, model.reservationId = reservationId) ∧
      models.map ReservationItemModel.toDomain = items ∧
      (∃ table generated, t = { s with database := { s.database with items := table }, generated }) ∧
      t.database.items.rows = s.database.items.rows ++ models := by
  induction items generalizing s models with
  | nil =>
    obtain ⟨rfl, rfl⟩ := pure_ok_iff.mp h
    exact ⟨fun _ hm => absurd hm List.not_mem_nil, rfl, ⟨_, _, rfl⟩, (List.append_nil _).symm⟩
  | cons item items ih =>
    rw [insertItems] at h
    obtain ⟨model, v, hv, h⟩ := bind_ok_iff.mp h
    obtain ⟨models', w, hw, h⟩ := bind_ok_iff.mp h
    obtain ⟨rfl, rfl⟩ := pure_ok_iff.mp h
    obtain ⟨hr, hd, table, hi, rfl⟩ := insertItem_ok hv
    obtain ⟨hr', hd', ⟨table', generated', rfl⟩, hrows⟩ := ih hw
    refine ⟨?_, ?_, ⟨table', generated', rfl⟩, ?_⟩
    · intro m hm
      rcases List.mem_cons.mp hm with rfl | hm
      · exact hr
      · exact hr' m hm
    · rw [List.map_cons, hd, hd']
    · rw [hrows, (Table.insert?_eq_some_iff.mp hi).2, List.append_assoc]
      rfl

/-- The session in which a reservation and its items have just been stored. -/
structure Stored (environment : Environment) (reservation : Reservation)
    (models : List ReservationItemModel) (s t : Session) : Prop where
  tables : t.database =
    { s.database with reservations := t.database.reservations, items := t.database.items }
  reservations : s.database.reservations.insert? (toModel environment reservation) =
    some t.database.reservations
  request : s.database.findByIdempotencyKey reservation.userId reservation.idempotencyKey = none
  items : t.database.items.rows = s.database.items.rows ++ models
  owner : ∀ model ∈ models, model.reservationId = reservation.id
  models : models.map ReservationItemModel.toDomain = reservation.items
  exchanges : t.exchanges = s.exchanges

theorem addReservation_ok {environment : Environment} {reservation : Reservation} {s t : Session}
    {models : List ReservationItemModel} (h : addReservation environment reservation s = .ok models t) :
    Stored environment reservation models s t := by
  rw [addReservation] at h
  obtain ⟨_, v, hv, h⟩ := bind_ok_iff.mp h
  obtain ⟨reservations, hi, hviolation, rfl⟩ := insertReservation_ok hv
  obtain ⟨howner, hmodels, ⟨items, generated, rfl⟩, hrows⟩ := insertItems_ok h
  exact ⟨rfl, hi, Database.request_free hviolation, hrows, howner, hmodels, rfl⟩

/-! ## Holding -/

theorem insertAllocation_ok {environment : Environment} {item : ReservationItemModel}
    {hold : ProviderHold} {key : ProviderKey} {s t : Session} {u : Unit}
    (h : insertAllocation environment item hold key s = .ok u t) :
    ∃ (allocation : InventoryAllocationModel) (allocations : Table InventoryAllocationModel.id)
      (generated : ℕ),
      allocation.reservationItemId = item.id ∧ allocation.quantity = item.requestedQuantity ∧
        allocation.status = .held ∧ allocation.providerId = hold.providerId ∧
        s.database.allocations.insert? allocation = some allocations ∧
        t = { s with database := { s.database with allocations }, generated } := by
  rw [insertAllocation, newId_bind, readDatabase_bind, raiseIf_bind_ok_iff] at h
  obtain ⟨-, h⟩ := h
  dsimp only at h
  generalize ha : (⟨environment.uuid7 s.generated, item.id, hold.providerId, item.requestedQuantity,
    .held, key, hold.reference⟩ : InventoryAllocationModel) = allocation at h
  cases hi : s.database.allocations.insert? allocation with
  | none =>
    rw [hi] at h
    cases h
  | some allocations =>
    rw [hi] at h
    cases h
    subst ha
    exact ⟨_, allocations, _, rfl, rfl, rfl, rfl, hi, rfl⟩

/-- The session after the items `done` have been held. -/
structure HoldPhase (done : List ReservationItemModel) (s u : Session) : Prop where
  tables : u.database =
    { s.database with offers := u.database.offers, allocations := u.database.allocations }
  allocated : ∃ news : List InventoryAllocationModel,
    u.database.allocations.rows = s.database.allocations.rows ++ news ∧
      (news.map fun allocation => (allocation.reservationItemId, allocation.quantity)) =
        done.map (fun item => (item.id, item.requestedQuantity)) ∧
      ∀ allocation ∈ news, allocation.status = .held ∧
        (s.database.providers.find? allocation.providerId).isSome
  conserves : Conserves s.database u.database
  exchanges : ∀ entry ∈ u.exchanges, entry ∈ s.exchanges ∨ entry.2.routes

theorem HoldPhase.nil (s : Session) : HoldPhase [] s s where
  tables := rfl
  allocated := ⟨[], (List.append_nil _).symm, rfl, fun _ h => absurd h List.not_mem_nil⟩
  conserves := .refl _
  exchanges _ := Or.inl

theorem HoldPhase.trans {done done' : List ReservationItemModel} {s u v : Session}
    (h : HoldPhase done s u) (h' : HoldPhase done' u v) : HoldPhase (done ++ done') s v where
  tables := by
    rw [h'.tables, h.tables]
  allocated := by
    obtain ⟨news, hrows, hmap, hheld⟩ := h.allocated
    obtain ⟨news', hrows', hmap', hheld'⟩ := h'.allocated
    refine ⟨news ++ news', ?_, ?_, ?_⟩
    · rw [hrows', hrows, List.append_assoc]
    · rw [List.map_append, List.map_append, hmap, hmap']
    · intro allocation ha
      rcases List.mem_append.mp ha with ha | ha
      · exact hheld allocation ha
      · rw [← h.conserves.providers]
        exact hheld' allocation ha
  conserves := h.conserves.trans h'.conserves
  exchanges entry he := (h'.exchanges entry he).elim (h.exchanges entry) Or.inr

/-- A granted hold and its allocation row conserve stock. -/
theorem conserves_of_hold {item : ReservationItemModel} {hold : ProviderHold} {s v : Session}
    {allocation : InventoryAllocationModel} {allocations : Table InventoryAllocationModel.id}
    (hitem : item ∈ s.database.items)
    (hrouted : RoutedHold item.productId item.requestedQuantity.units (some hold) s v)
    (hi : v.database.allocations.insert? allocation = some allocations)
    (hid : allocation.reservationItemId = item.id)
    (hquantity : allocation.quantity = item.requestedQuantity) (hstatus : allocation.status = .held)
    (hprovider : allocation.providerId = hold.providerId) :
    Conserves s.database { v.database with allocations } := by
  have htables := hrouted.effect.tables
  have hproviders : v.database.providers = s.database.providers := hrouted.effect.providers
  have hitems : v.database.items = s.database.items := by rw [htables]
  have hallocations : v.database.allocations = s.database.allocations := by rw [htables]
  obtain ⟨granted, hgranted⟩ := Option.isSome_iff_exists.mp (hrouted.known hold rfl)
  have hreserved : ∀ k, ({ v.database with allocations } : Database).reservedAt k =
      s.database.reservedAt k + if granted.kind = .internal then
        unitsAt (item.productId, hold.providerId) item.requestedQuantity.units k else 0 := by
    intro k
    have hk := hrouted.effect.reserved k
    unfold grantedAmount at hk
    simp only [hgranted] at hk
    refine Eq.trans hk ?_
    split <;> rfl
  have hheld : ∀ k, ({ v.database with allocations } : Database).heldAt k =
      s.database.heldAt k + unitsAt (item.productId, hold.providerId) item.requestedQuantity.units k := by
    intro k
    have hfound : s.database.items.find? allocation.reservationItemId = some item := by
      rw [hid]
      exact Table.find?_of_mem hitem
    have hcongr : ({ v.database with allocations } : Database).unitsHeld k = s.database.unitsHeld k :=
      funext fun _ => Database.unitsHeld_congr (by dsimp only; rw [hitems]) k
    have hunits : s.database.unitsHeld k allocation =
        unitsAt (item.productId, hold.providerId) item.requestedQuantity.units k := by
      have hiff : s.database.holdsAt k allocation ↔
          allocation.status = .held ∧ k = (item.productId, allocation.providerId) :=
        Database.holdsAt_iff hfound k allocation.status
      rw [hprovider] at hiff
      unfold Database.unitsHeld unitsAt
      rw [hquantity]
      exact if_congr (hiff.trans ⟨fun h => h.2, fun h => ⟨hstatus, h⟩⟩) rfl rfl
    rw [Database.heldAt, hcongr]
    rw [hallocations] at hi
    rw [Table.total_insert? hi, hunits]
    rfl
  constructor
  · exact hproviders
  · intro k provider hp hk
    rw [hreserved, hheld]
    by_cases hkk : k = (item.productId, hold.providerId)
    · have hsame : granted = provider := by
        rw [hkk] at hp
        exact Option.some.inj (hgranted.symm.trans hp)
      rw [hsame, if_pos hk]
      omega
    · have hzero : unitsAt (item.productId, hold.providerId) item.requestedQuantity.units k = 0 :=
        if_neg hkk
      rw [hzero, ite_self]
      omega
  · intro k provider hp hk
    rw [hreserved]
    by_cases hkk : k = (item.productId, hold.providerId)
    · have hsame : granted = provider := by
        rw [hkk] at hp
        exact Option.some.inj (hgranted.symm.trans hp)
      have hne : granted.kind ≠ .internal := by
        rw [hsame, hk]
        decide
      rw [if_neg hne, add_zero]
    · have hzero : unitsAt (item.productId, hold.providerId) item.requestedQuantity.units k = 0 :=
        if_neg hkk
      rw [hzero, ite_self, add_zero]

theorem tryHoldSelected_exchanges {environment : Environment} {productId providerId : Uuid} {quantity : ℤ}
    {key : ProviderKey} {s v : Session} {hold : Option ProviderHold}
    (h : tryHoldSelected environment productId providerId quantity key s = .ok hold v) :
    ∀ entry ∈ v.exchanges, entry ∈ s.exchanges ∨ entry.2.routes := by
  have htraces : Traces (fun entry => entry ∈ s.exchanges ∨ entry.2.routes)
      (tryHoldSelected environment productId providerId quantity key) :=
    traces_tryHoldSelected ⟨productId, quantity, key⟩ (fun _ h => Or.inr (Exchange.routes_of_routesFor h))
      providerId
  exact (htraces s fun _ => Or.inl).of_ok h

theorem holdPhase_of_hold {environment : Environment} {item : ReservationItemModel} {hold : ProviderHold}
    {key : ProviderKey} {s v w : Session} {u : Unit} (hitem : item ∈ s.database.items)
    (hrouted : RoutedHold item.productId item.requestedQuantity.units (some hold) s v)
    (hexchanges : ∀ entry ∈ v.exchanges, entry ∈ s.exchanges ∨ entry.2.routes)
    (h : insertAllocation environment item hold key v = .ok u w) : HoldPhase [item] s w := by
  obtain ⟨allocation, allocations, generated, hid, hquantity, hstatus, hprovider, hi, rfl⟩ :=
    insertAllocation_ok h
  have htables := hrouted.effect.tables
  refine ⟨?_, ⟨[allocation], ?_, ?_, ?_⟩,
    conserves_of_hold hitem hrouted hi hid hquantity hstatus hprovider, hexchanges⟩
  · dsimp only
    rw [htables]
  · rw [(Table.insert?_eq_some_iff.mp hi).2, htables]
  · rw [List.map_singleton, List.map_singleton, hid, hquantity]
  · intro a ha
    rw [List.mem_singleton.mp ha]
    exact ⟨hstatus, hprovider ▸ hrouted.known hold rfl⟩

theorem holdPhase_of_none {item : ReservationItemModel} {s v : Session}
    (hrouted : RoutedHold item.productId item.requestedQuantity.units none s v)
    (hexchanges : ∀ entry ∈ v.exchanges, entry ∈ s.exchanges ∨ entry.2.routes) : HoldPhase [] s v := by
  have htables := hrouted.effect.tables
  have hheld : ∀ k, v.database.heldAt k = s.database.heldAt k := by
    intro k
    rw [htables]
    rfl
  have hreserved : ∀ k, v.database.reservedAt k = s.database.reservedAt k := fun k =>
    (hrouted.effect.reserved k).trans (add_zero _)
  refine ⟨?_, ⟨[], ?_, rfl, fun _ ha => absurd ha List.not_mem_nil⟩, ?_, hexchanges⟩
  · rw [htables]
  · rw [htables, List.append_nil]
  · exact ⟨hrouted.effect.providers, fun k _ _ _ => by rw [hheld, hreserved, sub_self, sub_self],
      fun k _ _ _ => hreserved k⟩

/-- The failure texts of a compensated reservation. -/
def failureWrite (environment : Environment) (reservation : ReservationModel) : ReservationModel :=
  reservation.written environment fun reservation =>
    { reservation with
      failureCode := some "insufficient_inventory"
      failureReason := some "A later reservation item could not be allocated." }

theorem failureWrite_sameRequest (environment : Environment) (reservation : ReservationModel) :
    reservation.SameRequest (failureWrite environment reservation) :=
  ReservationModel.written_sameRequest environment _ reservation ⟨rfl, rfl, rfl, rfl, rfl, rfl⟩

/-- The compensation of `addWithHold`, from the session `u` in which the hold failed. -/
structure Compensated (environment : Environment) (reservation : ReservationModel) (u t : Session) :
    Prop where
  release : ∃ (v : Session) (result : Unit),
    releaseReservation environment reservation .failed none v = .ok result t ∧
    v.exchanges = u.exchanges ∧
    v.database = { u.database with reservations := v.database.reservations } ∧
    v.database.reservations.rows = u.database.reservations.rows.map fun row =>
      if row.id = reservation.id then failureWrite environment row else row

theorem holdItems_ok {environment : Environment} {reservation : ReservationModel}
    {items : List ReservationItemModel} {s t : Session} {held : Bool}
    (hitems : ∀ item ∈ items, item ∈ s.database.items)
    (h : holdItems environment reservation items s = .ok held t) :
    (held = true ∧ HoldPhase items s t) ∨
      (held = false ∧ ∃ done u, done <+: items ∧ HoldPhase done s u ∧
        Compensated environment reservation u t) := by
  induction items generalizing s with
  | nil =>
    obtain ⟨rfl, rfl⟩ := pure_ok_iff.mp h
    exact Or.inl ⟨rfl, .nil s⟩
  | cons item items ih =>
    rw [holdItems] at h
    obtain ⟨hold, v, hv, h⟩ := bind_ok_iff.mp h
    have hrouted := tryHoldSelected_ok hv
    cases hold with
    | none =>
      dsimp only at h
      rw [writeReservation_bind] at h
      obtain ⟨result, w, hw, h⟩ := bind_ok_iff.mp h
      obtain ⟨rfl, rfl⟩ := pure_ok_iff.mp h
      exact Or.inr ⟨rfl, [], v, List.nil_prefix,
        holdPhase_of_none hrouted (tryHoldSelected_exchanges hv), ⟨_, result, hw, rfl, rfl, rfl⟩⟩
    | some hold =>
      dsimp only at h
      obtain ⟨_, w, hw, h⟩ := bind_ok_iff.mp h
      have hphase := holdPhase_of_hold (hitems item List.mem_cons_self) hrouted
        (tryHoldSelected_exchanges hv) hw
      have hitems' : ∀ item' ∈ items, item' ∈ w.database.items := by
        intro item' hmem
        rw [hphase.tables]
        exact hitems item' (List.mem_cons_of_mem _ hmem)
      rcases ih hitems' h with ⟨rfl, hrest⟩ | ⟨rfl, done, u, hdone, hrest, hcomp⟩
      · exact Or.inl ⟨rfl, hphase.trans hrest⟩
      · refine Or.inr ⟨rfl, item :: done, u, ?_, hphase.trans hrest, hcomp⟩
        exact List.cons_prefix_cons.mpr ⟨rfl, hdone⟩

/-! ## The new aggregate -/

section Storing
variable {environment : Environment} {reservation : Reservation} {models : List ReservationItemModel}
  {s t : Session}

theorem Stored.findItem (h : Stored environment reservation models s t) (hwf : s.database.WellFormed)
    {allocation : InventoryAllocationModel} (ha : allocation ∈ s.database.allocations) :
    t.database.items.find? allocation.reservationItemId =
      s.database.items.find? allocation.reservationItemId := by
  obtain ⟨item, hi⟩ := Option.isSome_iff_exists.mp (hwf.allocationItem allocation ha)
  rw [hi]
  exact Table.find?_of_append h.items hi

theorem Stored.allocations (h : Stored environment reservation models s t) :
    t.database.allocations = s.database.allocations := by rw [h.tables]

theorem Stored.providers (h : Stored environment reservation models s t) :
    t.database.providers = s.database.providers := by rw [h.tables]

theorem Stored.allocationRows (h : Stored environment reservation models s t)
    (hwf : s.database.WellFormed) (r : Uuid) :
    t.database.allocationRows r = s.database.allocationRows r := by
  unfold Database.allocationRows
  rw [h.allocations]
  apply List.filterMap_congr
  intro allocation ha
  unfold Database.joinAllocation
  rw [h.findItem hwf ha, h.providers]

theorem Stored.free (h : Stored environment reservation models s t) :
    s.database.reservations.find? reservation.id = none :=
  (Table.insert?_eq_some_iff.mp h.reservations).1

theorem Stored.findReservation (h : Stored environment reservation models s t) (r : Uuid) :
    t.database.reservations.find? r =
      if r = reservation.id then some (toModel environment reservation)
      else s.database.reservations.find? r :=
  Table.find?_insert? h.reservations r

theorem Stored.allocationViews (h : Stored environment reservation models s t)
    (hwf : s.database.WellFormed) (r : Uuid) :
    t.database.allocationViews r = s.database.allocationViews r := by
  unfold Database.allocationViews
  rw [h.allocationRows hwf]
  apply List.map_congr_left
  intro row _
  apply Database.view_congr
  intro kind
  rw [h.tables]

theorem Stored.itemsOf (h : Stored environment reservation models s t) (hwf : s.database.WellFormed)
    (r : Uuid) :
    t.database.itemsOf r = if r = reservation.id then models else s.database.itemsOf r := by
  unfold Database.itemsOf
  rw [h.items, List.filter_append]
  by_cases hr : r = reservation.id
  · have hold : (s.database.items.rows.filter fun item => item.reservationId = r) = [] := by
      rw [List.filter_eq_nil_iff]
      intro item hi hid
      have hsome := hwf.itemReservation item hi
      rw [of_decide_eq_true hid, hr, h.free] at hsome
      cases hsome
    have hnew : (models.filter fun item => item.reservationId = r) = models := by
      rw [List.filter_eq_self]
      intro item hi
      exact decide_eq_true ((h.owner item hi).trans hr.symm)
    rw [if_pos hr, hold, hnew, List.nil_append]
  · have hnew : (models.filter fun item => item.reservationId = r) = [] := by
      rw [List.filter_eq_nil_iff]
      intro item hi hid
      exact hr ((of_decide_eq_true hid).symm.trans (h.owner item hi))
    rw [if_neg hr, hnew, List.append_nil]

theorem Stored.wellFormed (h : Stored environment reservation models s t)
    (hwf : s.database.WellFormed) : t.database.WellFormed where
  itemReservation item hi := by
    rw [h.findReservation]
    split
    · rfl
    · next hne =>
      rcases (Table.mem_of_append h.items item).mp hi with hi | hi
      · exact hwf.itemReservation item hi
      · exact absurd (h.owner item hi) hne
  allocationItem allocation ha := by
    rw [h.allocations] at ha
    rw [h.findItem hwf ha]
    exact hwf.allocationItem allocation ha
  allocationProvider allocation ha := by
    rw [h.allocations] at ha
    rw [h.providers]
    exact hwf.allocationProvider allocation ha
  operationOwner operation ho := by
    rw [h.tables] at ho
    simp only [h.allocationRows hwf]
    exact hwf.operationOwner operation ho
  orderReservation r hr := by
    rw [h.tables] at hr
    rw [h.findReservation]
    split
    · rfl
    · exact hwf.orderReservation r hr
  uniqueRequest a ha b hb huser hkey := by
    have hnone : ∀ row ∈ s.database.reservations, ¬ (row.userId = reservation.userId ∧
        row.idempotencyKey = reservation.idempotencyKey) := by
      have hfree := h.request
      unfold Database.findByIdempotencyKey at hfree
      rw [List.find?_eq_none] at hfree
      intro row hrow hsame
      exact hfree row hrow (decide_eq_true hsame)
    rcases (Table.mem_insert? h.reservations a).mp ha with ha | rfl
    · rcases (Table.mem_insert? h.reservations b).mp hb with hb | rfl
      · exact hwf.uniqueRequest a ha b hb huser hkey
      · exact absurd ⟨huser, hkey⟩ (hnone a ha)
    · rcases (Table.mem_insert? h.reservations b).mp hb with hb | rfl
      · exact absurd ⟨huser.symm, hkey.symm⟩ (hnone b hb)
      · rfl

theorem Stored.conserves (h : Stored environment reservation models s t)
    (hwf : s.database.WellFormed) : Conserves s.database t.database := by
  have hheld : ∀ k, t.database.heldAt k = s.database.heldAt k := by
    intro k
    unfold Database.heldAt
    rw [h.allocations]
    exact Table.total_congr fun allocation ha => Database.unitsHeld_congr (h.findItem hwf ha) k
  have hreserved : ∀ k, t.database.reservedAt k = s.database.reservedAt k := by
    intro k
    unfold Database.reservedAt
    rw [h.tables]
  exact ⟨h.providers, fun k _ _ _ => by rw [hheld, hreserved, sub_self, sub_self],
    fun k _ _ _ => hreserved k⟩

theorem Stored.aggregate_of_ne (h : Stored environment reservation models s t)
    (hwf : s.database.WellFormed) {r : Uuid} (hne : r ≠ reservation.id) :
    t.database.aggregate? r = s.database.aggregate? r := by
  unfold Database.aggregate?
  rw [h.findReservation, if_neg hne, h.itemsOf hwf, if_neg hne, h.allocationViews hwf]
  have horders : t.database.orders = s.database.orders := by rw [h.tables]
  rw [horders]

/-- Nothing refers to a reservation that is not there. -/
theorem Database.WellFormed.allocationRows_of_none {database : Database} (hwf : database.WellFormed)
    {r : Uuid} (h : database.reservations.find? r = none) : database.allocationRows r = [] := by
  rw [List.eq_nil_iff_forall_not_mem]
  intro row hrow
  obtain ⟨-, hj⟩ := Database.mem_allocationRows.mp hrow
  obtain ⟨item, -, hi, -, hr, -⟩ := Database.joinAllocation_eq_some_iff.mp hj
  have hsome := hwf.itemReservation item (Table.mem_of_find? hi)
  rw [hr, h] at hsome
  cases hsome

theorem Stored.aggregate_self (h : Stored environment reservation models s t)
    (hwf : s.database.WellFormed) :
    t.database.aggregate? reservation.id =
      some ⟨toModel environment reservation, models, [], none⟩ := by
  have horder : s.database.orders.find? reservation.id = none := by
    cases ho : s.database.orders.find? reservation.id with
    | none => rfl
    | some order =>
      have hsome := hwf.orderReservation reservation.id (by rw [ho]; rfl)
      rw [h.free] at hsome
      cases hsome
  have horders : t.database.orders = s.database.orders := by rw [h.tables]
  unfold Database.aggregate?
  rw [h.findReservation, if_pos rfl, h.itemsOf hwf, if_pos rfl, h.allocationViews hwf,
    Database.allocationViews, hwf.allocationRows_of_none h.free, horders, horder]
  rfl

end Storing

/-! ## Held items, joined -/

section Holding
variable {done : List ReservationItemModel} {s u : Session} {r : Uuid}

theorem HoldPhase.items (h : HoldPhase done s u) : u.database.items = s.database.items := by
  rw [h.tables]

theorem HoldPhase.reservations (h : HoldPhase done s u) :
    u.database.reservations = s.database.reservations := by rw [h.tables]

theorem HoldPhase.operations (h : HoldPhase done s u) :
    u.database.operations = s.database.operations := by rw [h.tables]

theorem HoldPhase.orders (h : HoldPhase done s u) : u.database.orders = s.database.orders := by
  rw [h.tables]

/-- A row joined before the items were held is joined in the same way afterwards. -/
theorem HoldPhase.joinAllocation (h : HoldPhase done s u) (r : Uuid) :
    u.database.joinAllocation r = s.database.joinAllocation r := by
  funext allocation
  unfold Database.joinAllocation
  rw [h.items, h.conserves.providers]

theorem heldItem {news : List InventoryAllocationModel} {allocation : InventoryAllocationModel}
    (hmap : (news.map fun allocation => (allocation.reservationItemId, allocation.quantity)) =
      done.map fun item => (item.id, item.requestedQuantity)) (ha : allocation ∈ news) :
    ∃ item ∈ done, item.id = allocation.reservationItemId := by
  have hpair : (allocation.reservationItemId, allocation.quantity) ∈
      done.map fun item => (item.id, item.requestedQuantity) := by
    rw [← hmap]
    exact List.mem_map_of_mem ha
  obtain ⟨item, hi, he⟩ := List.mem_map.mp hpair
  exact ⟨item, hi, (Prod.ext_iff.mp he).1⟩

/-- The new rows belong to the reservation whose items were held and come after the old ones. -/
theorem HoldPhase.allocationRows (h : HoldPhase done s u)
    (hdone : ∀ item ∈ done, item ∈ s.database.items ∧ item.reservationId = r) :
    (∃ news : List AllocationRow,
      u.database.allocationRows r = s.database.allocationRows r ++ news ∧
      (news.map fun row => (row.allocation.reservationItemId, row.allocation.quantity)) =
        done.map (fun item => (item.id, item.requestedQuantity)) ∧
      ∀ row ∈ news, row.allocation.status = .held ∧
        s.database.allocations.find? row.allocation.id = none) ∧
    ∀ r', r' ≠ r → u.database.allocationRows r' = s.database.allocationRows r' := by
  obtain ⟨news, hrows, hmap, hheld⟩ := h.allocated
  have hjoined : ∀ allocation ∈ news, ∃ item provider,
      s.database.items.find? allocation.reservationItemId = some item ∧
        s.database.providers.find? allocation.providerId = some provider ∧ item.reservationId = r := by
    intro allocation ha
    obtain ⟨item, hi, hid⟩ := heldItem hmap ha
    obtain ⟨provider, hp⟩ := Option.isSome_iff_exists.mp (hheld allocation ha).2
    exact ⟨item, provider, hid ▸ Table.find?_of_mem (hdone item hi).1, hp, (hdone item hi).2⟩
  have happend : ∀ r', u.database.allocationRows r' =
      s.database.allocationRows r' ++ news.filterMap (s.database.joinAllocation r') := by
    intro r'
    unfold Database.allocationRows
    rw [hrows, List.filterMap_append, h.joinAllocation]
  constructor
  · have hnews : (news.filterMap (s.database.joinAllocation r)).map AllocationRow.allocation = news := by
      rw [List.map_filterMap]
      refine (List.filterMap_congr ?_).trans List.filterMap_some
      intro allocation ha
      obtain ⟨item, provider, hi, hp, hr⟩ := hjoined allocation ha
      rw [Database.joinAllocation_eq_some_iff.mpr ⟨item, provider, hi, hp, hr, rfl⟩]
      rfl
    refine ⟨_, happend r, ?_, ?_⟩
    · rw [← hmap]
      conv_rhs => rw [← hnews, List.map_map]
      rfl
    · intro row hrow
      have ha : row.allocation ∈ news := by
        rw [← hnews]
        exact List.mem_map_of_mem hrow
      exact ⟨(hheld _ ha).1, Table.find?_eq_none_of_append hrows ha⟩
  · intro r' hne
    have hnone : news.filterMap (s.database.joinAllocation r') = [] := by
      rw [List.filterMap_eq_nil_iff]
      intro allocation ha
      obtain ⟨item, provider, hi, hp, hr⟩ := hjoined allocation ha
      cases hj : s.database.joinAllocation r' allocation with
      | none => rfl
      | some row =>
        obtain ⟨item', -, hi', -, hr', -⟩ := Database.joinAllocation_eq_some_iff.mp hj
        cases hi.symm.trans hi'
        exact absurd (hr'.symm.trans hr) hne
    rw [happend, hnone, List.append_nil]

theorem HoldPhase.view (h : HoldPhase done s u) (r : Uuid) (row : AllocationRow) :
    u.database.view r row = s.database.view r row :=
  Database.view_congr fun kind => by rw [h.operations]

theorem HoldPhase.aggregate_of_ne (h : HoldPhase done s u)
    (hdone : ∀ item ∈ done, item ∈ s.database.items ∧ item.reservationId = r) {r' : Uuid}
    (hne : r' ≠ r) : u.database.aggregate? r' = s.database.aggregate? r' := by
  unfold Database.aggregate? Database.allocationViews Database.itemsOf
  rw [h.reservations, h.items, h.orders, (h.allocationRows hdone).2 r' hne]
  congr 1
  funext reservation
  congr 1
  exact List.map_congr_left fun row _ => h.view r' row

theorem HoldPhase.wellFormed (h : HoldPhase done s u)
    (hdone : ∀ item ∈ done, item ∈ s.database.items ∧ item.reservationId = r)
    (hwf : s.database.WellFormed) : u.database.WellFormed := by
  obtain ⟨news, hrows, hmap, hheld⟩ := h.allocated
  constructor
  · intro item hi
    rw [h.items] at hi
    rw [h.reservations]
    exact hwf.itemReservation item hi
  · intro allocation ha
    rw [h.items]
    rcases (Table.mem_of_append hrows allocation).mp ha with ha | ha
    · exact hwf.allocationItem allocation ha
    · obtain ⟨item, hi, hid⟩ := heldItem hmap ha
      rw [← hid, Table.find?_of_mem (hdone item hi).1]
      rfl
  · intro allocation ha
    rw [h.conserves.providers]
    rcases (Table.mem_of_append hrows allocation).mp ha with ha | ha
    · exact hwf.allocationProvider allocation ha
    · exact (hheld allocation ha).2
  · intro operation ho
    rw [h.operations] at ho
    obtain ⟨kind, r', hkey, htype, row, hrow, hid⟩ := hwf.operationOwner operation ho
    refine ⟨kind, r', hkey, htype, row, ?_, hid⟩
    by_cases hne : r' = r
    · obtain ⟨news', hrows', -, -⟩ := (h.allocationRows hdone).1
      rw [hne] at hrow ⊢
      rw [hrows']
      exact List.mem_append_left _ hrow
    · rw [(h.allocationRows hdone).2 r' hne]
      exact hrow
  · intro r' hr
    rw [h.orders] at hr
    rw [h.reservations]
    exact hwf.orderReservation r' hr
  · intro a ha b hb
    rw [h.reservations] at ha hb
    exact hwf.uniqueRequest a ha b hb

/-- The reservation just stored, once the items `done` are held. -/
theorem HoldPhase.opened {environment : Environment} {reservation : Reservation}
    {models : List ReservationItemModel} (h : HoldPhase done s u) (hwf : s.database.WellFormed)
    (hdone : ∀ item ∈ done, item ∈ s.database.items ∧ item.reservationId = reservation.id)
    (hmodels : models.map ReservationItemModel.toDomain = reservation.items)
    (hs : s.database.aggregate? reservation.id = some ⟨toModel environment reservation, models, [], none⟩) :
    ∃ aggregate, u.database.aggregate? reservation.id = some aggregate ∧ aggregate.items = models ∧
      aggregate.Opened environment reservation done := by
  obtain ⟨model, hf, he⟩ := Option.map_eq_some_iff.mp hs
  rw [Aggregate.mk.injEq] at he
  obtain ⟨rfl, hitems, hviews, horder⟩ := he
  have hempty : s.database.allocationRows reservation.id = [] := List.map_eq_nil_iff.mp hviews
  obtain ⟨news, hrows, hmap, hheld⟩ := (h.allocationRows hdone).1
  rw [hempty, List.nil_append] at hrows
  refine ⟨_, Option.map_eq_some_iff.mpr ⟨_, by rw [h.reservations]; exact hf, rfl⟩, ?_, ?_⟩
  · unfold Database.itemsOf
    rw [h.items]
    exact hitems
  · constructor
    · exact .refl _
    · rfl
    · rfl
    · unfold Database.itemsOf
      rw [h.items]
      exact (congrArg _ hitems).trans hmodels
    · rw [← hmap]
      dsimp only
      rw [Database.allocationViews, hrows, List.map_map]
      rfl
    · intro view hv
      dsimp only at hv
      rw [Database.allocationViews, hrows] at hv
      obtain ⟨row, hrow, rfl⟩ := List.mem_map.mp hv
      exact (hheld row hrow).1
    · intro view hv kind
      dsimp only at hv
      rw [Database.allocationViews, hrows] at hv
      obtain ⟨row, hrow, rfl⟩ := List.mem_map.mp hv
      change u.database.operations.find? _ = none
      rw [h.operations]
      exact hwf.no_operation (hheld row hrow).2 kind _
    · rw [h.orders]
      exact horder

end Holding

/-! ## Creating -/

/-- The compensation is a releasing walk over the new reservation. -/
theorem Compensated.walkEffect {environment : Environment} {reservation : ReservationModel}
    {u t : Session} (h : Compensated environment reservation u t) :
    WalkEffect releasing environment (.request reservation.id)
        (fun row => releaseWrite environment .failed (releasing.flags environment
          (.request reservation.id) (u.database.allocationViews reservation.id))
            (failureWrite environment row)) u t ∧
      t.database.orders = u.database.orders ∧
      ∀ entry ∈ t.exchanges, entry ∈ u.exchanges ∨ ∃ view ∈ u.database.allocationViews reservation.id,
        releasing.Sent environment (.request reservation.id) view entry := by
  obtain ⟨⟨database, exchanges, generated⟩, result, hrelease, rfl, hdatabase, hrows⟩ := h.release
  have hcontext : Option.getD none (.request reservation.id) =
      ProviderOperationContext.request reservation.id := rfl
  obtain ⟨heffect, horders⟩ := releaseReservation_ok hcontext rfl hrelease
  obtain ⟨rows, hperm, hpass⟩ := heffect.walk
  dsimp only at hdatabase hrows
  generalize database.reservations = reservations at hdatabase hrows
  subst hdatabase
  have htraced : Traced (fun entry => entry ∈ u.exchanges ∨
      ∃ view ∈ u.database.allocationViews reservation.id,
        releasing.Sent environment (.request reservation.id) view entry) t := by
    refine Stops.of_ok (E := NoVerdict) ?_ hrelease
    refine releaseReservation_stops hcontext rfl (fun _ => Or.inl) ?_ fun _ _ _ => noVerdict_of rfl
    exact fun view hv entry hsent => Or.inr ⟨view, hv, hsent⟩
  refine ⟨⟨⟨rows, hperm, ?_⟩, ?_, ?_, heffect.orders⟩, horders, htraced⟩
  · exact ⟨hpass.products, hpass.providers, hpass.items, hpass.allocations, hpass.recorded,
      hpass.operations, hpass.offers, hpass.offered, hpass.exchanges, hpass.asked⟩
  · intro row
    exact (failureWrite_sameRequest environment row).trans (releaseWrite_sameRequest environment _ _ _)
  · rw [heffect.reservations]
    dsimp only
    rw [hrows, List.map_map]
    apply List.map_congr_left
    intro row _
    rw [Function.comp_apply]
    by_cases hr : row.id = reservation.id
    · have hw : (failureWrite environment row).id = reservation.id :=
        (failureWrite_sameRequest environment row).id.trans hr
      rw [if_pos hr]
      exact (if_pos hw).trans (if_pos hr).symm
    · rw [if_neg hr]
      exact (if_neg hr).trans (if_neg hr).symm

/-- What `addWithHold` did, in a run that returned. -/
structure Creation (environment : Environment) (reservation : Reservation) (held : Bool) (s t : Session) :
    Prop where
  free : s.database.reservations.find? reservation.id = none
  request : s.database.findByIdempotencyKey reservation.userId reservation.idempotencyKey = none
  wellFormed : t.database.WellFormed
  aggregate : ∃ after, t.database.aggregate? reservation.id = some after ∧
    Aggregate.Created environment reservation (t.exchanges.map Prod.snd) held after
  others : ∀ r, r ≠ reservation.id → t.database.aggregate? r = s.database.aggregate? r
  conserves : Conserves s.database t.database

theorem addWithHold_ok {environment : Environment} {reservation : Reservation} {s t : Session}
    {held : Bool} (hwf : s.database.WellFormed) (hs : s.exchanges = [])
    (h : addWithHold environment reservation s = .ok held t) :
    Creation environment reservation held s t := by
  rw [addWithHold] at h
  obtain ⟨models, v, hv, h⟩ := bind_ok_iff.mp h
  have hstored := addReservation_ok hv
  have hwfv := hstored.wellFormed hwf
  have howned : ∀ item ∈ models, item ∈ v.database.items ∧ item.reservationId = reservation.id :=
    fun item hi => ⟨(Table.mem_of_append hstored.items item).mpr (Or.inr hi), hstored.owner item hi⟩
  rcases holdItems_ok (fun item hi => (howned item hi).1) h with
    ⟨rfl, hphase⟩ | ⟨rfl, done, u, hpart, hphase, hcompensated⟩
  · obtain ⟨aggregate, hagg, hitems, hopened⟩ :=
      hphase.opened hwfv howned hstored.models (hstored.aggregate_self hwf)
    refine ⟨hstored.free, hstored.request, hphase.wellFormed howned hwfv, ?_, ?_,
      (hstored.conserves hwf).trans hphase.conserves⟩
    · exact ⟨aggregate, hagg, .held aggregate (hitems ▸ hopened)⟩
    · intro r hne
      exact (hphase.aggregate_of_ne howned hne).trans (hstored.aggregate_of_ne hwf hne)
  · have howned' : ∀ item ∈ done, item ∈ v.database.items ∧ item.reservationId = reservation.id :=
      fun item hi => howned item (hpart.subset hi)
    obtain ⟨before, hagg, hitems, hopened⟩ :=
      hphase.opened hwfv howned' hstored.models (hstored.aggregate_self hwf)
    obtain ⟨hwalk, horders, hsent⟩ := hcompensated.walkEffect
    obtain ⟨rows, hperm, hpass⟩ := hwalk.walk
    have hwfu := hphase.wellFormed howned' hwfv
    obtain ⟨hfound, -, hviews, horder⟩ := Database.aggregate?_eq_some_iff.mp hagg
    refine ⟨hstored.free, hstored.request,
      hwalk.wellFormed releasing_lawful hwfu (Option.isSome_iff_exists.mpr ⟨_, hfound⟩), ?_, ?_, ?_⟩
    · have hself := hwalk.aggregate_self
      rw [show ((ProviderOperationContext.request (toModel environment reservation).id).reservationId =
        reservation.id) from rfl, hagg] at hself
      refine ⟨_, hself, .compensated before _ done (hitems ▸ hpart) hopened
        ⟨hwalk.request before.reservation, ?_, rfl, rfl, ?_⟩ fun reply => ⟨?_, ?_⟩⟩
      · dsimp only
        rw [releaseWrite_status, hviews]
        rfl
      · rw [horder, ← horders]
      · rintro ⟨view, hv, ha, rfl⟩
        rw [hviews] at hv
        obtain ⟨row, hrow, rfl⟩ := List.mem_map.mp hv
        obtain ⟨-, database, hd⟩ := hpass.asked row (hperm.mem_iff.mpr hrow) ha
        exact ⟨_, _, List.mem_map_of_mem hd⟩
      · rintro ⟨providerId, command, hr⟩
        obtain ⟨⟨database, exchange⟩, he, rfl⟩ := List.mem_map.mp hr
        rcases hsent _ he with he | ⟨view, hv, hview⟩
        · rcases hphase.exchanges _ he with he | he
          · rw [hstored.exchanges, hs] at he
            exact absurd he List.not_mem_nil
          · exact he.elim
        · obtain ⟨-, -, hreply⟩ := Exchange.release.inj hview.exchange
          refine ⟨view, ?_, hview.asks, hreply.symm⟩
          rw [hviews]
          exact hv
    · intro r hne
      exact ((hwalk.aggregate_of_ne hne).trans (hphase.aggregate_of_ne howned' hne)).trans
        (hstored.aggregate_of_ne hwf hne)
    · refine ((hstored.conserves hwf).trans hphase.conserves).trans
        (hpass.conserves releasing_lawful hperm ?_)
      intro row hrow _
      exact hopened.held _ (Database.view_mem hagg (hperm.mem_iff.mp hrow))

/-! ## The calls of a creation -/

/-- The command that holds an item of a reservation. -/
def ReservationItem.holdCommand (reservationId : Uuid) (item : ReservationItem) : HoldCommand :=
  ⟨item.productId, item.quantity.units, .hold reservationId item.productId item.providerId⟩

/-- A release request of a compensation: nothing has been asked for its allocation before. -/
def Compensates (environment : Environment) (reservationId : Uuid) (entry : Database × Exchange) : Prop :=
  ∃ view : AllocationView, (∀ kind, view.operation kind = none) ∧
    releasing.Sent environment (.request reservationId) view entry

section Calls
variable {environment : Environment} {Q : Database × Exchange → Prop}

theorem Database.noVerdict_reservationViolation {database : Database} {reservation : ReservationModel} :
    ∀ failure ∈ database.reservationViolation reservation, NoVerdict failure := by
  intro failure hf items hi
  rw [hi] at hf
  unfold Database.reservationViolation at hf
  repeat' split at hf
  all_goals cases hf

theorem Database.noVerdict_itemViolation {database : Database} {item : ReservationItemModel} :
    ∀ failure ∈ database.itemViolation item, NoVerdict failure := by
  intro failure hf items hi
  rw [hi] at hf
  unfold Database.itemViolation at hf
  repeat' split at hf
  all_goals cases hf

theorem Database.noVerdict_allocationViolation {database : Database}
    {allocation : InventoryAllocationModel} :
    ∀ failure ∈ database.allocationViolation allocation, NoVerdict failure := by
  intro failure hf items hi
  rw [hi] at hf
  unfold Database.allocationViolation at hf
  repeat' split at hf
  all_goals cases hf

theorem traces_insertItems (reservationId : Uuid) (items : List ReservationItem) :
    Traces Q (insertItems environment reservationId items) := by
  induction items with
  | nil => exact Keeps.pure []
  | cons item items ih =>
    refine Keeps.bind ?_ fun _ => Keeps.bind ih fun _ => Keeps.pure _
    refine Keeps.bind (traces_newId environment) fun id => Keeps.bind traces_readDatabase fun database =>
      Keeps.bind (traces_raiseIf Database.noVerdict_itemViolation) fun _ => ?_
    split
    · exact Keeps.throw (noVerdict_of rfl)
    · exact Keeps.bind (traces_writeDatabase _) fun _ => Keeps.pure _

theorem traces_addReservation (reservation : Reservation) :
    Traces Q (addReservation environment reservation) := by
  refine Keeps.bind ?_ fun _ => traces_insertItems _ _
  refine Keeps.bind traces_readDatabase fun database =>
    Keeps.bind (traces_raiseIf Database.noVerdict_reservationViolation) fun _ => ?_
  split
  · exact Keeps.throw (noVerdict_of rfl)
  · exact traces_writeDatabase _

theorem traces_insertAllocation (item : ReservationItemModel) (hold : ProviderHold) (key : ProviderKey) :
    Traces Q (insertAllocation environment item hold key) := by
  refine Keeps.bind (traces_newId environment) fun id => Keeps.bind traces_readDatabase fun database =>
    Keeps.bind (traces_raiseIf Database.noVerdict_allocationViolation) fun _ => ?_
  split
  · exact Keeps.throw (noVerdict_of rfl)
  · exact traces_writeDatabase _

/-- The loop calls for routing, and for the release of what it held when a hold fails. -/
theorem holdItems_stops {reservation : ReservationModel} {items : List ReservationItemModel} {s : Session}
    (hroutes : ∀ item ∈ items, ∀ entry : Database × Exchange,
      entry.2.routesFor environment (item.toDomain.holdCommand reservation.id) → Q entry)
    (hitems : ∀ item ∈ items, item ∈ s.database.items)
    (hQ : ∀ done u, done <+: items → HoldPhase done s u →
      ∀ view ∈ u.database.allocationViews reservation.id, ∀ entry,
        releasing.Sent environment (.request reservation.id) view entry → Q entry)
    (hs : Traced Q s) :
    Stops (Traced Q) NoVerdict (holdItems environment reservation items s) := by
  induction items generalizing s with
  | nil => exact hs
  | cons item items ih =>
    rw [holdItems]
    have htraces : Traces Q (tryHoldSelected environment item.productId item.providerId
        item.requestedQuantity.units (.hold reservation.id item.productId item.providerId)) :=
      traces_tryHoldSelected (item.toDomain.holdCommand reservation.id) (hroutes item List.mem_cons_self)
        item.providerId
    have hstops := htraces s hs
    refine hstops.bind fun hold v hv => ?_
    have hrouted := tryHoldSelected_ok hv
    have hvs := hstops.of_ok hv
    cases hold with
    | none =>
      dsimp only
      rw [writeReservation_bind]
      have hphase := holdPhase_of_none hrouted (tryHoldSelected_exchanges hv)
      refine Stops.bind_keeps ?_ fun _ => Keeps.pure false
      exact releaseReservation_stops rfl rfl hvs (hQ [] v List.nil_prefix hphase) fun _ _ _ =>
        noVerdict_of rfl
    | some hold =>
      dsimp only
      refine Stops.bind (traces_insertAllocation item hold _ v hvs) fun _ w hw => ?_
      have hphase := holdPhase_of_hold (hitems item List.mem_cons_self) hrouted
        (tryHoldSelected_exchanges hv) hw
      refine ih (fun item' hmem => hroutes item' (List.mem_cons_of_mem _ hmem)) ?_ ?_
        ((traces_insertAllocation item hold _ v hvs).of_ok hw)
      · intro item' hmem
        rw [hphase.tables]
        exact hitems item' (List.mem_cons_of_mem _ hmem)
      · intro done u hdone hrest
        exact hQ (item :: done) u (List.cons_prefix_cons.mpr ⟨rfl, hdone⟩) (hphase.trans hrest)

/-- Items of one reservation are of distinct products. -/
theorem insertItems_distinct {reservationId : Uuid} {items : List ReservationItem} {s t : Session}
    {models : List ReservationItemModel} (h : insertItems environment reservationId items s = .ok models t) :
    (items.map ReservationItem.productId).Nodup ∧
      ∀ item ∈ items, ∀ other ∈ s.database.items, other.reservationId = reservationId →
        other.productId ≠ item.productId := by
  induction items generalizing s t models with
  | nil => exact ⟨List.nodup_nil, fun _ hi => absurd hi List.not_mem_nil⟩
  | cons item items ih =>
    rw [insertItems] at h
    obtain ⟨model, v, hv, h⟩ := bind_ok_iff.mp h
    obtain ⟨models', w, hw, -⟩ := bind_ok_iff.mp h
    obtain ⟨hreservation, hdomain, table, hi, rfl⟩ := insertItem_ok hv
    obtain ⟨hnodup, hothers⟩ := ih hw
    have hproduct : model.productId = item.productId := congrArg ReservationItem.productId hdomain
    have hmodel : ∀ item' ∈ items, item.productId ≠ item'.productId := by
      intro item' hmem
      rw [← hproduct]
      exact hothers item' hmem model ((Table.mem_insert? hi model).mpr (Or.inr rfl)) hreservation
    refine ⟨List.nodup_cons.mpr ⟨fun hmem => ?_, hnodup⟩, fun item' hmem other hother hr => ?_⟩
    · obtain ⟨item', hmem', he⟩ := List.mem_map.mp hmem
      exact hmodel item' hmem' he.symm
    · rcases List.mem_cons.mp hmem with rfl | hmem
      · rw [insertItem, newId_bind, readDatabase_bind, raiseIf_bind_ok_iff] at hv
        obtain ⟨hnone, -⟩ := hv
        intro he
        unfold Database.itemViolation at hnone
        split at hnone
        · cases hnone
        · rw [if_pos (List.any_eq_true.mpr ⟨other, hother, decide_eq_true ⟨hr, he⟩⟩)] at hnone
          cases hnone
      · exact hothers item' hmem other ((Table.mem_insert? hi other).mpr (Or.inl hother)) hr

/-- A call of a creation: routing an item of the new reservation, or a release of its compensation. -/
structure Opens (environment : Environment) (reservationId : Uuid) (items : List ReservationItem)
    (database : Database) (entry : Database × Exchange) : Prop where
  free : database.reservations.find? reservationId = none
  distinct : (items.map ReservationItem.productId).Nodup
  call : (∃ item ∈ items, entry.2.routesFor environment (item.holdCommand reservationId)) ∨
    Compensates environment reservationId entry

theorem addWithHold_stops (environment : Environment) (reservation : Reservation) {s : Session}
    (hwf : s.database.WellFormed)
    (hs : s.exchanges = []) :
    Stops (Traced (Opens environment reservation.id reservation.items s.database)) NoVerdict
      (addWithHold environment reservation s) := by
  have hs' : Traced (Opens environment reservation.id reservation.items s.database) s := by
    intro entry he
    rw [hs] at he
    exact absurd he List.not_mem_nil
  rw [addWithHold]
  refine Stops.bind (traces_addReservation reservation s hs') fun models v hv => ?_
  have hstored := addReservation_ok hv
  have howned : ∀ item ∈ models, item ∈ v.database.items ∧ item.reservationId = reservation.id :=
    fun item hi => ⟨(Table.mem_of_append hstored.items item).mpr (Or.inr hi), hstored.owner item hi⟩
  obtain ⟨_, w, -, hitems⟩ := bind_ok_iff.mp hv
  have hdistinct := (insertItems_distinct hitems).1
  refine holdItems_stops (fun item hi entry hroutes => ?_) (fun item hi => (howned item hi).1) ?_
    ((traces_addReservation reservation s hs').of_ok hv)
  · refine ⟨hstored.free, hdistinct, Or.inl ⟨item.toDomain, ?_, hroutes⟩⟩
    rw [← hstored.models]
    exact List.mem_map_of_mem hi
  · intro done u hdone hphase view hview entry hsent
    obtain ⟨before, hagg, -, hopened⟩ := hphase.opened (hstored.wellFormed hwf)
      (fun item hi => howned item (hdone.subset hi)) hstored.models (hstored.aggregate_self hwf)
    refine ⟨hstored.free, hdistinct, Or.inr ⟨view, hopened.fresh view ?_, hsent⟩⟩
    rw [(Database.aggregate?_eq_some_iff.mp hagg).2.2.1]
    exact hview

end Calls
end InventoryReservation
