import InventoryReservation.Meaning.Loading
import InventoryReservation.Meaning.Sparing
import InventoryReservation.Guarantees.BatchIndependence

/-! # Expiry accounting

A batch of the expiration worker takes the first expired reservations that nobody else has locked, releases
the units of their allocations, exactly, and leaves all other rows alone; what it makes of a reservation
follows from the replies of the external providers.
-/

namespace InventoryReservation
set_option autoImplicit false

open Relational Transactional

/-! ## The statement -/

/-- Pending, expired, and not locked by another transaction. -/
structure ReservationModel.Expirable (environment : Environment) (reservation : ReservationModel) : Prop where
  pending : reservation.status = .pending
  expired : reservation.expiresAt ≤ environment.now
  unlocked : environment.lockedByOthers reservation.id = false

/-- The earlier expiry goes first, and the smaller id among equals. -/
def ReservationModel.expiresBefore (a b : ReservationModel) : Prop :=
  a.expiresAt < b.expiresAt ∨ (a.expiresAt = b.expiresAt ∧ a.id.int ≤ b.id.int)

instance (a b : ReservationModel) : Decidable (a.expiresBefore b) :=
  inferInstanceAs (Decidable (_ ∨ (_ ∧ _)))

/-- These are the first expirable reservations, at most `limit`. -/
structure Database.FirstExpired (database : Database) (environment : Environment) (limit : ℕ)
    (batch : List ReservationModel) : Prop where
  expirable : ∀ reservation ∈ batch,
    reservation ∈ database.reservations ∧ reservation.Expirable environment
  distinct : (batch.map ReservationModel.id).Nodup
  ordered : batch.Pairwise ReservationModel.expiresBefore
  within : batch.length ≤ limit
  first : ∀ reservation ∈ database.reservations, reservation.Expirable environment → reservation ∉ batch →
    batch.length = limit ∧ ∀ taken ∈ batch, taken.expiresBefore reservation

/-- The units of the allocations of a reservation at the internal offer `k`. -/
def Database.expiringAt (database : Database) (reservationId : Uuid) (k : Uuid × Uuid) : ℤ :=
  ((database.allocationRows reservationId).map fun row =>
    if row.provider.kind = .internal ∧ k = (row.productId, row.allocation.providerId) then
      row.allocation.quantity.units
    else 0).sum

/-- The release request for an external allocation. -/
def AllocationRow.releaseCommand (reservationId : Uuid) (row : AllocationRow) : OperationCommand where
  holdReference := row.allocation.providerHoldReference.getD ""
  idempotencyKey := .release reservationId row.allocation.id

/-- The provider of every external allocation answers that it is released. -/
def Database.AllReleased (database : Database) (environment : Environment) (reservationId : Uuid) : Prop :=
  ∀ row ∈ database.allocationRows reservationId, row.provider.kind = .external →
    environment.release row.provider.id (row.releaseCommand reservationId) = .attempt .released

instance (database : Database) (environment : Environment) (reservationId : Uuid) :
    Decidable (database.AllReleased environment reservationId) :=
  inferInstanceAs (Decidable (∀ row ∈ database.allocationRows reservationId, _ → _))

/-- An allocation of one of these reservations. -/
def Database.Owned (database : Database) (batch : List ReservationModel)
    (allocation : InventoryAllocationModel) : Prop :=
  ∃ reservation ∈ batch, database.ownerOf allocation = some reservation.id

/-- What a batch of the expiration worker over these reservations leaves. -/
structure ExpiryAccounts (environment : Environment) (batch : List ReservationModel)
    (exchanges : List (Database × Exchange)) (before after : Database) : Prop where
  asked : ∀ reservation ∈ batch, ∀ row ∈ before.allocationRows reservation.id, row.provider.kind = .external →
    ∃ database, (database, .release row.provider.id (row.releaseCommand reservation.id)
      (environment.release row.provider.id (row.releaseCommand reservation.id))) ∈ exchanges
  status : ∀ reservation ∈ batch, ∃ reservation', after.reservations.find? reservation.id = some reservation' ∧
    (reservation'.status, reservation'.releaseTargetStatus) =
      if before.AllReleased environment reservation.id then (.expired, none) else (.releasing, some .expired)
  released : ∀ reservation ∈ batch, ∀ row ∈ after.allocationRows reservation.id,
    row.provider.kind = .internal → row.allocation.status = .released
  reserved : ∀ k offer, before.offers.find? k = some offer → ∃ version, after.offers.find? k = some
    { offer with
      reserved := offer.reserved - (batch.map fun reservation => before.expiringAt reservation.id k).sum
      version }
  offers : ∀ k, (∀ reservation ∈ batch, ∀ row ∈ before.allocationRows reservation.id,
      row.provider.kind = .internal → k ≠ (row.productId, row.allocation.providerId)) →
    after.offers.find? k = before.offers.find? k
  reservations : ∀ r, r ∉ batch.map ReservationModel.id →
    after.reservations.find? r = before.reservations.find? r
  allocations : ∀ id, (∀ allocation ∈ before.allocations.find? id, ¬ before.Owned batch allocation) →
    after.allocations.find? id = before.allocations.find? id
  operations : ∀ key, (∀ reservation ∈ batch, ∀ row ∈ before.allocationRows reservation.id,
      row.provider.kind = .external → key ≠ .release reservation.id row.allocation.id) →
    after.operations.find? key = before.operations.find? key
  orders : after.orders = before.orders ∧ after.orderItems = before.orderItems
  items : after.items = before.items

/-! ## Selection -/

theorem ReservationModel.expiresBefore_total (a b : ReservationModel) :
    a.expiresBefore b ∨ b.expiresBefore a := by
  rcases lt_trichotomy a.expiresAt b.expiresAt with h | h | h
  · exact Or.inl (Or.inl h)
  · rcases le_total a.id.int b.id.int with hid | hid
    · exact Or.inl (Or.inr ⟨h, hid⟩)
    · exact Or.inr (Or.inr ⟨h.symm, hid⟩)
  · exact Or.inr (Or.inl h)

theorem ReservationModel.expiresBefore_trans {a b c : ReservationModel} (hab : a.expiresBefore b)
    (hbc : b.expiresBefore c) : a.expiresBefore c := by
  rcases hab with hab | ⟨hab, hid⟩
  · rcases hbc with hbc | ⟨hbc, -⟩
    · exact Or.inl (lt_trans hab hbc)
    · exact Or.inl (hbc ▸ hab)
  · rcases hbc with hbc | ⟨hbc, hid'⟩
    · exact Or.inl (hab ▸ hbc)
    · exact Or.inr ⟨hab.trans hbc, le_trans hid hid'⟩

theorem Database.expiredBatch_first (database : Database) (environment : Environment) (limit : ℕ) :
    database.FirstExpired environment limit (database.expiredBatch environment limit) := by
  have htotal : Std.Total ReservationModel.expiresBefore := ⟨ReservationModel.expiresBefore_total⟩
  have htrans : IsTrans ReservationModel ReservationModel.expiresBefore :=
    ⟨fun _ _ _ => ReservationModel.expiresBefore_trans⟩
  let eligible := database.reservations.rows.filter fun reservation =>
    reservation.isExpired environment.now && !environment.lockedByOthers reservation.id
  let sorted := eligible.insertionSort ReservationModel.expiresBefore
  have heligible : ∀ reservation, reservation ∈ sorted ↔
      reservation ∈ database.reservations ∧ reservation.Expirable environment := by
    intro reservation
    rw [List.mem_insertionSort, List.mem_filter, Bool.and_eq_true, Bool.not_eq_true']
    unfold ReservationModel.isExpired
    rw [decide_eq_true_eq]
    exact and_congr Iff.rfl ⟨fun h => ⟨h.1.1, h.1.2, h.2⟩, fun h => ⟨⟨h.pending, h.expired⟩, h.unlocked⟩⟩
  have hbatch : database.expiredBatch environment limit = sorted.take limit := rfl
  have hsorted : sorted.Pairwise ReservationModel.expiresBefore := List.pairwise_insertionSort _ _
  constructor
  · intro reservation hr
    exact (heligible reservation).mp (List.mem_of_mem_take hr)
  · exact database.lockBatch_nodup environment limit _ _
  · rw [hbatch]
    exact hsorted.sublist (List.take_sublist limit sorted)
  · rw [hbatch]
    exact List.length_take_le limit sorted
  · intro reservation hr hexpirable hleft
    rw [hbatch] at hleft ⊢
    have hmem : reservation ∈ sorted.take limit ++ sorted.drop limit := by
      rw [List.take_append_drop]
      exact (heligible reservation).mpr ⟨hr, hexpirable⟩
    have hdropped : reservation ∈ sorted.drop limit := (List.mem_append.mp hmem).resolve_left hleft
    constructor
    · have hlength := List.length_pos_of_mem hdropped
      rw [List.length_drop] at hlength
      rw [List.length_take]
      omega
    · intro taken htaken
      rw [← List.take_append_drop limit sorted] at hsorted
      exact (List.pairwise_append.mp hsorted).2.2 taken htaken reservation hdropped

/-! ## Releases in sequence -/

/-- What releasing these reservations, one after the other, did to the tables. -/
structure Releases (rs : List Uuid) (s t : Database) : Prop where
  items : t.items = s.items
  orders : t.orders = s.orders
  orderItems : t.orderItems = s.orderItems
  reservations : ∀ r, r ∉ rs → t.reservations.find? r = s.reservations.find? r
  allocations : ∀ id, (∀ allocation ∈ s.allocations.find? id, ∀ r ∈ rs, s.ownerOf allocation ≠ some r) →
    t.allocations.find? id = s.allocations.find? id
  operations : ∀ key, (∀ r ∈ rs, ∀ row ∈ s.allocationRows r, row.provider.kind = .external →
      key ≠ .release r row.allocation.id) →
    t.operations.find? key = s.operations.find? key
  offers : ∀ k, t.offers.find? k = (s.offers.find? k).map (ProductOfferModel.draw false
    (rs.map fun r => releasing.drawn k (s.allocationRows r)).sum
    (rs.map fun r => releasing.drawCount k (s.allocationRows r)).sum)

namespace Releases
variable {r : Uuid} {rs : List Uuid} {s t u : Database}

theorem nil (s : Database) : Releases [] s s where
  items := rfl
  orders := rfl
  orderItems := rfl
  reservations _ _ := rfl
  allocations _ _ := rfl
  operations _ _ := rfl
  offers k := by
    have hid : ProductOfferModel.draw false 0 0 = id := funext (ProductOfferModel.draw_zero _)
    rw [List.map_nil, List.map_nil, List.sum_nil, List.sum_nil, hid, Option.map_id_fun, id]

theorem cons (h : Releases [r] s t) (h' : Releases rs t u)
    (hrows : ∀ r' ∈ rs, t.allocationRows r' = s.allocationRows r') : Releases (r :: rs) s u := by
  have howner : ∀ allocation, t.ownerOf allocation = s.ownerOf allocation := by
    intro allocation
    unfold Database.ownerOf
    rw [h.items]
  constructor
  · exact h'.items.trans h.items
  · exact h'.orders.trans h.orders
  · exact h'.orderItems.trans h.orderItems
  · intro r' hr'
    obtain ⟨hne, hr'⟩ := not_or.mp (List.mem_cons.not.mp hr')
    exact (h'.reservations r' hr').trans (h.reservations r' (List.mem_singleton.not.mpr hne))
  · intro id hforeign
    have hfirst : t.allocations.find? id = s.allocations.find? id := by
      refine h.allocations id fun allocation ha r' hr' => ?_
      rw [List.mem_singleton.mp hr']
      exact hforeign allocation ha r List.mem_cons_self
    refine (h'.allocations id fun allocation ha r' hr' => ?_).trans hfirst
    rw [hfirst] at ha
    rw [howner]
    exact hforeign allocation ha r' (List.mem_cons_of_mem r hr')
  · intro key hkey
    refine (h'.operations key fun r' hr' row hrow => ?_).trans (h.operations key fun r' hr' row hrow => ?_)
    · rw [hrows r' hr'] at hrow
      exact hkey r' (List.mem_cons_of_mem r hr') row hrow
    · rw [List.mem_singleton.mp hr'] at hrow ⊢
      exact hkey r List.mem_cons_self row hrow
  · intro k
    have hdrawn : (rs.map fun r' => releasing.drawn k (t.allocationRows r')) =
        rs.map fun r' => releasing.drawn k (s.allocationRows r') :=
      List.map_congr_left fun r' hr' => by rw [hrows r' hr']
    have hcount : (rs.map fun r' => releasing.drawCount k (t.allocationRows r')) =
        rs.map fun r' => releasing.drawCount k (s.allocationRows r') :=
      List.map_congr_left fun r' hr' => by rw [hrows r' hr']
    rw [h'.offers, h.offers, hdrawn, hcount, Option.map_map]
    congr 1
    funext offer
    rw [Function.comp_apply, ProductOfferModel.draw_draw, List.map_singleton, List.map_singleton,
      List.sum_singleton, List.sum_singleton, List.map_cons, List.map_cons, List.sum_cons, List.sum_cons]

/-- An offer at which nothing is drawn stays as it is. -/
theorem offers_of_idle (h : Releases rs s t) {k : Uuid × Uuid}
    (hidle : ∀ r ∈ rs, ∀ row ∈ s.allocationRows r, ¬ releasing.drawsAt k row) :
    t.offers.find? k = s.offers.find? k := by
  have hdrawn : (rs.map fun r => releasing.drawn k (s.allocationRows r)).sum = 0 := by
    apply List.sum_eq_zero
    intro units hu
    obtain ⟨r, hr, rfl⟩ := List.mem_map.mp hu
    exact Settlement.drawn_of_idle (hidle r hr)
  have hcount : (rs.map fun r => releasing.drawCount k (s.allocationRows r)).sum = 0 := by
    apply List.sum_eq_zero
    intro count hc
    obtain ⟨r, hr, rfl⟩ := List.mem_map.mp hc
    exact Settlement.drawCount_of_idle (hidle r hr)
  have hsame : ProductOfferModel.draw false 0 0 = id := funext (ProductOfferModel.draw_zero _)
  rw [h.offers, hdrawn, hcount, hsame, Option.map_id_fun, id]

end Releases

section Walks
variable {environment : Environment} {terminalStatus : ReservationStatusModel}
  {reservation : ReservationModel} {reservations : List ReservationModel} {s t : Session}

/-- One walk of the code. -/
theorem Releases.of_release
    (h : releaseReservation environment reservation terminalStatus none s = .ok () t) :
    Releases [reservation.id] s.database t.database ∧
      ∀ r, r ≠ reservation.id → t.database.allocationRows r = s.database.allocationRows r := by
  have hlines := releaseReservation_orderItems h
  obtain ⟨heffect, horders⟩ :=
    releaseReservation_ok (rfl : Option.getD none _ = ProviderOperationContext.request reservation.id) rfl h
  obtain ⟨rows, hrows, hpass⟩ := heffect.walk
  refine ⟨?_, ?_⟩
  · constructor
    · exact hpass.items
    · exact horders
    · exact hlines
    · intro r hr
      have hne : r ≠ reservation.id := List.mem_singleton.not.mp hr
      rw [heffect.findReservation]
      cases hf : s.database.reservations.find? r with
      | none => rfl
      | some stored => exact congrArg some (if_neg hne)
    · intro id hforeign
      rw [hpass.allocations, Table.find?_mapRows]
      cases hf : s.database.allocations.find? id with
      | none => rfl
      | some allocation =>
        refine congrArg some (Settlement.relabel_of_foreign hrows (Table.mem_of_find? hf) ?_)
        exact hforeign allocation hf reservation.id List.mem_cons_self
    · intro key hkey
      refine hpass.operations key fun row hrow hasks => ?_
      exact hkey reservation.id List.mem_cons_self row (hrows.mem_iff.mp hrow) hasks.2.1
    · intro k
      rw [hpass.offers, List.map_singleton, List.map_singleton, List.sum_singleton, List.sum_singleton]
      have hdrawn : releasing.drawn k rows = releasing.drawn k (s.database.allocationRows reservation.id) :=
        (hrows.map _).sum_eq
      have hcount : releasing.drawCount k rows =
          releasing.drawCount k (s.database.allocationRows reservation.id) := hrows.countP_eq _
      rw [hdrawn, hcount]
      rfl
  · intro r hne
    rw [← Database.allocationViews_rows, hpass.allocationViews_of_ne hrows hne, Database.allocationViews_rows]

theorem releases_ok (hdistinct : (reservations.map ReservationModel.id).Nodup)
    (h : forEach (fun reservation => releaseReservation environment reservation terminalStatus none)
      reservations s = .ok () t) :
    Releases (reservations.map ReservationModel.id) s.database t.database := by
  induction reservations generalizing s with
  | nil =>
    obtain ⟨-, rfl⟩ := pure_ok_iff.mp h
    exact .nil _
  | cons reservation reservations ih =>
    rw [forEach] at h
    obtain ⟨_, v, hv, h⟩ := bind_ok_iff.mp h
    obtain ⟨hhead, htail⟩ := List.nodup_cons.mp hdistinct
    obtain ⟨hfirst, hothers⟩ := Releases.of_release hv
    refine hfirst.cons (ih htail h) ?_
    rintro r hr
    exact hothers r fun he => hhead (he ▸ hr)

end Walks
/-! ## Pending reservations -/

/-- All allocations are held, and no provider has been asked about one. -/
structure Aggregate.Untouched (aggregate : Aggregate) : Prop where
  held : ∀ view ∈ aggregate.allocations, view.allocation.status = .held
  fresh : ∀ view ∈ aggregate.allocations, ∀ kind, view.operation kind = none

/-- Pending reservations are as they were created. -/
def Database.PendingUntouched (database : Database) : Prop :=
  ∀ r aggregate, database.aggregate? r = some aggregate → aggregate.reservation.status = .pending →
    aggregate.Untouched

theorem System.run_pendingUntouched (sha256 : String → String) {database : Database} (hinit : database.Initial)
    (events : List Event) : (run sha256 database events).PendingUntouched :=
  (maintains_pending (I := Aggregate.Untouched) fun _ h => ⟨h.held, h.fresh⟩).run hinit
    (.of_all (fun _ _ => trivial) database events)

section Pending
variable {database : Database} {environment : Environment} {reservation : ReservationModel}

theorem Database.PendingUntouched.row (h : database.PendingUntouched)
    (hr : reservation ∈ database.reservations) (hpending : reservation.status = .pending)
    {row : AllocationRow} (hrow : row ∈ database.allocationRows reservation.id) :
    row.allocation.status = .held ∧
      (row.provider.kind = .external →
        releasing.asks (.request reservation.id) (database.view reservation.id row)) := by
  have ha : database.aggregate? reservation.id = some ⟨reservation, _, _, _⟩ :=
    Database.aggregate?_eq_some_iff.mpr ⟨Table.find?_of_mem hr, rfl, rfl, rfl⟩
  have huntouched := h reservation.id _ ha hpending
  have hview : database.view reservation.id row ∈ database.allocationViews reservation.id :=
    List.mem_map_of_mem hrow
  have hheld : row.allocation.status = .held := huntouched.held _ hview
  refine ⟨hheld, fun hexternal => ⟨?_, hexternal, ?_⟩⟩
  · intro hpasses
    have hreleased : row.allocation.status = .released := hpasses
    rw [hheld] at hreleased
    cases hreleased
  · intro operation ho
    rw [huntouched.fresh _ hview] at ho
    cases ho

/-- At every offer the release of a pending reservation draws what is allocated at it. -/
theorem Database.PendingUntouched.drawn (h : database.PendingUntouched)
    (hr : reservation ∈ database.reservations) (hpending : reservation.status = .pending) (k : Uuid × Uuid) :
    releasing.drawn k (database.allocationRows reservation.id) = database.expiringAt reservation.id k := by
  unfold Settlement.drawn Database.expiringAt
  congr 1
  apply List.map_congr_left
  intro row hrow
  have hheld := (h.row hr hpending hrow).1
  refine if_congr ⟨fun hd => ⟨hd.1.2, hd.2⟩, fun hd => ⟨⟨?_, hd.1⟩, hd.2⟩⟩ rfl rfl
  intro hpasses
  have hreleased : row.allocation.status = .released := hpasses
  rw [hheld] at hreleased
  cases hreleased

/-- A release of a pending reservation that has been answered, in terms of the replies. -/
theorem Database.PendingUntouched.allReleased_iff (h : database.PendingUntouched)
    (hr : reservation ∈ database.reservations) (hpending : reservation.status = .pending)
    {exchanges : List (Database × Exchange)}
    (hanswered : ∀ view ∈ database.allocationViews reservation.id, releasing.asks (.request reservation.id) view →
      releasing.answered environment (.request reservation.id) view exchanges) :
    (releasing.flags environment (.request reservation.id) (database.allocationViews reservation.id)).pending =
      false ↔ database.AllReleased environment reservation.id := by
  have hreply : ∀ row ∈ database.allocationRows reservation.id, row.provider.kind = .external →
      environment.release row.provider.id (row.releaseCommand reservation.id) =
        .attempt (releasing.outcome environment (.request reservation.id) (database.view reservation.id row)) := by
    intro row hrow hexternal
    have hasks := (h.row hr hpending hrow).2 hexternal
    rw [Settlement.outcome_of_asks hasks]
    exact (hanswered _ (List.mem_map_of_mem hrow) hasks).1
  constructor
  · intro hflags row hrow hexternal
    rw [hreply row hrow hexternal, outcome_of_releasing_flags environment _ hflags _ (List.mem_map_of_mem hrow)]
  · intro hall
    rw [Bool.eq_false_iff]
    intro hp
    obtain ⟨view, hview, hne⟩ := (releasing_flags_pending environment _ _).mp hp
    obtain ⟨row, hrow, rfl⟩ := List.mem_map.mp hview
    cases hk : row.provider.kind with
    | internal => exact hne (Settlement.outcome_of_internal hk)
    | external =>
      have hreleased := (hreply row hrow hk).symm.trans (hall row hrow hk)
      exact hne (OperationReply.attempt.inj hreleased)

end Pending

/-! ## The batch -/

/-- A batch that is returned consists of the reservations as they are stored. -/
theorem toDomainBatch_ids {reservations : List ReservationModel} {s t : Session} {batch : List Reservation}
    (hstored : ∀ reservation ∈ reservations, (s.database.reservations.find? reservation.id).isSome)
    (h : toDomainBatch reservations s = .ok batch t) :
    batch.map Reservation.id = reservations.map ReservationModel.id := by
  induction reservations generalizing batch s with
  | nil =>
    obtain ⟨rfl, -⟩ := pure_ok_iff.mp h
    rfl
  | cons reservation reservations ih =>
    rw [toDomainBatch] at h
    obtain ⟨loaded, v, hv, h⟩ := bind_ok_iff.mp h
    obtain ⟨rest, w, hw, h⟩ := bind_ok_iff.mp h
    obtain ⟨rfl, rfl⟩ := pure_ok_iff.mp h
    cases getReservation_ok hv
    obtain ⟨model, hfound⟩ := Option.isSome_iff_exists.mp (hstored reservation List.mem_cons_self)
    rw [getReservation, readDatabase_bind, hfound, toDomain, readDatabase_bind] at hv
    obtain ⟨domain, hdomain, hv⟩ := ofExcept_bind_ok_iff.mp hv
    obtain ⟨rfl, -⟩ := pure_ok_iff.mp hv
    have hid : domain.id = reservation.id :=
      (Database.toDomain_eq_ok_iff.mp hdomain).id.trans (Table.key_of_find? hfound)
    rw [Option.toList_some, List.singleton_append, List.map_cons, List.map_cons, hid,
      ih (fun other hother => hstored other (List.mem_cons_of_mem _ hother)) hw]

/-- A reservation of the batch was released, and the providers it asked have answered. -/
structure Lapsed (environment : Environment) (exchanges : List (Database × Exchange)) (before after : Database)
    (reservation : ReservationModel) (released : Aggregate) : Prop where
  aggregate : after.aggregate? reservation.id = some released
  released : Aggregate.Released environment (.request reservation.id) .expired
    ⟨reservation, before.itemsOf reservation.id, before.allocationViews reservation.id,
      before.orders.find? reservation.id⟩ released
  answered : ∀ view ∈ before.allocationViews reservation.id, releasing.asks (.request reservation.id) view →
    releasing.answered environment (.request reservation.id) view exchanges

section Lapsing
variable {environment : Environment} {limit : ℕ} {database : Database} {t : Session}
  {reservation : ReservationModel} {aggregate : Aggregate} {processed : List Reservation}

/-- Every reservation of a batch that returned has lapsed. -/
theorem expireBatch_lapsed (hwf : database.WellFormed)
    (h : expireBatch environment limit (.start database) = .ok processed t)
    (hr : reservation ∈ database.expiredBatch environment limit) :
    ∃ released, Lapsed environment t.exchanges database t.database reservation released := by
  have hmakes := expireBatch_makes (s := .start database) processed t h
  have hwalked := walks_ok (s := .start database) hwf
    (Event.walkable ⟨environment, .expireBatch limit⟩ database) hmakes
  obtain ⟨before, after, hbefore, hafter, hpass, hanswered⟩ :=
    hwalked.applied reservation.expireWalk (List.mem_map_of_mem hr)
  have hmem := ((database.expiredBatch_first environment limit).expirable reservation hr).1
  have hstored : database.aggregate? reservation.id = some ⟨reservation, _, _, _⟩ :=
    Database.aggregate?_eq_some_iff.mpr ⟨Table.find?_of_mem hmem, rfl, rfl, rfl⟩
  cases hstored.symm.trans hbefore
  exact ⟨after, hafter, hpass, hanswered⟩

/-- Its status follows from the replies. -/
theorem Lapsed.status (h : Lapsed environment t.exchanges database t.database reservation aggregate)
    (huntouched : database.PendingUntouched) (hr : reservation ∈ database.reservations)
    (hpending : reservation.status = .pending) :
    (aggregate.reservation.status, aggregate.reservation.releaseTargetStatus) =
      if database.AllReleased environment reservation.id then (.expired, none)
      else (.releasing, some .expired) := by
  have hiff := huntouched.allReleased_iff hr hpending h.answered
  rcases h.released.cases with ⟨hp, hs, ht⟩ | ⟨hp, hs, ht⟩
  · have hnot : ¬ database.AllReleased environment reservation.id := by
      intro hall
      cases hp.symm.trans (hiff.mpr hall)
    rw [if_neg hnot, hs, ht]
  · rw [if_pos (hiff.mp hp), hs, ht]

/-- Its internal allocations are released. -/
theorem Lapsed.internal (h : Lapsed environment t.exchanges database t.database reservation aggregate)
    {row : AllocationRow} (hrow : row ∈ t.database.allocationRows reservation.id)
    (hk : row.provider.kind = .internal) : row.allocation.status = .released := by
  have hview := Database.view_mem h.aggregate hrow
  rw [h.released.allocations] at hview
  obtain ⟨before, -, hsettled⟩ := List.mem_map.mp hview
  have hkind : before.provider.kind = .internal := by
    rw [← hk]
    exact congrArg (fun view => view.provider.kind) hsettled
  have hstatus : row.allocation.status = releasing.allocationStatus
      (releasing.outcome environment (.request reservation.id) before) :=
    (congrArg (fun view => view.allocation.status) hsettled).symm
  rw [hstatus, Settlement.outcome_of_internal hkind]
  rfl

end Lapsing

/-- What a batch that returned its reservations leaves, from a database in which pending reservations are as
they were created. -/
theorem expireBatch_accounts {environment : Environment} {limit : ℕ} {database : Database} {t : Session}
    {processed : List Reservation} (hwf : database.WellFormed) (huntouched : database.PendingUntouched)
    (h : expireBatch environment limit (.start database) = .ok processed t) :
    ∃ batch, database.FirstExpired environment limit batch ∧
      processed.map Reservation.id = batch.map ReservationModel.id ∧
      ExpiryAccounts environment batch t.exchanges database t.database := by
  have hlapsed := fun reservation (hr : reservation ∈ database.expiredBatch environment limit) =>
    expireBatch_lapsed hwf h hr
  rw [expireBatch, readDatabase_bind] at h
  obtain ⟨_, v, hv, h⟩ := bind_ok_iff.mp h
  cases toDomainBatch_ok h
  have hfirst := database.expiredBatch_first environment limit
  have hreleases := releases_ok hfirst.distinct hv
  refine ⟨database.expiredBatch environment limit, hfirst, ?_, ?_⟩
  · refine toDomainBatch_ids (fun reservation hr => ?_) h
    obtain ⟨released, hreleased⟩ := hlapsed reservation hr
    exact Option.isSome_iff_exists.mpr ⟨_, (Database.aggregate?_eq_some_iff.mp hreleased.aggregate).1⟩
  · generalize database.expiredBatch environment limit = batch at hlapsed hfirst hreleases
    constructor
    · intro reservation hr row hrow hexternal
      obtain ⟨hmem, hexpirable⟩ := hfirst.expirable reservation hr
      have hasks := (huntouched.row hmem hexpirable.pending hrow).2 hexternal
      obtain ⟨released, hreleased⟩ := hlapsed reservation hr
      exact (hreleased.answered _ (List.mem_map_of_mem hrow) hasks).2
    · intro reservation hr
      obtain ⟨hmem, hexpirable⟩ := hfirst.expirable reservation hr
      obtain ⟨released, hreleased⟩ := hlapsed reservation hr
      exact ⟨released.reservation, (Database.aggregate?_eq_some_iff.mp hreleased.aggregate).1,
        hreleased.status huntouched hmem hexpirable.pending⟩
    · intro reservation hr row hrow hk
      obtain ⟨released, hreleased⟩ := hlapsed reservation hr
      exact hreleased.internal hrow hk
    · intro k offer ho
      have hdrawn : (batch.map fun reservation =>
          releasing.drawn k (database.allocationRows reservation.id)) =
          batch.map fun reservation => database.expiringAt reservation.id k :=
        List.map_congr_left fun reservation hr =>
          huntouched.drawn (hfirst.expirable reservation hr).1 (hfirst.expirable reservation hr).2.pending k
      have hoffer := hreleases.offers k
      have hfind : (Session.start database).database.offers.find? k = some offer := ho
      rw [hfind, List.map_map, List.map_map] at hoffer
      rw [← hdrawn]
      exact ⟨_, hoffer⟩
    · intro k hforeign
      refine hreleases.offers_of_idle fun r hr row hrow hdraws => ?_
      obtain ⟨reservation, hmem, rfl⟩ := List.mem_map.mp hr
      exact hforeign reservation hmem row hrow hdraws.1.2 hdraws.2
    · exact hreleases.reservations
    · intro id hforeign
      refine hreleases.allocations id fun allocation ha r hr howner => ?_
      obtain ⟨reservation, hmem, rfl⟩ := List.mem_map.mp hr
      exact hforeign allocation ha ⟨reservation, hmem, howner⟩
    · intro key hkey
      refine hreleases.operations key fun r hr row hrow hexternal => ?_
      obtain ⟨reservation, hmem, rfl⟩ := List.mem_map.mp hr
      exact hkey reservation hmem row hrow hexternal
    · exact ⟨hreleases.orders, hreleases.orderItems⟩
    · exact hreleases.items

/-- For every reachable database, time, limit, set of locked reservations and replies. -/
theorem System.expire_batch_accounts (sha256 : String → String) {database : Database}
    (hinit : database.Initial) (events : List Event) (environment : Environment) (limit : ℕ)
    (hreturns : (execute sha256 ⟨environment, .expireBatch limit⟩
      (run sha256 database events)).result.isOk = true) :
    ∃ processed batch,
      (execute sha256 ⟨environment, .expireBatch limit⟩ (run sha256 database events)).result =
        .ok (.batch processed) ∧
      (run sha256 database events).FirstExpired environment limit batch ∧
      processed.map Reservation.id = batch.map ReservationModel.id ∧
      ExpiryAccounts environment batch
        (execute sha256 ⟨environment, .expireBatch limit⟩ (run sha256 database events)).exchanges
        (run sha256 database events) (run sha256 database (events ++ [⟨environment, .expireBatch limit⟩])) := by
  obtain ⟨processed, t, hr, he⟩ := reservationTransaction_returned hreturns
  obtain ⟨batch, hfirst, hids, haccounts⟩ := expireBatch_accounts
    (run_sound sha256 hinit events).wellFormed (run_pendingUntouched sha256 hinit events) hr
  have hexecute : execute sha256 ⟨environment, .expireBatch limit⟩ (run sha256 database events) =
      ⟨.ok (.batch processed), t.database, t.exchanges⟩ := he
  have hstep : run sha256 database (events ++ [⟨environment, .expireBatch limit⟩]) = t.database := by
    rw [run, Runs.run_append]
    exact congrArg TransactionOutcome.database hexecute
  refine ⟨processed, batch, congrArg TransactionOutcome.result hexecute, hfirst, hids, ?_⟩
  rw [hexecute, hstep]
  exact haccounts

/-- Two reservations that share an internal offer; the second has units of the supplier as well. -/
def Deployment.lapsing : List Event :=
  [create 1000 100 0 [line 1 10 1 one_unit] "first",
    create 1100 101 10 [line 1 10 2 two_units, line 2 20 1 one_unit] "second"]

/-- Both expire while the supplier leaves the release unknown. -/
theorem expire_batch_accounts_lapsing : ∃ batch,
    ExpiryAccounts (Deployment.releasing .unknown (Deployment.expire 2000)).environment batch
      (System.execute Deployment.sha256 (Deployment.releasing .unknown (Deployment.expire 2000))
        (System.run Deployment.sha256 Deployment.database Deployment.lapsing)).exchanges
      (System.run Deployment.sha256 Deployment.database Deployment.lapsing)
      (System.run Deployment.sha256 Deployment.database
        (Deployment.lapsing ++ [Deployment.releasing .unknown (Deployment.expire 2000)])) := by
  obtain ⟨processed, batch, -, -, -, haccounts⟩ := System.expire_batch_accounts Deployment.sha256
    Deployment.initial Deployment.lapsing
    (Deployment.releasing .unknown (Deployment.expire 2000)).environment 10 (by decide +kernel)
  exact ⟨batch, haccounts⟩

end InventoryReservation
