import InventoryReservation.Meaning.Requests

/-! # One step of the system

Each request is its walks, a creation, or an assignment of stock levels; or nothing, when it raised.
`System.transition` says so of every step: what it did to each reservation, to the references between
the tables and to the balance of the stock. `System.execute_traced` says which provider calls it made,
committed or not.
-/

namespace InventoryReservation
set_option autoImplicit false

open Relational Transactional

/-! ## Loops over walks -/

theorem forEach_map {α β : Type} (body : β → TransactionM Unit) (f : α → β) (xs : List α) :
    forEach body (xs.map f) = forEach (fun x => body (f x)) xs := by
  induction xs with
  | nil => rfl
  | cons x xs ih => rw [List.map_cons, forEach, forEach, ih]

/-- A loop that raises at one element raises. -/
theorem forEach_of_error {α : Type} {body : α → TransactionM Unit} {xs ys : List α} {x : α} {s t u : Session}
    {failure : Failure} (h : forEach body xs s = .ok () t) (hx : body x t = .error failure u) :
    forEach body (xs ++ x :: ys) s = .error failure u := by
  induction xs generalizing s with
  | nil =>
    obtain ⟨-, rfl⟩ := pure_ok_iff.mp h
    exact bind_of_error hx
  | cons y xs ih =>
    rw [forEach] at h
    obtain ⟨_, v, hv, h⟩ := bind_ok_iff.mp h
    rw [List.cons_append, forEach, bind_of_ok hv]
    exact ih h

/-- Elements the body does nothing for can be left out. -/
theorem forEach_filterMap {α β : Type} {body : α → TransactionM Unit} {body' : β → TransactionM Unit}
    {f : α → Option β} (h : ∀ x, body x = (f x).elim (pure ()) body') (xs : List α) :
    forEach body xs = forEach body' (xs.filterMap f) := by
  induction xs with
  | nil => rfl
  | cons x xs ih =>
    rw [forEach, h, ih]
    cases hf : f x with
    | none =>
      rw [List.filterMap_cons_none hf]
      rfl
    | some y =>
      rw [List.filterMap_cons_some hf]
      rfl

theorem reconcileReservation_eq (environment : Environment) (maxAttempts : ℕ) (retryBaseDelay : Duration)
    (reservation : ReservationModel) :
    reconcileReservation environment maxAttempts retryBaseDelay reservation =
      (reservation.reconcileWalk environment maxAttempts retryBaseDelay).elim (pure ())
        (Walk.run environment) := by
  unfold reconcileReservation ReservationModel.reconcileWalk
  by_cases hr : reservation.status = .releasing
  · simp only [hr, if_true]
    cases reservation.releaseTargetStatus <;> rfl
  · simp only [hr, if_false]
    by_cases hc : reservation.status = .confirming
    · simp only [hc, if_true]
      rfl
    · simp only [hc, if_false]
      rfl

theorem toDomainBatch_ok {reservations : List ReservationModel} {s t : Session} {batch : List Reservation}
    (h : toDomainBatch reservations s = .ok batch t) : t = s := by
  induction reservations generalizing batch s with
  | nil => exact (pure_ok_iff.mp h).2.symm
  | cons reservation reservations ih =>
    rw [toDomainBatch] at h
    obtain ⟨_, v, hv, h⟩ := bind_ok_iff.mp h
    obtain ⟨_, w, hw, h⟩ := bind_ok_iff.mp h
    obtain ⟨-, rfl⟩ := pure_ok_iff.mp h
    cases getReservation_ok hv
    exact ih hw

/-! ## Bodies of requests -/

/-- A confirmed reservation has its order. -/
def Database.Booked (database : Database) : Prop :=
  ∀ r before, database.aggregate? r = some before → before.reservation.status = .confirmed →
    before.order.isSome

section Bodies
variable {environment : Environment} {s t : Session}

/-- A body that returned has made these walks; the rest of it only read. -/
abbrev MakesWalks (environment : Environment) (walks : List Walk) {α : Type} (body : TransactionM α)
    (s : Session) : Prop :=
  ∀ result t, body s = .ok result t → forEach (Walk.run environment) walks s = .ok () t

/-- What a body that walks did, when it returned. -/
abbrev Walks (environment : Environment) (walks : List Walk) {α : Type} (body : TransactionM α)
    (s : Session) : Prop :=
  ∀ result t, body s = .ok result t → Walked environment walks s t

theorem MakesWalks.walks {walks : List Walk} {α : Type} {body : TransactionM α}
    (h : MakesWalks environment walks body s) (hwf : s.database.WellFormed)
    (hwalkable : Walkable s.database walks) : Walks environment walks body s :=
  fun result t hr => walks_ok hwf hwalkable (h result t hr)

/-- How a confirmation that returned went. -/
inductive Confirms (environment : Environment) (reservationId userId : Uuid) (s : Session) :
    Option Reservation → Session → Prop
  | absent (h : s.database.findOwned reservationId userId = none) :
      Confirms environment reservationId userId s none s
  | confirmed (reservation : ReservationModel) (result : Option Reservation) (t : Session)
      (h : s.database.findOwned reservationId userId = some reservation)
      (hstatus : reservation.status = .confirmed)
      (horder : ensureOrder environment reservation s = .ok () t)
      (hloaded : getReservation reservation.id t = .ok result t) :
      Confirms environment reservationId userId s result t
  | walked (reservation : ReservationModel) (result : Option Reservation) (t : Session)
      (h : s.database.findOwned reservationId userId = some reservation)
      (hstatus : ¬ (reservation.status = .confirmed ∨ reservation.status = .cancelled))
      (hwalk : confirmReservation environment reservation (.request reservation.id) s = .ok result t) :
      Confirms environment reservationId userId s result t

theorem confirm_cases {reservationId userId : Uuid} {result : Option Reservation}
    (h : confirm environment reservationId userId s = .ok result t) :
    Confirms environment reservationId userId s result t := by
  rw [confirm, readDatabase_bind] at h
  cases ho : s.database.findOwned reservationId userId with
  | none =>
    rw [ho] at h
    obtain ⟨rfl, rfl⟩ := pure_ok_iff.mp h
    exact .absent ho
  | some reservation =>
    simp only [ho] at h
    by_cases hc : reservation.status = .confirmed
    · rw [if_pos hc] at h
      obtain ⟨_, v, horder, hloaded⟩ := bind_ok_iff.mp h
      cases getReservation_ok hloaded
      exact .confirmed reservation result t ho hc horder hloaded
    · rw [if_neg hc] at h
      obtain ⟨hc', hwalk⟩ := ite_throw_ok_iff.mp h
      exact .walked reservation result t ho (not_or.mpr ⟨hc, hc'⟩) hwalk

/-- How a cancellation that returned went. -/
inductive Cancels (environment : Environment) (reservationId userId : Uuid) (s : Session) :
    Option Reservation → Session → Prop
  | absent (h : s.database.findOwned reservationId userId = none) :
      Cancels environment reservationId userId s none s
  | cancelled (reservation : ReservationModel) (result : Option Reservation)
      (h : s.database.findOwned reservationId userId = some reservation)
      (hstatus : reservation.status = .cancelled)
      (hloaded : getReservation reservation.id s = .ok result s) :
      Cancels environment reservationId userId s result s
  | walked (reservation : ReservationModel) (result : Option Reservation) (t : Session)
      (h : s.database.findOwned reservationId userId = some reservation)
      (hstatus : ¬ (reservation.status = .cancelled ∨ reservation.status = .confirmed ∨
        reservation.status = .confirming))
      (hwalk : releaseReservation environment reservation .cancelled none s = .ok () t)
      (hloaded : getReservation reservation.id t = .ok result t) :
      Cancels environment reservationId userId s result t

theorem cancel_cases {reservationId userId : Uuid} {result : Option Reservation}
    (h : cancel environment reservationId userId s = .ok result t) :
    Cancels environment reservationId userId s result t := by
  rw [cancel, readDatabase_bind] at h
  cases ho : s.database.findOwned reservationId userId with
  | none =>
    rw [ho] at h
    obtain ⟨rfl, rfl⟩ := pure_ok_iff.mp h
    exact .absent ho
  | some reservation =>
    simp only [ho] at h
    by_cases hc : reservation.status = .cancelled
    · rw [if_pos hc] at h
      cases getReservation_ok h
      exact .cancelled reservation result ho hc h
    · rw [if_neg hc] at h
      obtain ⟨hconfirmed, h⟩ := ite_throw_ok_iff.mp h
      obtain ⟨hconfirming, h⟩ := ite_throw_ok_iff.mp h
      obtain ⟨_, v, hwalk, hloaded⟩ := bind_ok_iff.mp h
      cases getReservation_ok hloaded
      exact .walked reservation result t ho (not_or.mpr ⟨hc, not_or.mpr ⟨hconfirmed, hconfirming⟩⟩)
        hwalk hloaded

theorem confirm_makes {reservationId userId : Uuid} (hbooked : s.database.Booked) :
    MakesWalks environment (s.database.confirmWalks reservationId userId)
      (confirm environment reservationId userId) s := by
  intro result t h
  unfold Database.confirmWalks
  cases confirm_cases h with
  | absent ho =>
    rw [ho]
    rfl
  | confirmed reservation _ _ ho hstatus horder hloaded =>
    rw [ho]
    dsimp only
    rw [if_pos (Or.inl hstatus)]
    obtain ⟨hf, hid, -⟩ := Database.findOwned_eq_some ho
    have hsome := hbooked reservationId ⟨reservation, _, _, _⟩
      (Database.aggregate?_eq_some_iff.mpr ⟨hf, rfl, rfl, rfl⟩) hstatus
    cases ensureOrder_of_some (hid.symm ▸ hsome) horder
    rfl
  | walked reservation _ _ ho hstatus hwalk =>
    rw [ho]
    dsimp only
    rw [if_neg hstatus]
    exact bind_ok_iff.mpr ⟨(), t, bind_ok_iff.mpr ⟨result, t, hwalk, rfl⟩, rfl⟩

theorem cancel_makes {reservationId userId : Uuid} :
    MakesWalks environment (s.database.cancelWalks reservationId userId)
      (cancel environment reservationId userId) s := by
  intro result t h
  unfold Database.cancelWalks
  cases cancel_cases h with
  | absent ho =>
    rw [ho]
    rfl
  | cancelled reservation _ ho hstatus hloaded =>
    rw [ho]
    dsimp only
    rw [if_pos (Or.inl hstatus)]
    rfl
  | walked reservation _ _ ho hstatus hwalk hloaded =>
    rw [ho]
    dsimp only
    rw [if_neg hstatus]
    exact bind_ok_iff.mpr ⟨(), t, hwalk, rfl⟩

theorem expireBatch_makes {limit : ℕ} :
    MakesWalks environment ((s.database.expiredBatch environment limit).map ReservationModel.expireWalk)
      (expireBatch environment limit) s := by
  intro result t h
  rw [expireBatch, readDatabase_bind] at h
  obtain ⟨u, v, hv, h⟩ := bind_ok_iff.mp h
  cases toDomainBatch_ok h
  rw [forEach_map]
  exact hv

theorem reconcileBatch_makes {limit maxAttempts : ℕ} {retryBaseDelay : Duration} :
    MakesWalks environment ((s.database.reconcilableBatch environment limit maxAttempts).filterMap
        (ReservationModel.reconcileWalk environment maxAttempts retryBaseDelay))
      (reconcileBatch environment limit maxAttempts retryBaseDelay) s := by
  intro result t h
  rw [reconcileBatch, readDatabase_bind] at h
  obtain ⟨u, v, hv, h⟩ := bind_ok_iff.mp h
  cases toDomainBatch_ok h
  rw [← forEach_filterMap (reconcileReservation_eq environment maxAttempts retryBaseDelay)]
  exact hv

/-! ## Calls of bodies -/

/-- The calls a list of walks may make from this database. -/
def SentBy (environment : Environment) (walks : List Walk) (database : Database)
    (entry : Database × Exchange) : Prop :=
  ∃ walk ∈ walks, ∃ before ∈ database.aggregate? walk.reservation.id, ∃ view ∈ before.allocations,
    walk.pass.Sent environment view entry

theorem SentBy.of_view {walks : List Walk} {walk : Walk} {database : Database} {view : AllocationView}
    {entry : Database × Exchange} (hwalkable : Walkable database walks) (hw : walk ∈ walks)
    (hv : view ∈ database.allocationViews walk.reservation.id)
    (hsent : walk.pass.Sent environment view entry) : SentBy environment walks database entry := by
  obtain ⟨model, hf⟩ := Option.isSome_iff_exists.mp (hwalkable.stored walk hw)
  exact ⟨walk, hw, ⟨model, _, _, _⟩, Database.aggregate?_eq_some_iff.mpr ⟨hf, rfl, rfl, rfl⟩, view, hv,
    hsent⟩

theorem traced_nil {Q : Database × Exchange → Prop} (hs : s.exchanges = []) : Traced Q s := by
  intro entry he
  rw [hs] at he
  exact absurd he List.not_mem_nil

/-- The next attempt of an operation of these walks cannot be scheduled. -/
def OverflowsIn (environment : Environment) (walks : List Walk) (database : Database) : Prop :=
  ∃ walk ∈ walks, ∃ before ∈ database.aggregate? walk.reservation.id, ∃ view ∈ before.allocations,
    walk.pass.Overflows environment view

theorem walks_traced (environment : Environment) {walks : List Walk} {E : Failure → Prop}
    [AdmitsOrdinary E] (hwf : s.database.WellFormed) (hs : s.exchanges = [])
    (hwalkable : Walkable s.database walks)
    (hE : OverflowsIn environment walks s.database → E .overflow) :
    Stops (Traced (SentBy environment walks s.database)) E (forEach (Walk.run environment) walks s) := by
  refine walks_stops hwf hwalkable (traced_nil hs) ?_ ?_
  · exact fun walk hw before hb view hv _ hsent => ⟨walk, hw, before, hb, view, hv, hsent⟩
  · exact fun walk hw before hb view hv hlate => hE ⟨walk, hw, before, hb, view, hv, hlate⟩

theorem confirm_stops {reservationId userId : Uuid} (hs : s.exchanges = []) :
    Stops (Traced (SentBy environment (s.database.confirmWalks reservationId userId) s.database)) NoVerdict
      (confirm environment reservationId userId s) := by
  have hwalkable := Event.walkable ⟨environment, .confirm reservationId userId⟩ s.database
  simp only [Event.walks] at hwalkable
  rw [confirm, readDatabase_bind]
  unfold Database.confirmWalks at hwalkable ⊢
  cases ho : s.database.findOwned reservationId userId with
  | none => exact traced_nil hs
  | some reservation =>
    simp only [ho] at hwalkable ⊢
    by_cases hc : reservation.status = .confirmed
    · rw [if_pos hc]
      exact Keeps.bind (traces_ensureOrder _ _) (fun _ => traces_getReservation _) s (traced_nil hs)
    · rw [if_neg hc]
      by_cases hc' : reservation.status = .cancelled
      · rw [if_pos hc']
        exact Keeps.throw (noVerdict_of rfl) s (traced_nil hs)
      · have hne : ¬ (reservation.status = .confirmed ∨ reservation.status = .cancelled) :=
          fun hor => hor.elim hc hc'
        rw [if_neg hne] at hwalkable ⊢
        rw [if_neg hc']
        refine confirmReservation_stops rfl (traced_nil hs) ?_ fun _ _ _ => noVerdict_of rfl
        exact fun view hv _ hsent => .of_view hwalkable List.mem_cons_self hv hsent

theorem cancel_stops {reservationId userId : Uuid} (hs : s.exchanges = []) :
    Stops (Traced (SentBy environment (s.database.cancelWalks reservationId userId) s.database)) NoVerdict
      (cancel environment reservationId userId s) := by
  have hwalkable := Event.walkable ⟨environment, .cancel reservationId userId⟩ s.database
  simp only [Event.walks] at hwalkable
  rw [cancel, readDatabase_bind]
  unfold Database.cancelWalks at hwalkable ⊢
  cases ho : s.database.findOwned reservationId userId with
  | none => exact traced_nil hs
  | some reservation =>
    simp only [ho] at hwalkable ⊢
    by_cases hc : reservation.status = .cancelled
    · rw [if_pos hc]
      exact traces_getReservation _ s (traced_nil hs)
    · rw [if_neg hc]
      by_cases hc' : reservation.status = .confirmed
      · rw [if_pos hc']
        exact Keeps.throw (noVerdict_of rfl) s (traced_nil hs)
      · rw [if_neg hc']
        by_cases hc'' : reservation.status = .confirming
        · rw [if_pos hc'']
          exact Keeps.throw (noVerdict_of rfl) s (traced_nil hs)
        · have hne : ¬ (reservation.status = .cancelled ∨ reservation.status = .confirmed ∨
              reservation.status = .confirming) :=
            fun hor => hor.elim hc fun hor => hor.elim hc' hc''
          rw [if_neg hne] at hwalkable ⊢
          rw [if_neg hc'']
          refine Stops.bind_keeps ?_ fun _ => traces_getReservation _
          refine releaseReservation_stops rfl rfl (traced_nil hs) ?_ fun _ _ _ => noVerdict_of rfl
          exact fun view hv _ hsent => .of_view hwalkable List.mem_cons_self hv hsent

theorem expireBatch_stops {limit : ℕ} (hwf : s.database.WellFormed) (hs : s.exchanges = []) :
    Stops (Traced (SentBy environment
        ((s.database.expiredBatch environment limit).map ReservationModel.expireWalk) s.database)) NoVerdict
      (expireBatch environment limit s) := by
  rw [expireBatch, readDatabase_bind]
  refine Stops.bind_keeps ?_ fun _ => traces_toDomainBatch _
  have hstops := walks_traced (E := NoVerdict) environment hwf hs
    (Event.walkable ⟨environment, .expireBatch limit⟩ s.database) fun _ => noVerdict_of rfl
  simp only [Event.walks] at hstops
  rw [forEach_map] at hstops
  exact hstops

theorem reconcileBatch_stops {limit maxAttempts : ℕ} {retryBaseDelay : Duration} {E : Failure → Prop}
    [AdmitsOrdinary E] (hwf : s.database.WellFormed) (hs : s.exchanges = [])
    (hE : OverflowsIn environment ((s.database.reconcilableBatch environment limit maxAttempts).filterMap
      (ReservationModel.reconcileWalk environment maxAttempts retryBaseDelay)) s.database → E .overflow) :
    Stops (Traced (SentBy environment
        ((s.database.reconcilableBatch environment limit maxAttempts).filterMap
          (ReservationModel.reconcileWalk environment maxAttempts retryBaseDelay)) s.database)) E
      (reconcileBatch environment limit maxAttempts retryBaseDelay s) := by
  rw [reconcileBatch, readDatabase_bind]
  refine Stops.bind_keeps ?_ fun _ => traces_toDomainBatch _
  rw [forEach_filterMap (reconcileReservation_eq environment maxAttempts retryBaseDelay)]
  exact walks_traced environment hwf hs
    (Event.walkable ⟨environment, .reconcileBatch limit maxAttempts retryBaseDelay⟩ s.database) hE

end Bodies

/-! ## Stock levels -/

section Levels
variable {productId providerId : Uuid} {s t : Session}

theorem setLevel_ok {onHand allocationPriority : ℤ} {routingGroup : Option Uuid} {level : InventoryLevel}
    (h : setLevel productId providerId onHand allocationPriority routingGroup s = .ok level t) :
    HoldEffect 0 s t ∧ t.exchanges = s.exchanges := by
  rw [setLevel] at h
  obtain ⟨-, h⟩ := raiseIf_bind_ok_iff.mp h
  rw [readDatabase_bind] at h
  cases hi : s.database.offers.insert?
      (proposedOffer productId providerId onHand allocationPriority routingGroup) with
  | some offers =>
    simp only [hi, raiseIf_bind_ok_iff, writeDatabase_bind, pure_ok_iff] at h
    obtain ⟨-, -, rfl⟩ := h
    refine ⟨⟨rfl, rfl, ?_⟩, rfl⟩
    intro k
    unfold Database.reservedAt
    dsimp only
    rw [Table.find?_insert? hi]
    by_cases hk : k = (proposedOffer productId providerId onHand allocationPriority routingGroup).identity
    · rw [if_pos hk, hk, (Table.insert?_eq_some_iff.mp hi).1]
      rfl
    · rw [if_neg hk, Pi.zero_apply, add_zero]
  | none =>
    simp only [hi] at h
    obtain ⟨assigned, v, hv, h⟩ := bind_ok_iff.mp h
    rw [readDatabase_bind] at h
    have ht : t = v := by
      cases hf : v.database.offers.find? (productId, providerId) with
      | none =>
        rw [hf] at h
        cases h
      | some current =>
        rw [hf] at h
        cases assigned with
        | some _ => exact (pure_ok_iff.mp h).2.symm
        | none => exact (pure_ok_iff.mp (ite_throw_ok_iff.mp h).2).2.symm
    rw [ht]
    rcases updateOffer_ok hv with ⟨rfl, rfl⟩ | ⟨offer, offer', offers, hf, ha, rfl, hoffers, rfl⟩
    · exact ⟨.refl _, rfl⟩
    · refine ⟨?_, rfl⟩
      rw [← unitsAt_zero (productId, providerId)]
      refine .of_update 0 hf hoffers ?_
      obtain ⟨-, ⟨⟩⟩ := Option.ite_none_right_eq_some.mp ha
      exact (add_zero _).symm

theorem removeLevel_ok {removed : Bool} (h : removeLevel productId providerId s = .ok removed t) :
    HoldEffect 0 s t ∧ t.exchanges = s.exchanges := by
  rw [removeLevel, readDatabase_bind] at h
  cases hd : s.database.offers.deleteReturning (productId, providerId)
      (fun offer => offer.reserved = 0) with
  | some deleted =>
    obtain ⟨offer, offers⟩ := deleted
    simp only [hd, writeDatabase_bind, pure_ok_iff] at h
    obtain ⟨-, rfl⟩ := h
    obtain ⟨hf, hguard, -⟩ := Table.deleteReturning_eq_some_iff.mp hd
    refine ⟨⟨rfl, rfl, ?_⟩, rfl⟩
    intro k
    unfold Database.reservedAt
    dsimp only
    rw [Table.find?_deleteReturning hd]
    by_cases hk : k = (productId, providerId)
    · rw [if_pos hk, hk, hf, Pi.zero_apply, add_zero]
      exact (of_decide_eq_true hguard).symm
    · rw [if_neg hk, Pi.zero_apply, add_zero]
  | none =>
    rw [hd] at h
    cases hf : s.database.offers.find? (productId, providerId) with
    | none =>
      simp only [hf, pure_ok_iff] at h
      obtain ⟨-, rfl⟩ := h
      exact ⟨.refl _, rfl⟩
    | some current =>
      simp only [hf] at h
      cases h

theorem traces_setLevel {Q : Database × Exchange → Prop} {onHand allocationPriority : ℤ}
    {routingGroup : Option Uuid} :
    Traces Q (setLevel productId providerId onHand allocationPriority routingGroup) := by
  refine Keeps.bind (traces_raiseIf fun failure hf => admits (isOrdinary_violation failure hf)) fun _ =>
    Keeps.bind traces_readDatabase fun database => ?_
  split
  · refine Keeps.bind (traces_raiseIf ?_) fun _ => Keeps.bind (traces_writeDatabase _) fun _ => Keeps.pure _
    intro failure hf items hi
    rw [hi] at hf
    unfold Database.offerReferences at hf
    repeat' split at hf
    all_goals cases hf
  · refine Keeps.bind (traces_updateOffer _ _ _) fun assigned =>
      Keeps.bind traces_readDatabase fun current => ?_
    split
    · exact Keeps.throw (noVerdict_of rfl)
    · exact Keeps.pure _
    · exact Keeps.ite (fun _ => Keeps.throw (noVerdict_of rfl)) fun _ => Keeps.pure _

theorem traces_removeLevel {Q : Database × Exchange → Prop} :
    Traces Q (removeLevel productId providerId) := by
  refine Keeps.bind traces_readDatabase fun database => ?_
  split
  · exact Keeps.bind (traces_writeDatabase _) fun _ => Keeps.pure _
  · split
    · exact Keeps.pure _
    · exact Keeps.throw (noVerdict_of rfl)

end Levels

/-! ## Creating -/

section Creating
variable {sha256 : String → String} {environment : Environment} {userId : Uuid}
  {items : List ReservationItem} {idempotencyKey : String} {s t : Session}

/-- What a create asks to be stored. -/
def creationDraft (sha256 : String → String) (environment : Environment) (userId : Uuid)
    (items : List ReservationItem) (idempotencyKey : String) : ReservationDraft where
  reservationId := environment.reservationId
  userId
  items
  idempotencyKey
  requestFingerprint := reservationRequestFingerprint sha256 items
  now := environment.now
  ttl := environment.ttl

/-- A returning create answered from the stored reservation or stored a new one. -/
theorem createTransaction_ok {reservation : Reservation} {held : Bool} (hwf : s.database.WellFormed)
    (hs : s.exchanges = [])
    (h : ReservationService.createTransaction sha256 environment userId items idempotencyKey s =
      .ok (reservation, held) t) :
    (∃ model existing, s.database.findByIdempotencyKey userId idempotencyKey = some model ∧
      s.database.toDomain model = .ok existing ∧
      resolveIdempotentRetry existing idempotencyKey (reservationRequestFingerprint sha256 items) =
        .ok reservation ∧ held = true ∧ t = s) ∨
    (s.database.findByIdempotencyKey userId idempotencyKey = none ∧
      Reservation.start (creationDraft sha256 environment userId items idempotencyKey) = .ok reservation ∧
      Creation environment reservation held s t) := by
  rw [ReservationService.createTransaction] at h
  obtain ⟨existing, v, hv, h⟩ := bind_ok_iff.mp h
  rw [getByIdempotencyKey, readDatabase_bind] at hv
  cases hf : s.database.findByIdempotencyKey userId idempotencyKey with
  | none =>
    rw [hf] at hv
    obtain ⟨rfl, rfl⟩ := pure_ok_iff.mp hv
    obtain ⟨started, hstart, h⟩ := ofExcept_bind_ok_iff.mp h
    obtain ⟨inventoryHeld, w, hw, h⟩ := bind_ok_iff.mp h
    obtain ⟨⟨⟩, rfl⟩ := pure_ok_iff.mp h
    exact Or.inr ⟨rfl, hstart, addWithHold_ok hwf hs hw⟩
  | some model =>
    rw [hf, toDomain, readDatabase_bind] at hv
    obtain ⟨loaded, hloaded, hv⟩ := ofExcept_bind_ok_iff.mp hv
    obtain ⟨rfl, rfl⟩ := pure_ok_iff.mp hv
    obtain ⟨resolved, hresolved, h⟩ := ofExcept_bind_ok_iff.mp h
    obtain ⟨⟨⟩, rfl⟩ := pure_ok_iff.mp h
    exact Or.inl ⟨model, loaded, rfl, hloaded, hresolved, rfl, rfl⟩

theorem noVerdict_start {draft : ReservationDraft} {failure : Failure}
    (h : Reservation.start draft = .error failure) : NoVerdict failure := by
  unfold Reservation.start at h
  split at h
  · cases h
    exact noVerdict_of rfl
  · exact admits (isOrdinary_construct h)

theorem Reservation.start_id {draft : ReservationDraft} {reservation : Reservation}
    (h : Reservation.start draft = .ok reservation) : reservation.id = draft.reservationId := by
  unfold Reservation.start Reservation.construct at h
  repeat' split at h
  all_goals cases h
  rfl

theorem Reservation.start_items {draft : ReservationDraft} {reservation : Reservation}
    (h : Reservation.start draft = .ok reservation) : reservation.items = draft.items := by
  unfold Reservation.start Reservation.construct at h
  repeat' split at h
  all_goals cases h
  rfl

/-- A create that raises its verdict had found a reservation stored under its key. -/
theorem createTransaction_stops (hwf : s.database.WellFormed) (hs : s.exchanges = []) :
    Stops (Traced fun entry => s.database.findByIdempotencyKey userId idempotencyKey = none ∧
        Opens environment environment.reservationId items s.database entry)
      (fun failure => NoVerdict failure ∨
        ∃ model existing, s.database.findByIdempotencyKey userId idempotencyKey = some model ∧
          s.database.toDomain model = .ok existing ∧
          resolveIdempotentRetry existing idempotencyKey (reservationRequestFingerprint sha256 items) =
            .error failure)
      (ReservationService.createTransaction sha256 environment userId items idempotencyKey s) := by
  rw [ReservationService.createTransaction]
  refine Stops.bind ((traces_getByIdempotencyKey userId idempotencyKey s (traced_nil hs)).mono
    (fun _ => id) fun _ => Or.inl) fun existing v hv => ?_
  rw [getByIdempotencyKey, readDatabase_bind] at hv
  cases hf : s.database.findByIdempotencyKey userId idempotencyKey with
  | none =>
    rw [hf] at hv
    obtain ⟨rfl, rfl⟩ := pure_ok_iff.mp hv
    dsimp only
    refine Stops.mono (E := NoVerdict) ?_ (fun _ => id) fun _ => Or.inl
    refine Stops.bind (traces_ofExcept (fun _ => noVerdict_start) s (traced_nil hs))
      fun reservation w hw => ?_
    obtain ⟨hstart, rfl⟩ := ofExcept_ok_iff.mp hw
    refine Stops.bind_keeps ?_ fun _ => Keeps.pure _
    have hstops := addWithHold_stops environment reservation hwf hs
    rw [Reservation.start_id hstart, Reservation.start_items hstart] at hstops
    exact hstops.mono (fun _ htraced entry he => ⟨rfl, htraced entry he⟩) fun _ => id
  | some model =>
    rw [hf, toDomain, readDatabase_bind] at hv
    obtain ⟨loaded, hloaded, hv⟩ := ofExcept_bind_ok_iff.mp hv
    obtain ⟨rfl, rfl⟩ := pure_ok_iff.mp hv
    dsimp only
    refine Stops.bind ?_ fun reservation w hw => ?_
    · cases hr : resolveIdempotentRetry loaded idempotencyKey
          (reservationRequestFingerprint sha256 items) with
      | ok reservation => exact traced_nil hs
      | error failure => exact ⟨traced_nil hs, Or.inr ⟨model, loaded, rfl, hloaded, hr⟩⟩
    · obtain ⟨-, rfl⟩ := ofExcept_ok_iff.mp hw
      exact traced_nil hs

end Creating

/-! ## Transactions -/

theorem databaseTransaction_traced {α : Type} {body : TransactionM α} {database : Database}
    {Q : Database × Exchange → Prop} {E : Failure → Prop}
    (h : Stops (Traced Q) E (body (.start database))) :
    ∀ entry ∈ (databaseTransaction body database).exchanges, Q entry := by
  rcases databaseTransaction_cases body database with ⟨result, t, hr, he⟩ | ⟨failure, t, hr, he⟩
  · rw [he]
    exact h.of_ok hr
  · rw [he]
    exact (h.of_error hr).1

/-- A create leaves what its first transaction leaves. -/
theorem ReservationService.create_eq (sha256 : String → String) (environment : Environment) (userId : Uuid)
    (items : List ReservationItem) (idempotencyKey : String) (database : Database) :
    (ReservationService.create sha256 environment userId items idempotencyKey database).database =
        (databaseTransaction (ReservationService.createTransaction sha256 environment userId items
          idempotencyKey) database).database ∧
      (ReservationService.create sha256 environment userId items idempotencyKey database).exchanges =
        (databaseTransaction (ReservationService.createTransaction sha256 environment userId items
          idempotencyKey) database).exchanges := by
  unfold ReservationService.create
  dsimp only
  split <;> exact ⟨rfl, rfl⟩

/-! ## Steps -/

namespace System
variable (sha256 : String → String)

/-- What one step did to the reservation `r`. -/
inductive Change (event : Event) (database : Database) (r : Uuid) :
    Option Aggregate → Option Aggregate → Prop
  | kept (aggregate : Option Aggregate) : Change event database r aggregate aggregate
  | created (userId : Uuid) (items : List ReservationItem) (idempotencyKey : String)
      (reservation : Reservation) (held : Bool) (after : Aggregate)
      (hrequest : event.request = .create userId items idempotencyKey)
      (hstart : Reservation.start (creationDraft sha256 event.environment userId items idempotencyKey) =
        .ok reservation)
      (hid : reservation.id = r)
      (h : Aggregate.Created event.environment reservation
        ((execute sha256 event database).exchanges.map Prod.snd) held after) :
      Change event database r none (some after)
  | walked (walk : Walk) (before after : Aggregate) (hwalk : walk ∈ event.walks database)
      (hreservation : before.reservation = walk.reservation) (hid : walk.reservation.id = r)
      (h : walk.pass.Applies event.environment before after)
      (hanswered : ∀ view ∈ before.allocations,
        walk.pass.Answered event.environment (execute sha256 event database).exchanges view) :
      Change event database r (some before) (some after)

/-- Every walk of the event draws units only where they are held. -/
def DrawsHeld (event : Event) (database : Database) : Prop :=
  ∀ walk ∈ event.walks database, ∀ before ∈ database.aggregate? walk.reservation.id,
    walk.pass.DrawsHeld before

/-- What one step did. -/
structure Transition (event : Event) (s t : Database) : Prop where
  wellFormed : t.WellFormed
  changes : ∀ r, Change sha256 event s r (s.aggregate? r) (t.aggregate? r)
  conserves : DrawsHeld event s → Conserves s t

variable {sha256} {event : Event} {database : Database}

theorem Transition.refl (hwf : database.WellFormed) : Transition sha256 event database database where
  wellFormed := hwf
  changes _ := .kept _
  conserves _ := .refl _

theorem Transition.of_walked {t : Session}
    (h : Walked event.environment (event.walks database) (.start database) t)
    (hexchanges : (execute sha256 event database).exchanges = t.exchanges) :
    Transition sha256 event database t.database where
  wellFormed := h.wellFormed
  changes r := by
    by_cases hr : ∃ walk ∈ event.walks database, walk.reservation.id = r
    · obtain ⟨walk, hw, hid⟩ := hr
      obtain ⟨before, after, hb, ha, happlies, hanswered⟩ := h.applied walk hw
      have hstored : database.reservations.find? walk.reservation.id = some before.reservation :=
        (Database.aggregate?_eq_some_iff.mp hb).1
      rw [(event.occasion hw).2] at hstored
      change database.aggregate? walk.reservation.id = _ at hb
      rw [hid] at hb ha
      rw [hb, ha]
      refine .walked walk before after hw (Option.some.inj hstored).symm hid happlies ?_
      rw [hexchanges]
      exact hanswered
    · have hkept : t.database.aggregate? r = database.aggregate? r :=
        h.others r fun walk hw hid => hr ⟨walk, hw, hid⟩
      rw [hkept]
      exact .kept _
  conserves := h.conserves

theorem transition_of_transaction {α : Type} {body : TransactionM α} (hwf : database.WellFormed)
    (hmakes : MakesWalks event.environment (event.walks database) body (.start database))
    (hdatabase : (execute sha256 event database).database = (databaseTransaction body database).database)
    (hexchanges : (execute sha256 event database).exchanges =
      (databaseTransaction body database).exchanges) :
    Transition sha256 event database (step sha256 database event) := by
  unfold step
  rcases databaseTransaction_cases body database with ⟨result, t, hr, he⟩ | ⟨failure, t, hr, he⟩
  · rw [he] at hdatabase hexchanges
    rw [hdatabase]
    exact .of_walked (hmakes.walks hwf (event.walkable database) result t hr) hexchanges
  · rw [he] at hdatabase
    rw [hdatabase]
    exact .refl hwf

/-- A change of stock levels. -/
theorem Transition.of_holdEffect {t : Session} (hwf : database.WellFormed)
    (h : HoldEffect 0 (.start database) t) : Transition sha256 event database t.database := by
  have htables : t.database = { database with offers := t.database.offers } := h.tables
  have hreserved : ∀ k, t.database.reservedAt k = database.reservedAt k := fun k =>
    (h.reserved k).trans (add_zero _)
  have hheld : ∀ k, t.database.heldAt k = database.heldAt k := by
    intro k
    rw [htables]
    rfl
  refine ⟨?_, ?_, fun _ => ⟨h.providers, fun k _ _ _ => ?_, fun k _ _ _ => hreserved k⟩⟩
  · exact hwf.of_tables (by rw [htables]) (by rw [htables]) (by rw [htables]) (by rw [htables])
      (by rw [htables]) (by rw [htables])
  · intro r
    have hkept : t.database.aggregate? r = database.aggregate? r := by
      rw [htables]
      rfl
    rw [hkept]
    exact .kept _
  · rw [hheld, hreserved, sub_self, sub_self]

theorem transition_of_level {α : Type} {body : TransactionM α} (hwf : database.WellFormed)
    (hbody : ∀ result t, body (.start database) = .ok result t → HoldEffect 0 (.start database) t)
    (hdatabase : (execute sha256 event database).database = (databaseTransaction body database).database) :
    Transition sha256 event database (step sha256 database event) := by
  unfold step
  rcases databaseTransaction_cases body database with ⟨result, t, hr, he⟩ | ⟨failure, t, hr, he⟩
  · rw [he] at hdatabase
    rw [hdatabase]
    exact .of_holdEffect hwf (hbody result t hr)
  · rw [he] at hdatabase
    rw [hdatabase]
    exact .refl hwf

theorem transition_of_create {userId : Uuid} {items : List ReservationItem} {idempotencyKey : String}
    (hwf : database.WellFormed) (hrequest : event.request = .create userId items idempotencyKey) :
    Transition sha256 event database (step sha256 database event) := by
  obtain ⟨environment, request⟩ := event
  cases hrequest
  obtain ⟨hdatabase, hexchanges⟩ :=
    ReservationService.create_eq sha256 environment userId items idempotencyKey database
  have hdatabase : step sha256 database ⟨environment, .create userId items idempotencyKey⟩ = _ := hdatabase
  have hexchanges : (execute sha256 ⟨environment, .create userId items idempotencyKey⟩ database).exchanges =
    _ := hexchanges
  rcases databaseTransaction_cases (ReservationService.createTransaction sha256 environment userId items
      idempotencyKey) database with ⟨⟨reservation, held⟩, t, hr, he⟩ | ⟨failure, t, hr, he⟩
  · rw [he] at hdatabase hexchanges
    rw [hdatabase]
    rcases createTransaction_ok (s := .start database) hwf rfl hr with
      ⟨model, existing, -, -, -, -, rfl⟩ | ⟨-, hstart, hcreation⟩
    · exact .refl hwf
    · obtain ⟨after, hafter, hcreated⟩ := hcreation.aggregate
      refine ⟨hcreation.wellFormed, ?_, fun _ => hcreation.conserves⟩
      intro r
      by_cases hid : reservation.id = r
      · have hnone : database.aggregate? r = none := by
          have hfree : database.reservations.find? reservation.id = none := hcreation.free
          rw [← hid, Database.aggregate?, hfree]
          rfl
        rw [hnone, ← hid, hafter]
        refine .created userId items idempotencyKey reservation held after rfl hstart rfl ?_
        rw [hexchanges]
        exact hcreated
      · have hkept : t.database.aggregate? r = database.aggregate? r :=
          hcreation.others r (Ne.symm hid)
        rw [hkept]
        exact .kept _
  · rw [he] at hdatabase
    rw [hdatabase]
    exact .refl hwf

/-- Every step is a transition. -/
theorem transition (hwf : database.WellFormed) (hbooked : database.Booked) :
    Transition sha256 event database (step sha256 database event) := by
  obtain ⟨environment, request⟩ := event
  cases request with
  | create userId items idempotencyKey => exact transition_of_create hwf rfl
  | confirm reservationId userId =>
    exact transition_of_transaction hwf (confirm_makes (s := .start database) hbooked) rfl rfl
  | cancel reservationId userId =>
    exact transition_of_transaction hwf (cancel_makes (s := .start database)) rfl rfl
  | expireBatch limit =>
    exact transition_of_transaction hwf (expireBatch_makes (s := .start database)) rfl rfl
  | reconcileBatch limit maxAttempts retryBaseDelay =>
    exact transition_of_transaction hwf (reconcileBatch_makes (s := .start database)) rfl rfl
  | setLevel productId providerId onHand allocationPriority routingGroup =>
    exact transition_of_level hwf (fun _ _ h => (setLevel_ok h).1) rfl
  | removeLevel productId providerId =>
    exact transition_of_level hwf (fun _ _ h => (removeLevel_ok h).1) rfl

/-- The provider calls of a step, committed or not: requests of its walks, and those of a create that
found nothing stored under its key. -/
theorem execute_traced (hwf : database.WellFormed) :
    ∀ entry ∈ (execute sha256 event database).exchanges,
      SentBy event.environment (event.walks database) database entry ∨
        ∃ userId items idempotencyKey, event.request = .create userId items idempotencyKey ∧
          database.findByIdempotencyKey userId idempotencyKey = none ∧
          Opens event.environment event.environment.reservationId items database entry := by
  obtain ⟨environment, request⟩ := event
  cases request with
  | create userId items idempotencyKey =>
    obtain ⟨-, hexchanges⟩ :=
      ReservationService.create_eq sha256 environment userId items idempotencyKey database
    have hexchanges :
        (execute sha256 ⟨environment, .create userId items idempotencyKey⟩ database).exchanges = _ :=
      hexchanges
    intro entry he
    rw [hexchanges] at he
    exact Or.inr ⟨userId, items, idempotencyKey, rfl,
      databaseTransaction_traced (createTransaction_stops (s := .start database) hwf rfl) entry he⟩
  | confirm reservationId userId =>
    exact fun entry he => Or.inl
      (databaseTransaction_traced (confirm_stops (s := .start database) rfl) entry he)
  | cancel reservationId userId =>
    exact fun entry he => Or.inl
      (databaseTransaction_traced (cancel_stops (s := .start database) rfl) entry he)
  | expireBatch limit =>
    exact fun entry he => Or.inl
      (databaseTransaction_traced (expireBatch_stops (s := .start database) hwf rfl) entry he)
  | reconcileBatch limit maxAttempts retryBaseDelay =>
    exact fun entry he => Or.inl
      (databaseTransaction_traced (reconcileBatch_stops (E := NoVerdict) (s := .start database) hwf rfl
        fun _ => noVerdict_of rfl) entry he)
  | setLevel productId providerId onHand allocationPriority routingGroup =>
    exact fun entry he => absurd
      (databaseTransaction_traced (Q := fun _ => False) (traces_setLevel (.start database)
        (traced_nil rfl)) entry he) id
  | removeLevel productId providerId =>
    exact fun entry he => absurd
      (databaseTransaction_traced (Q := fun _ => False) (traces_removeLevel (.start database)
        (traced_nil rfl)) entry he) id

end System
end InventoryReservation
