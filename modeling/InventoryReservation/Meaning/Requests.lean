import InventoryReservation.Meaning.Walks

/-! # The walks of each request

`Event.walks` reads off the database which reservations a request walks over and how. The bodies of
the requests are these walks, and whatever comes after them only reads.
-/

namespace InventoryReservation
set_option autoImplicit false

open Relational Transactional

/-! ## Which walks -/

def Database.confirmWalks (database : Database) (reservationId userId : Uuid) : List Walk :=
  match database.findOwned reservationId userId with
  | none => []
  | some reservation =>
    if reservation.status = .confirmed ∨ reservation.status = .cancelled then []
    else [⟨reservation, .confirm (.request reservation.id)⟩]

def Database.cancelWalks (database : Database) (reservationId userId : Uuid) : List Walk :=
  match database.findOwned reservationId userId with
  | none => []
  | some reservation =>
    if reservation.status = .cancelled ∨ reservation.status = .confirmed ∨
        reservation.status = .confirming then []
    else [⟨reservation, .release (.request reservation.id) .cancelled⟩]

def ReservationModel.expireWalk (reservation : ReservationModel) : Walk :=
  ⟨reservation, .release (.request reservation.id) .expired⟩

def ReservationModel.reconcileWalk (environment : Environment) (maxAttempts : ℕ)
    (retryBaseDelay : Duration) (reservation : ReservationModel) : Option Walk :=
  let context := ProviderOperationContext.retry reservation.id environment.now maxAttempts retryBaseDelay
  if reservation.status = .releasing then
    reservation.releaseTargetStatus.map fun terminalStatus =>
      ⟨reservation, .release context terminalStatus⟩
  else if reservation.status = .confirming then some ⟨reservation, .confirm context⟩
  else none

/-- The walks of a request over the reservations already stored. -/
def Event.walks (event : Event) (database : Database) : List Walk :=
  match event.request with
  | .create _ _ _ => []
  | .confirm reservationId userId => database.confirmWalks reservationId userId
  | .cancel reservationId userId => database.cancelWalks reservationId userId
  | .expireBatch limit =>
    (database.expiredBatch event.environment limit).map ReservationModel.expireWalk
  | .reconcileBatch limit maxAttempts retryBaseDelay =>
    (database.reconcilableBatch event.environment limit maxAttempts).filterMap
      (ReservationModel.reconcileWalk event.environment maxAttempts retryBaseDelay)
  | .setLevel _ _ _ _ _ => []
  | .removeLevel _ _ => []

/-- The request of the reconciliation worker. -/
abbrev Event.reconciling (environment : Environment) (limit maxAttempts : ℕ) (retryBaseDelay : Duration) :
    Event :=
  ⟨environment, .reconcileBatch limit maxAttempts retryBaseDelay⟩

/-- Why a request walks over a reservation. -/
inductive Occasion (event : Event) (database : Database) : Walk → Prop
  | confirm (reservation : ReservationModel)
      (hrequest : event.request = .confirm reservation.id reservation.userId)
      (hconfirmed : reservation.status ≠ .confirmed) (hcancelled : reservation.status ≠ .cancelled) :
      Occasion event database ⟨reservation, .confirm (.request reservation.id)⟩
  | cancel (reservation : ReservationModel)
      (hrequest : event.request = .cancel reservation.id reservation.userId)
      (hcancelled : reservation.status ≠ .cancelled) (hconfirmed : reservation.status ≠ .confirmed)
      (hconfirming : reservation.status ≠ .confirming) :
      Occasion event database ⟨reservation, .release (.request reservation.id) .cancelled⟩
  | expire (reservation : ReservationModel) (limit : ℕ) (hrequest : event.request = .expireBatch limit)
      (hpending : reservation.status = .pending) :
      Occasion event database ⟨reservation, .release (.request reservation.id) .expired⟩
  | resumeRelease (reservation : ReservationModel) (limit maxAttempts : ℕ) (retryBaseDelay : Duration)
      (terminalStatus : ReservationStatusModel)
      (hrequest : event.request = .reconcileBatch limit maxAttempts retryBaseDelay)
      (hreleasing : reservation.status = .releasing)
      (htarget : reservation.releaseTargetStatus = some terminalStatus)
      (hterminal : terminalStatus ∈ [.cancelled, .expired, .failed]) :
      Occasion event database ⟨reservation, .release (.retry reservation.id event.environment.now
        maxAttempts retryBaseDelay) terminalStatus⟩
  | resumeConfirm (reservation : ReservationModel) (limit maxAttempts : ℕ) (retryBaseDelay : Duration)
      (hrequest : event.request = .reconcileBatch limit maxAttempts retryBaseDelay)
      (hconfirming : reservation.status = .confirming) :
      Occasion event database ⟨reservation, .confirm (.retry reservation.id event.environment.now
        maxAttempts retryBaseDelay)⟩

theorem Database.findOwned_eq_some {database : Database} {reservationId userId : Uuid}
    {reservation : ReservationModel} (h : database.findOwned reservationId userId = some reservation) :
    database.reservations.find? reservationId = some reservation ∧ reservation.id = reservationId ∧
      reservation.userId = userId := by
  obtain ⟨hf, hu⟩ := Option.filter_eq_some_iff.mp h
  exact ⟨hf, Table.key_of_find? hf, of_decide_eq_true hu⟩

theorem Database.findOwned_self {database : Database} {reservation : ReservationModel}
    (h : database.reservations.find? reservation.id = some reservation) :
    database.findOwned reservation.id reservation.userId = some reservation :=
  Option.filter_eq_some_iff.mpr ⟨h, decide_eq_true rfl⟩

theorem Database.mem_lockBatch {database : Database} {environment : Environment} {limit : ℕ}
    {condition : ReservationModel → Bool} {sortKey : ReservationModel → Instant}
    {reservation : ReservationModel}
    (h : reservation ∈ database.lockBatch environment limit condition sortKey) :
    database.reservations.find? reservation.id = some reservation ∧ condition reservation = true := by
  have hmem := (List.perm_insertionSort _ _).mem_iff.mp (List.mem_of_mem_take h)
  obtain ⟨hr, hc⟩ := List.mem_filter.mp hmem
  exact ⟨Table.find?_of_mem hr, (Bool.and_eq_true _ _ ▸ hc).1⟩

theorem Database.lockBatch_nodup (database : Database) (environment : Environment) (limit : ℕ)
    (condition : ReservationModel → Bool) (sortKey : ReservationModel → Instant) :
    ((database.lockBatch environment limit condition sortKey).map ReservationModel.id).Nodup := by
  unfold lockBatch
  refine ((List.take_sublist _ _).map _).nodup (((List.perm_insertionSort _ _).map _).nodup_iff.mpr ?_)
  exact (List.filter_sublist.map _).nodup database.reservations.nodup

/-- The allocations of the reservation are to be confirmed or released. -/
def ReservationModel.isLive (reservation : ReservationModel) : Bool :=
  reservation.status ∈ [.pending, .confirming, .releasing]

/-- The kind of operation that reconciling a reservation is about. -/
def ReservationModel.pursues (reservation : ReservationModel) : SettlementKind :=
  if reservation.status = .releasing then .release else .confirm

section Reconciling
variable {environment : Environment} {maxAttempts : ℕ} {retryBaseDelay : Duration}
  {reservation : ReservationModel} {walk : Walk}

theorem ReservationModel.reconcileWalk_ok
    (h : reservation.reconcileWalk environment maxAttempts retryBaseDelay = some walk) :
    walk.reservation = reservation ∧ walk.pass.kind = reservation.pursues ∧
      walk.pass.context = .retry reservation.id environment.now maxAttempts retryBaseDelay := by
  unfold reconcileWalk at h
  unfold pursues
  dsimp only at h
  split at h
  · next hreleasing =>
    obtain ⟨terminalStatus, -, rfl⟩ := Option.map_eq_some_iff.mp h
    rw [if_pos hreleasing]
    exact ⟨rfl, rfl, rfl⟩
  · next hreleasing =>
    obtain ⟨-, ⟨⟩⟩ := Option.ite_none_right_eq_some.mp h
    rw [if_neg hreleasing]
    exact ⟨rfl, rfl, rfl⟩

theorem ReservationModel.reconcileWalk_reservation
    (h : reservation.reconcileWalk environment maxAttempts retryBaseDelay = some walk) :
    walk.reservation = reservation := (reconcileWalk_ok h).1

theorem ReservationModel.reconcileWalk_isSome (environment : Environment) (maxAttempts : ℕ)
    (retryBaseDelay : Duration) (h : reservation.isInFlight) :
    (reservation.reconcileWalk environment maxAttempts retryBaseDelay).isSome := by
  unfold reconcileWalk
  dsimp only
  rcases of_decide_eq_true h with ⟨hreleasing, htarget⟩ | hconfirming
  · rw [if_pos hreleasing, Option.isSome_map]
    cases ht : reservation.releaseTargetStatus with
    | some terminalStatus => rfl
    | none =>
      rw [ht] at htarget
      exact absurd htarget (by decide)
  · have hreleasing : reservation.status ≠ .releasing := by
      rw [hconfirming]
      decide
    rw [if_neg hreleasing, if_pos hconfirming]
    rfl

/-- The walks of a reconciliation are those over the reservations of its batch. -/
theorem Database.mem_reconcileWalks {database : Database} {limit : ℕ} :
    walk ∈ (database.reconcilableBatch environment limit maxAttempts).filterMap
        (ReservationModel.reconcileWalk environment maxAttempts retryBaseDelay) →
      walk.reservation ∈ database.reconcilableBatch environment limit maxAttempts ∧
        walk.pass.kind = walk.reservation.pursues ∧
        walk.pass.context = .retry walk.reservation.id environment.now maxAttempts retryBaseDelay := by
  intro h
  obtain ⟨reservation, hr, hw⟩ := List.mem_filterMap.mp h
  obtain ⟨rfl, hkind, hcontext⟩ := ReservationModel.reconcileWalk_ok hw
  exact ⟨hr, hkind, hcontext⟩

/-- Every reservation of the batch is walked over. -/
theorem Database.exists_reconcileWalk {database : Database} {limit : ℕ} (retryBaseDelay : Duration)
    (h : reservation ∈ database.reconcilableBatch environment limit maxAttempts) :
    ∃ walk ∈ (database.reconcilableBatch environment limit maxAttempts).filterMap
        (ReservationModel.reconcileWalk environment maxAttempts retryBaseDelay),
      walk.reservation = reservation := by
  obtain ⟨-, hc⟩ := Database.mem_lockBatch h
  have hflight : reservation.isInFlight := (Bool.and_eq_true _ _ ▸ hc).1
  obtain ⟨walk, hw⟩ := Option.isSome_iff_exists.mp
    (ReservationModel.reconcileWalk_isSome environment maxAttempts retryBaseDelay hflight)
  exact ⟨walk, List.mem_filterMap.mpr ⟨reservation, h, hw⟩, ReservationModel.reconcileWalk_reservation hw⟩

end Reconciling

/-- Every walk has its occasion and starts from the row that is stored. -/
theorem Event.occasion {event : Event} {database : Database} {walk : Walk}
    (h : walk ∈ event.walks database) :
    Occasion event database walk ∧
      database.reservations.find? walk.reservation.id = some walk.reservation := by
  obtain ⟨environment, request⟩ := event
  cases request with
  | create userId items idempotencyKey => exact absurd h List.not_mem_nil
  | setLevel productId providerId onHand allocationPriority routingGroup =>
    exact absurd h List.not_mem_nil
  | removeLevel productId providerId => exact absurd h List.not_mem_nil
  | confirm reservationId userId =>
    simp only [walks, Database.confirmWalks] at h
    cases ho : database.findOwned reservationId userId with
    | none =>
      rw [ho] at h
      exact absurd h List.not_mem_nil
    | some reservation =>
      obtain ⟨hf, rfl, rfl⟩ := Database.findOwned_eq_some ho
      simp only [ho] at h
      split at h
      · exact absurd h List.not_mem_nil
      · next hn =>
        rw [not_or] at hn
        rw [List.mem_singleton.mp h]
        exact ⟨.confirm reservation rfl hn.1 hn.2, hf⟩
  | cancel reservationId userId =>
    simp only [walks, Database.cancelWalks] at h
    cases ho : database.findOwned reservationId userId with
    | none =>
      rw [ho] at h
      exact absurd h List.not_mem_nil
    | some reservation =>
      obtain ⟨hf, rfl, rfl⟩ := Database.findOwned_eq_some ho
      simp only [ho] at h
      split at h
      · exact absurd h List.not_mem_nil
      · next hn =>
        rw [not_or, not_or] at hn
        rw [List.mem_singleton.mp h]
        exact ⟨.cancel reservation rfl hn.1 hn.2.1 hn.2.2, hf⟩
  | expireBatch limit =>
    obtain ⟨reservation, hr, rfl⟩ := List.mem_map.mp h
    obtain ⟨hf, hc⟩ := Database.mem_lockBatch hr
    exact ⟨.expire reservation limit rfl (of_decide_eq_true hc).1, hf⟩
  | reconcileBatch limit maxAttempts retryBaseDelay =>
    obtain ⟨reservation, hr, hw⟩ := List.mem_filterMap.mp h
    obtain ⟨hf, hc⟩ := Database.mem_lockBatch hr
    rw [ReservationModel.reconcileWalk_reservation hw]
    refine ⟨?_, hf⟩
    unfold ReservationModel.reconcileWalk at hw
    dsimp only at hw
    split at hw
    · next hreleasing =>
      obtain ⟨terminalStatus, ht, rfl⟩ := Option.map_eq_some_iff.mp hw
      refine .resumeRelease reservation limit maxAttempts retryBaseDelay terminalStatus rfl hreleasing ht ?_
      have hflight := of_decide_eq_true (Bool.and_eq_true _ _ ▸ hc).1
      rcases hflight with ⟨-, hmem⟩ | hconfirming
      · rw [ht] at hmem
        simpa using hmem
      · rw [hreleasing] at hconfirming
        cases hconfirming
    · obtain ⟨hconfirming, ⟨⟩⟩ := Option.ite_none_right_eq_some.mp hw
      exact .resumeConfirm reservation limit maxAttempts retryBaseDelay rfl hconfirming

theorem Event.walk_context {event : Event} {database : Database} {walk : Walk}
    (h : walk ∈ event.walks database) :
    walk.pass.context.reservationId = walk.reservation.id := by
  cases (event.occasion h).1 <;> rfl

/-- A releasing walk ends in one of three statuses. -/
theorem Event.terminal {event : Event} {database : Database} {reservation : ReservationModel}
    {context : ProviderOperationContext} {terminalStatus : ReservationStatusModel}
    (h : ⟨reservation, .release context terminalStatus⟩ ∈ event.walks database) :
    terminalStatus ∈ [.cancelled, .expired, .failed] := by
  cases (event.occasion h).1 with
  | cancel => decide
  | expire => decide
  | resumeRelease _ _ _ _ _ _ _ _ hterminal => exact hterminal

theorem Event.walkable (event : Event) (database : Database) : Walkable database (event.walks database) where
  distinct := by
    obtain ⟨environment, request⟩ := event
    cases request with
    | create userId items idempotencyKey => exact List.nodup_nil
    | setLevel productId providerId onHand allocationPriority routingGroup => exact List.nodup_nil
    | removeLevel productId providerId => exact List.nodup_nil
    | confirm reservationId userId =>
      simp only [walks, Database.confirmWalks]
      repeat' split
      · exact List.nodup_nil
      · exact List.nodup_nil
      · exact List.nodup_singleton _
    | cancel reservationId userId =>
      simp only [walks, Database.cancelWalks]
      repeat' split
      · exact List.nodup_nil
      · exact List.nodup_nil
      · exact List.nodup_singleton _
    | expireBatch limit =>
      simp only [walks, List.map_map]
      exact database.lockBatch_nodup environment limit _ _
    | reconcileBatch limit maxAttempts retryBaseDelay =>
      refine Table.nodup_filterMap ?_ (database.lockBatch_nodup environment limit _ _)
      intro reservation walk hw
      rw [ReservationModel.reconcileWalk_reservation hw]
  context _ hw := event.walk_context hw
  stored _ hw := Option.isSome_iff_exists.mpr ⟨_, (event.occasion hw).2⟩

end InventoryReservation
