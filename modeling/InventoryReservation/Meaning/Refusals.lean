import InventoryReservation.Meaning.Transition

/-! # What transactions do not raise

A few errors are answered with a reason. They are raised by the checks a request begins with and by the
verdict of a create; nothing that runs after the checks raises one (`Plain`).
-/

namespace InventoryReservation
set_option autoImplicit false

open Relational Transactional

/-- The errors that have a handler. -/
def Failure.isHandled : Failure → Bool
  | idempotencyConflict _ _ => true
  | reservationNotCancellable _ => true
  | reservationNotConfirmable _ => true
  | reservationReconciliationRequired _ => true
  | insufficientInventory _ => true
  | inventoryBelowReserved _ _ _ => true
  | inventoryHasActiveReservations _ _ _ => true
  | _ => false

/-- No run raises an error that has a handler. -/
abbrev Plain {α : Type} (x : TransactionM α) : Prop :=
  Keeps (fun _ => True) (fun failure => failure.isHandled = false) x

theorem Plain.isHandled {α : Type} {x : TransactionM α} (hx : Plain x) {s t : Session} {failure : Failure}
    (h : x s = .error failure t) : failure.isHandled = false :=
  ((hx s trivial).of_error h).2

/-! ## Reading and writing -/

section Primitives
variable {α : Type}

theorem plain_readDatabase : Plain readDatabase := fun _ _ => trivial

theorem plain_writeDatabase (database : Database) : Plain (writeDatabase database) := fun _ _ => trivial

theorem plain_newId (environment : Environment) : Plain (newId environment) := fun _ _ => trivial

theorem plain_recordExchange (exchange : Exchange) : Plain (recordExchange exchange) := fun _ _ => trivial

theorem plain_raiseIf {violation : Option Failure} (h : ∀ failure ∈ violation, failure.isHandled = false) :
    Plain (raiseIf violation) := by
  cases violation with
  | none => exact Keeps.pure ()
  | some failure => exact Keeps.throw (h failure rfl)

theorem plain_ofExcept {x : Except Failure α} (h : ∀ failure, x = .error failure → failure.isHandled = false) :
    Plain (ofExcept x) := by
  cases x with
  | ok a => exact Keeps.pure a
  | error failure => exact Keeps.throw (h failure rfl)

theorem Plain.reading {body : Database → TransactionM α} (h : ∀ database, Plain (body database)) :
    Plain (readDatabase >>= body) := Keeps.bind plain_readDatabase h

theorem plain_forEach {body : α → TransactionM Unit} (h : ∀ x, Plain (body x)) (xs : List α) :
    Plain (forEach body xs) := by
  induction xs with
  | nil => exact Keeps.pure ()
  | cons x xs ih => exact Keeps.bind (h x) fun _ => ih

theorem plain_writeReservation (environment : Environment) (reservationId : Uuid)
    (assign : ReservationModel → ReservationModel)
    (keeps : ∀ reservation, (assign reservation).id = reservation.id) :
    Plain (writeReservation environment reservationId assign keeps) :=
  Plain.reading fun _ => plain_writeDatabase _

end Primitives

/-! ## Offers and stored reservations -/

theorem offerViolation_isHandled {offer : ProductOfferModel} :
    ∀ failure ∈ offer.violation, failure.isHandled = false := by
  intro failure hf
  unfold ProductOfferModel.violation ProductOfferModel.failedCheck at hf
  repeat' split at hf
  all_goals cases hf
  all_goals rfl

theorem encodingFailure_isHandled {statement : OfferStatement} :
    ∀ failure ∈ statement.encodingFailure, failure.isHandled = false := by
  intro failure hf
  rw [OfferStatement.eq_of_mem_encodingFailure hf]
  rfl

theorem plain_updateOffer (statement : OfferStatement) (productId providerId : Uuid) :
    Plain (updateOffer statement productId providerId) := by
  refine Keeps.bind (plain_raiseIf encodingFailure_isHandled) fun _ => Plain.reading fun database => ?_
  split
  · exact Keeps.pure none
  · exact Keeps.bind (plain_raiseIf offerViolation_isHandled) fun _ =>
      Keeps.bind (plain_writeDatabase _) fun _ => Keeps.pure _

theorem plain_observeAvailability (productId providerId : Uuid) (attempt : ProviderAvailabilityAttempt) :
    Plain (observeAvailability productId providerId attempt) := by
  unfold observeAvailability
  split
  · exact Keeps.bind (plain_updateOffer _ _ _) fun _ => Keeps.pure ()
  · exact Keeps.pure ()

theorem construct_isHandled {id userId : Uuid} {items : List ReservationItem}
    {idempotencyKey requestFingerprint : String} {createdAt expiresAt : Instant} {status : ReservationStatus}
    {releaseTargetStatus : Option ReservationStatus} {failure : Failure}
    (h : Reservation.construct id userId items idempotencyKey requestFingerprint createdAt expiresAt status
      releaseTargetStatus = .error failure) : failure.isHandled = false := by
  unfold Reservation.construct at h
  repeat' split at h
  all_goals cases h
  all_goals rfl

theorem start_isHandled {draft : ReservationDraft} {failure : Failure}
    (h : Reservation.start draft = .error failure) : failure.isHandled = false := by
  unfold Reservation.start at h
  split at h
  · cases h
    rfl
  · exact construct_isHandled h

theorem ReservationStatusModel.toDomain_isHandled {status : ReservationStatusModel} {failure : Failure}
    (h : status.toDomain = .error failure) : failure.isHandled = false := by
  cases status <;> cases h <;> rfl

theorem releaseTargetToDomain_isHandled {target : Option ReservationStatusModel} {failure : Failure}
    (h : releaseTargetToDomain target = .error failure) : failure.isHandled = false := by
  cases target with
  | none => cases h
  | some status =>
    rw [releaseTargetToDomain] at h
    cases hd : status.toDomain with
    | error failure' =>
      rw [hd] at h
      cases h
      exact ReservationStatusModel.toDomain_isHandled hd
    | ok status' =>
      rw [hd] at h
      cases h

theorem toDomain_isHandled {database : Database} {model : ReservationModel} {failure : Failure}
    (h : database.toDomain model = .error failure) : failure.isHandled = false := by
  unfold Database.toDomain at h
  cases hs : model.status.toDomain with
  | error failure' =>
    rw [hs] at h
    cases h
    exact ReservationStatusModel.toDomain_isHandled hs
  | ok status =>
    cases ht : releaseTargetToDomain model.releaseTargetStatus with
    | error failure' =>
      rw [hs, ht] at h
      cases h
      exact releaseTargetToDomain_isHandled ht
    | ok target =>
      rw [hs, ht] at h
      exact construct_isHandled h

theorem plain_toDomain (model : Option ReservationModel) : Plain (toDomain model) := by
  cases model with
  | none => exact Keeps.pure none
  | some model =>
    exact Plain.reading fun _ =>
      Keeps.bind (plain_ofExcept fun _ h => toDomain_isHandled h) fun _ => Keeps.pure _

theorem plain_getReservation (reservationId : Uuid) : Plain (getReservation reservationId) :=
  Plain.reading fun _ => plain_toDomain _

/-! ## Walks -/

namespace Settlement
variable {ω : Type} [DecidableEq ω] {S : Settlement ω}

theorem plain_attempt (environment : Environment) (context : ProviderOperationContext)
    (provider : InventoryProviderModel) (holdReference : String) (operation : ProviderOperationModel) :
    Plain (S.attempt environment context provider holdReference operation) := by
  refine Keeps.bind (plain_recordExchange _) fun _ => ?_
  split
  · exact Keeps.throw rfl
  · refine Keeps.bind (plain_ofExcept fun failure h => ?_) fun _ =>
      Plain.reading fun _ => Keeps.bind (plain_writeDatabase _) fun _ => Keeps.pure _
    rw [(recordOutcome_failure h).2.1]
    rfl

variable (hS : S.failure.isHandled = false)
include hS

theorem plain_settleExternalHold (environment : Environment) (context : ProviderOperationContext)
    (allocation : InventoryAllocationModel) (provider : InventoryProviderModel) :
    Plain (S.settleExternalHold environment context allocation provider) := by
  refine Keeps.ite (fun _ => Keeps.throw hS) fun _ => ?_
  split
  · exact Keeps.throw hS
  · refine Plain.reading fun database => ?_
    split
    · exact Keeps.ite (fun _ => Keeps.pure _) fun _ => Keeps.ite (fun _ => Keeps.pure _) fun _ =>
        Keeps.bind (plain_writeDatabase _) fun _ => plain_attempt _ _ _ _ _
    · dsimp only
      split
      · exact Keeps.throw rfl
      · exact Keeps.bind (plain_writeDatabase _) fun _ => plain_attempt _ _ _ _ _

theorem plain_settleAllocation (environment : Environment) (context : ProviderOperationContext)
    (row : AllocationRow) : Plain (S.settleAllocation environment context row) := by
  refine Keeps.ite (fun _ => Keeps.pure _) fun _ => ?_
  split
  · exact plain_settleExternalHold hS _ _ _ _
  · refine Keeps.bind (plain_updateOffer _ _ _) fun snapshot => ?_
    cases snapshot with
    | none => exact Keeps.throw hS
    | some snapshot => exact Keeps.pure _

theorem plain_settleAllocations (environment : Environment) (context : ProviderOperationContext)
    (rows : List AllocationRow) (flags : PassFlags) :
    Plain (S.settleAllocations environment context rows flags) := by
  induction rows generalizing flags with
  | nil => exact Keeps.pure flags
  | cons row rows ih =>
    exact Keeps.bind (plain_settleAllocation hS environment context row) fun outcome =>
      Keeps.bind (Plain.reading fun _ => plain_writeDatabase _) fun _ => ih (S.note flags outcome)

end Settlement

theorem plain_releaseReservation (environment : Environment) (reservation : ReservationModel)
    (terminalStatus : ReservationStatusModel) (context : Option ProviderOperationContext) :
    Plain (releaseReservation environment reservation terminalStatus context) :=
  Plain.reading fun _ => Keeps.bind (plain_writeReservation _ _ _ _) fun _ =>
    Keeps.bind (Settlement.plain_settleAllocations rfl _ _ _ _) fun _ =>
      Keeps.ite (fun _ => plain_writeReservation _ _ _ _) fun _ => plain_writeReservation _ _ _ _

theorem plain_ensureOrder (environment : Environment) (reservation : ReservationModel) :
    Plain (ensureOrder environment reservation) := by
  refine Plain.reading fun database => ?_
  split
  · exact Keeps.pure ()
  · refine Keeps.bind (plain_newId environment) fun _ => Keeps.bind ?_ fun _ => plain_forEach (fun item => ?_) _
    · refine Plain.reading fun _ => Keeps.ite (fun _ => Keeps.throw rfl) fun _ => ?_
      split
      · exact Keeps.throw rfl
      · exact plain_writeDatabase _
    · refine Plain.reading fun _ => ?_
      split
      · exact Keeps.throw rfl
      · exact plain_writeDatabase _

theorem plain_confirmReservation (environment : Environment) (reservation : ReservationModel)
    (context : ProviderOperationContext) : Plain (confirmReservation environment reservation context) :=
  Plain.reading fun _ => Keeps.bind (Settlement.plain_settleAllocations rfl _ _ _ _) fun _ =>
    Keeps.bind (Keeps.ite (fun _ => plain_writeReservation _ _ _ _) fun _ =>
        Keeps.ite (fun _ => plain_writeReservation _ _ _ _) fun _ =>
          Keeps.bind (plain_writeReservation _ _ _ _) fun _ => plain_ensureOrder _ _) fun _ =>
      plain_getReservation _

/-! ## Holds -/

section Holds
variable {environment : Environment} {candidate : InventoryProviderModel} {provider : HoldProvider TransactionM}

theorem plain_availability (hp : holdProvider environment candidate = some provider)
    (command : AvailabilityCommand) : Plain (provider.availability command) := by
  unfold holdProvider at hp
  split at hp
  · cases hp
    exact Keeps.bind (Plain.reading fun _ => Keeps.pure _) fun _ => Keeps.pure _
  · obtain ⟨-, ⟨⟩⟩ := Option.ite_none_right_eq_some.mp hp
    refine Keeps.bind (plain_recordExchange _) fun _ => ?_
    split
    · exact Keeps.pure _
    · exact Keeps.throw rfl

theorem plain_hold (hp : holdProvider environment candidate = some provider) (command : HoldCommand) :
    Plain (provider.hold command) := by
  unfold holdProvider at hp
  split at hp
  · cases hp
    refine Keeps.bind (plain_updateOffer _ _ _) fun snapshot => ?_
    cases snapshot with
    | none => exact Keeps.pure _
    | some snapshot => exact Keeps.pure _
  · obtain ⟨-, ⟨⟩⟩ := Option.ite_none_right_eq_some.mp hp
    refine Keeps.bind (plain_recordExchange _) fun _ => ?_
    split
    · exact Keeps.pure _
    · exact Keeps.throw rfl

theorem plain_holdAmong {router : ProviderRouter TransactionM} {productId : Uuid}
    (hobserver : router.availabilityObserver = some (observeAvailability productId)) (command : HoldCommand)
    {providers : List (HoldProvider TransactionM)}
    (hadapters : ∀ provider ∈ providers, ∃ candidate : InventoryProviderModel,
      holdProvider environment candidate = some provider) :
    Plain (router.holdAmong command providers) := by
  induction providers with
  | nil => exact Keeps.pure none
  | cons provider rest ih =>
    obtain ⟨candidate, hp⟩ := hadapters provider List.mem_cons_self
    have hrest := ih fun provider' hmem => hadapters provider' (List.mem_cons_of_mem _ hmem)
    refine Keeps.bind ?_ fun skipped => Keeps.ite (fun _ => hrest) fun _ => Keeps.bind (plain_hold hp command)
      fun attempt => ?_
    · refine Keeps.ite (fun _ => ?_) fun _ => Keeps.pure false
      rw [hobserver]
      exact Keeps.bind (plain_availability hp _) fun _ =>
        Keeps.bind (plain_observeAvailability _ _ _) fun _ => Keeps.pure _
    · cases attempt.outcome with
      | held => exact Keeps.pure _
      | unknown => exact Keeps.throw rfl
      | outOfStock => exact hrest
      | temporarilyUnavailable => exact hrest

theorem plain_tryHoldSelected (environment : Environment) (productId providerId : Uuid) (quantity : ℤ)
    (idempotencyKey : ProviderKey) :
    Plain (tryHoldSelected environment productId providerId quantity idempotencyKey) := by
  refine Plain.reading fun database => ?_
  apply plain_holdAmong rfl
  intro provider hmem
  obtain ⟨candidate, -, hp⟩ := exists_candidate hmem
  exact ⟨candidate, hp⟩

end Holds

theorem reservationViolation_isHandled {database : Database} {reservation : ReservationModel} :
    ∀ failure ∈ database.reservationViolation reservation, failure.isHandled = false := by
  intro failure hf
  unfold Database.reservationViolation at hf
  repeat' split at hf
  all_goals cases hf
  all_goals rfl

theorem itemViolation_isHandled {database : Database} {item : ReservationItemModel} :
    ∀ failure ∈ database.itemViolation item, failure.isHandled = false := by
  intro failure hf
  unfold Database.itemViolation at hf
  repeat' split at hf
  all_goals cases hf
  all_goals rfl

theorem allocationViolation_isHandled {database : Database} {allocation : InventoryAllocationModel} :
    ∀ failure ∈ database.allocationViolation allocation, failure.isHandled = false := by
  intro failure hf
  unfold Database.allocationViolation at hf
  repeat' split at hf
  all_goals cases hf
  all_goals rfl

theorem plain_insertItems (environment : Environment) (reservationId : Uuid) (items : List ReservationItem) :
    Plain (insertItems environment reservationId items) := by
  induction items with
  | nil => exact Keeps.pure []
  | cons item items ih =>
    refine Keeps.bind ?_ fun _ => Keeps.bind ih fun _ => Keeps.pure _
    refine Keeps.bind (plain_newId environment) fun _ => Plain.reading fun _ =>
      Keeps.bind (plain_raiseIf itemViolation_isHandled) fun _ => ?_
    split
    · exact Keeps.throw rfl
    · exact Keeps.bind (plain_writeDatabase _) fun _ => Keeps.pure _

theorem plain_addReservation (environment : Environment) (reservation : Reservation) :
    Plain (addReservation environment reservation) := by
  refine Keeps.bind ?_ fun _ => plain_insertItems _ _ _
  refine Plain.reading fun _ => Keeps.bind (plain_raiseIf reservationViolation_isHandled) fun _ => ?_
  split
  · exact Keeps.throw rfl
  · exact plain_writeDatabase _

theorem plain_insertAllocation (environment : Environment) (item : ReservationItemModel) (hold : ProviderHold)
    (key : ProviderKey) : Plain (insertAllocation environment item hold key) := by
  refine Keeps.bind (plain_newId environment) fun _ => Plain.reading fun _ =>
    Keeps.bind (plain_raiseIf allocationViolation_isHandled) fun _ => ?_
  split
  · exact Keeps.throw rfl
  · exact plain_writeDatabase _

theorem plain_holdItems (environment : Environment) (reservation : ReservationModel)
    (items : List ReservationItemModel) : Plain (holdItems environment reservation items) := by
  induction items with
  | nil => exact Keeps.pure true
  | cons item items ih =>
    refine Keeps.bind (plain_tryHoldSelected _ _ _ _ _) fun hold => ?_
    cases hold with
    | none =>
      exact Keeps.bind (plain_writeReservation _ _ _ _) fun _ =>
        Keeps.bind (plain_releaseReservation _ _ _ _) fun _ => Keeps.pure false
    | some hold => exact Keeps.bind (plain_insertAllocation _ _ _ _) fun _ => ih

theorem plain_addWithHold (environment : Environment) (reservation : Reservation) :
    Plain (addWithHold environment reservation) :=
  Keeps.bind (plain_addReservation _ _) fun _ => plain_holdItems _ _ _

end InventoryReservation
