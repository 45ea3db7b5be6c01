import InventoryReservation.Repository.Reservation

/-! # Where a lost race shows

Of all statements of a create only the insert of the reservation row can violate the constraint on the
idempotency key. Whatever the hold loop and its compensation raise, a create passes on as it is.
-/

namespace InventoryReservation
set_option autoImplicit false

open Relational Transactional

/-- A create raises these of its own accord, or takes them for a lost race. -/
def Failure.answersCreate : Failure → Bool
  | idempotencyConflict _ _ => true
  | insufficientInventory _ => true
  | concurrentReservationCreation => true
  | integrity constraint => constraint = idempotencyConstraint
  | _ => false

/-- Any other failure. -/
def Failure.IsOther (failure : Failure) : Prop := failure.answersCreate = false

instance (failure : Failure) : Decidable failure.IsOther := inferInstanceAs (Decidable (_ = false))

/-- Every failure of a run is another one. -/
abbrev RaisesOther {α : Type} (x : TransactionM α) : Prop := Keeps (fun _ => True) Failure.IsOther x

/-! ## Checks -/

section Checks
variable {failure : Failure}

theorem isOther_violation {offer : ProductOfferModel} :
    ∀ failure ∈ offer.violation, failure.IsOther := by
  intro failure hf
  unfold ProductOfferModel.violation ProductOfferModel.failedCheck at hf
  repeat' split at hf
  all_goals cases hf
  all_goals decide

theorem isOther_encodingFailure {statement : OfferStatement} :
    ∀ failure ∈ statement.encodingFailure, failure.IsOther := by
  intro failure hf
  rw [OfferStatement.eq_of_mem_encodingFailure hf]
  rfl

theorem isOther_itemViolation {database : Database} {item : ReservationItemModel} :
    ∀ failure ∈ database.itemViolation item, failure.IsOther := by
  intro failure hf
  unfold Database.itemViolation at hf
  repeat' split at hf
  all_goals cases hf
  all_goals decide

theorem isOther_allocationViolation {database : Database} {allocation : InventoryAllocationModel} :
    ∀ failure ∈ database.allocationViolation allocation, failure.IsOther := by
  intro failure hf
  unfold Database.allocationViolation at hf
  repeat' split at hf
  all_goals cases hf
  all_goals decide

/-- The row of a reservation is refused for another reason, or because its key is taken. -/
theorem isOther_reservationViolation {database : Database} {reservation : ReservationModel} :
    ∀ failure ∈ database.reservationViolation reservation, failure.IsOther ∨
      failure = .integrity idempotencyConstraint ∧
        (database.findByIdempotencyKey reservation.userId reservation.idempotencyKey).isSome = true := by
  intro failure hf
  unfold Database.reservationViolation at hf
  repeat' split at hf
  all_goals cases hf
  · exact Or.inl (by decide)
  · exact Or.inl (by decide)
  · exact Or.inl (by decide)
  · exact Or.inl (by decide)
  · exact Or.inl (by decide)
  · exact Or.inl (by decide)
  · exact Or.inl (by decide)
  · next hkey => exact Or.inr ⟨rfl, hkey⟩

theorem isOther_start {draft : ReservationDraft} (h : Reservation.start draft = .error failure) :
    failure.IsOther := by
  unfold Reservation.start Reservation.construct at h
  repeat' split at h
  all_goals cases h
  all_goals rfl

theorem isOther_nextAttemptAt {context : ProviderOperationContext} {attemptCount : ℕ}
    (h : context.nextAttemptAt attemptCount = .error failure) : failure.IsOther := by
  unfold ProviderOperationContext.nextAttemptAt at h
  dsimp only at h
  repeat' split at h
  all_goals cases h
  all_goals rfl

end Checks

section Primitives
variable {environment : Environment}

theorem raisesOther_readDatabase : RaisesOther readDatabase := fun _ _ => trivial

theorem raisesOther_writeDatabase (database : Database) : RaisesOther (writeDatabase database) :=
  fun _ _ => trivial

theorem raisesOther_newId : RaisesOther (newId environment) := fun _ _ => trivial

theorem raisesOther_recordExchange (exchange : Exchange) : RaisesOther (recordExchange exchange) :=
  fun _ _ => trivial

theorem raisesOther_raiseIf {violation : Option Failure} (h : ∀ failure ∈ violation, failure.IsOther) :
    RaisesOther (raiseIf violation) := by
  cases violation with
  | none => exact Keeps.pure ()
  | some failure => exact Keeps.throw (h failure rfl)

theorem raisesOther_updateOffer (statement : OfferStatement) (productId providerId : Uuid) :
    RaisesOther (updateOffer statement productId providerId) := by
  refine Keeps.bind (raisesOther_raiseIf isOther_encodingFailure) fun _ =>
    Keeps.bind raisesOther_readDatabase fun database => ?_
  split
  · exact Keeps.pure _
  · exact Keeps.bind (raisesOther_raiseIf isOther_violation) fun _ =>
      Keeps.bind (raisesOther_writeDatabase _) fun _ => Keeps.pure _

theorem raisesOther_writeReservation (reservationId : Uuid) (assign : ReservationModel → ReservationModel)
    (keeps : ∀ reservation, (assign reservation).id = reservation.id) :
    RaisesOther (writeReservation environment reservationId assign keeps) :=
  Keeps.bind raisesOther_readDatabase fun _ => raisesOther_writeDatabase _

theorem raisesOther_insertItems (reservationId : Uuid) (items : List ReservationItem) :
    RaisesOther (insertItems environment reservationId items) := by
  induction items with
  | nil => exact Keeps.pure []
  | cons item items ih =>
    refine Keeps.bind ?_ fun _ => Keeps.bind ih fun _ => Keeps.pure _
    refine Keeps.bind raisesOther_newId fun id => Keeps.bind raisesOther_readDatabase fun database =>
      Keeps.bind (raisesOther_raiseIf isOther_itemViolation) fun _ => ?_
    split
    · exact Keeps.throw (by decide)
    · exact Keeps.bind (raisesOther_writeDatabase _) fun _ => Keeps.pure _

theorem raisesOther_insertAllocation (item : ReservationItemModel) (hold : ProviderHold) (key : ProviderKey) :
    RaisesOther (insertAllocation environment item hold key) := by
  refine Keeps.bind raisesOther_newId fun id => Keeps.bind raisesOther_readDatabase fun database =>
    Keeps.bind (raisesOther_raiseIf isOther_allocationViolation) fun _ => ?_
  split
  · exact Keeps.throw (by decide)
  · exact raisesOther_writeDatabase _

end Primitives

/-! ## Routing -/

section Routing
variable {environment : Environment} {router : ProviderRouter TransactionM} {command : HoldCommand}
  {candidate : InventoryProviderModel} {provider : HoldProvider TransactionM}

theorem raisesOther_observeAvailability (productId providerId : Uuid) (attempt : ProviderAvailabilityAttempt) :
    RaisesOther (observeAvailability productId providerId attempt) := by
  unfold observeAvailability
  split
  · exact Keeps.bind (raisesOther_updateOffer _ _ _) fun _ => Keeps.pure ()
  · exact Keeps.pure ()

theorem raisesOther_availability (hp : holdProvider environment candidate = some provider)
    (asked : AvailabilityCommand) : RaisesOther (provider.availability asked) := by
  unfold holdProvider at hp
  split at hp
  · cases hp
    exact Keeps.bind (Keeps.bind raisesOther_readDatabase fun _ => Keeps.pure _) fun _ => Keeps.pure _
  · obtain ⟨-, ⟨⟩⟩ := Option.ite_none_right_eq_some.mp hp
    refine Keeps.bind (raisesOther_recordExchange _) fun _ => ?_
    split
    · exact Keeps.pure _
    · exact Keeps.throw rfl

theorem raisesOther_hold (hp : holdProvider environment candidate = some provider) :
    RaisesOther (provider.hold command) := by
  unfold holdProvider at hp
  split at hp
  · cases hp
    refine Keeps.bind (raisesOther_updateOffer _ _ _) fun snapshot => ?_
    cases snapshot with
    | none => exact Keeps.pure _
    | some _ => exact Keeps.pure _
  · obtain ⟨-, ⟨⟩⟩ := Option.ite_none_right_eq_some.mp hp
    refine Keeps.bind (raisesOther_recordExchange _) fun _ => ?_
    split
    · exact Keeps.pure _
    · exact Keeps.throw rfl

theorem raisesOther_holdAmong (productId : Uuid)
    (hobserver : router.availabilityObserver = some (observeAvailability productId))
    {providers : List (HoldProvider TransactionM)}
    (hadapters : ∀ provider ∈ providers, ∃ candidate, holdProvider environment candidate = some provider) :
    RaisesOther (router.holdAmong command providers) := by
  induction providers with
  | nil => exact Keeps.pure none
  | cons provider rest ih =>
    obtain ⟨candidate, hp⟩ := hadapters provider List.mem_cons_self
    have hrest : RaisesOther (router.holdAmong command rest) :=
      ih fun provider' hmem => hadapters provider' (List.mem_cons_of_mem _ hmem)
    refine Keeps.bind (Keeps.ite (fun _ => ?_) fun _ => Keeps.pure false) fun skipped => ?_
    · rw [hobserver]
      exact Keeps.bind (raisesOther_availability hp _) fun _ =>
        Keeps.bind (raisesOther_observeAvailability _ _ _) fun _ => Keeps.pure _
    · refine Keeps.ite (fun _ => hrest) fun _ => Keeps.bind (raisesOther_hold hp) fun attempt => ?_
      cases attempt.outcome with
      | held => exact Keeps.pure _
      | outOfStock => exact hrest
      | temporarilyUnavailable => exact hrest
      | unknown => exact Keeps.throw rfl

theorem raisesOther_tryHoldSelected (productId providerId : Uuid) (quantity : ℤ) (key : ProviderKey) :
    RaisesOther (tryHoldSelected environment productId providerId quantity key) := by
  refine Keeps.bind raisesOther_readDatabase fun database => ?_
  refine raisesOther_holdAmong productId rfl (?_ : ∀ provider ∈ _, ∃ candidate,
    holdProvider environment candidate = some provider)
  intro provider hmem
  obtain ⟨candidate, -, hp⟩ := exists_candidate hmem
  exact ⟨candidate, hp⟩

end Routing

/-! ## Compensation -/

namespace Settlement
variable {ω : Type} [DecidableEq ω] {S : Settlement ω} {environment : Environment}
  {context : ProviderOperationContext}

theorem isOther_recordOutcome {outcome : ω} {operation : ProviderOperationModel} {failure : Failure}
    (h : S.recordOutcome context outcome operation = .error failure) : failure.IsOther := by
  unfold recordOutcome at h
  split at h
  · cases h
  · split at h
    · cases hn : context.nextAttemptAt operation.attemptCount with
      | ok nextAttemptAt =>
        rw [hn] at h
        cases h
      | error failure' =>
        rw [hn] at h
        cases h
        exact isOther_nextAttemptAt hn
    · cases h

theorem raisesOther_attempt (provider : InventoryProviderModel) (holdReference : String)
    (operation : ProviderOperationModel) :
    RaisesOther (S.attempt environment context provider holdReference operation) := by
  refine Keeps.bind (raisesOther_recordExchange _) fun _ => ?_
  split
  · exact Keeps.throw rfl
  · next outcome _ =>
    refine Keeps.bind ?_ fun _ => Keeps.bind raisesOther_readDatabase fun _ =>
      Keeps.bind (raisesOther_writeDatabase _) fun _ => Keeps.pure _
    cases hr : S.recordOutcome context outcome operation with
    | ok recorded => exact Keeps.pure recorded
    | error failure => exact Keeps.throw (isOther_recordOutcome hr)

theorem raisesOther_settleExternalHold (hfailure : S.failure.IsOther) (allocation : InventoryAllocationModel)
    (provider : InventoryProviderModel) :
    RaisesOther (S.settleExternalHold environment context allocation provider) := by
  refine Keeps.ite (fun _ => Keeps.throw hfailure) fun _ => ?_
  cases allocation.providerHoldReference with
  | none => exact Keeps.throw hfailure
  | some holdReference =>
    refine Keeps.bind raisesOther_readDatabase fun database => ?_
    cases database.operations.find? (S.kind.key context.reservationId allocation.id) with
    | some operation =>
      exact Keeps.ite (fun _ => Keeps.pure _) fun _ => Keeps.ite (fun _ => Keeps.pure _) fun _ =>
        Keeps.bind (raisesOther_writeDatabase _) fun _ => raisesOther_attempt _ _ _
    | none =>
      dsimp only
      split
      · exact Keeps.throw (by decide)
      · exact Keeps.bind (raisesOther_writeDatabase _) fun _ => raisesOther_attempt _ _ _

theorem raisesOther_settleAllocations (hfailure : S.failure.IsOther) (rows : List AllocationRow)
    (flags : PassFlags) : RaisesOther (S.settleAllocations environment context rows flags) := by
  induction rows generalizing flags with
  | nil => exact Keeps.pure flags
  | cons row rows ih =>
    refine Keeps.bind (Keeps.ite (fun _ => Keeps.pure _) fun _ => ?_) fun outcome =>
      Keeps.bind (Keeps.bind raisesOther_readDatabase fun _ => raisesOther_writeDatabase _) fun _ => ih _
    cases row.provider.kind with
    | external => exact raisesOther_settleExternalHold hfailure _ _
    | internal =>
      refine Keeps.bind (raisesOther_updateOffer _ _ _) fun inventory => ?_
      cases inventory with
      | none => exact Keeps.throw hfailure
      | some _ => exact Keeps.pure _

end Settlement

section Loop
variable {environment : Environment}

theorem raisesOther_releaseReservation (reservation : ReservationModel)
    (terminalStatus : ReservationStatusModel) (context : Option ProviderOperationContext) :
    RaisesOther (releaseReservation environment reservation terminalStatus context) :=
  Keeps.bind raisesOther_readDatabase fun _ => Keeps.bind (raisesOther_writeReservation _ _ _) fun _ =>
    Keeps.bind (Settlement.raisesOther_settleAllocations (S := releasing) rfl _ _) fun _ =>
      Keeps.ite (fun _ => raisesOther_writeReservation _ _ _) fun _ => raisesOther_writeReservation _ _ _

/-- The hold loop never loses the race for the key. -/
theorem raisesOther_holdItems (reservation : ReservationModel) (items : List ReservationItemModel) :
    RaisesOther (holdItems environment reservation items) := by
  induction items with
  | nil => exact Keeps.pure true
  | cons item items ih =>
    refine Keeps.bind (raisesOther_tryHoldSelected _ _ _ _) fun hold => ?_
    cases hold with
    | none =>
      exact Keeps.bind (raisesOther_writeReservation _ _ _) fun _ =>
        Keeps.bind (raisesOther_releaseReservation _ _ _) fun _ => Keeps.pure false
    | some hold => exact Keeps.bind (raisesOther_insertAllocation _ _ _) fun _ => ih

/-- Nor does storing a reservation whose row violates nothing. -/
theorem addReservation_isOther {reservation : Reservation} {s t : Session} {failure : Failure}
    (hnone : s.database.reservationViolation (toModel environment reservation) = none)
    (h : addReservation environment reservation s = .error failure t) : failure.IsOther := by
  have hinsert : Stops (fun _ => True) Failure.IsOther
      (insertReservation (toModel environment reservation) s) := by
    rw [insertReservation, readDatabase_bind, hnone, raiseIf_none_bind]
    cases s.database.reservations.insert? (toModel environment reservation) with
    | none => exact ⟨trivial, by decide⟩
    | some reservations => exact trivial
  exact ((hinsert.bind_keeps fun _ => raisesOther_insertItems _ _).of_error h).2

end Loop
end InventoryReservation
