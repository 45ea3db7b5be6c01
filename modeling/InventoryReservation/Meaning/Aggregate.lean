import Mathlib.Logic.Function.Basic
import InventoryReservation.Repository.Reservation

/-! # Reservations as aggregates

The abstract model: everything the database holds about one reservation, taken together, and what a
walk over its allocations does to it as a function. Nothing here runs against a database. An allocation
is seen with its item's product, its provider and its two provider operations; whether a walk calls
the provider, with which outcome and what it leaves behind is read off that view and the answers of
the environment.
-/

namespace InventoryReservation
set_option autoImplicit false

/-- An allocation with what hangs on it. -/
structure AllocationView extends AllocationRow where
  operation : SettlementKind → Option ProviderOperationModel

structure Aggregate where
  reservation : ReservationModel
  items : List ReservationItemModel
  allocations : List AllocationView
  order : Option OrderModel

namespace Settlement
variable {ω : Type} (S : Settlement ω)
  (environment : Environment) (context : ProviderOperationContext) (row : AllocationRow)
  (view : AllocationView)

/-! ## One allocation -/

/-- The walk finds nothing to do at this allocation. -/
def passes : Prop := row.allocation.status = S.settledStatus

/-- The walk settles this allocation at an offer. -/
def draws : Prop := ¬ S.passes row ∧ row.provider.kind = .internal

/-- The walk calls the provider of this allocation. -/
def asks : Prop :=
  ¬ S.passes view.toAllocationRow ∧ view.provider.kind = .external ∧
    ∀ operation ∈ view.operation S.kind,
      operation.status ≠ .succeeded ∧ ¬ context.keepsUnknown operation

/-- The walk meets an operation whose outcome it leaves unknown. -/
def leavesUnknown : Prop :=
  ¬ S.passes view.toAllocationRow ∧ view.provider.kind = .external ∧
    ∃ operation ∈ view.operation S.kind, context.keepsUnknown operation

instance : Decidable (S.passes row) := inferInstanceAs (Decidable (_ = _))
instance : Decidable (S.draws row) := inferInstanceAs (Decidable (_ ∧ _))
instance : Decidable (S.asks context view) := inferInstanceAs (Decidable (_ ∧ _))
instance : Decidable (S.leavesUnknown context view) := inferInstanceAs (Decidable (_ ∧ _))

def command : OperationCommand where
  holdReference := view.allocation.providerHoldReference.getD ""
  idempotencyKey := S.kind.key context.reservationId view.allocation.id

def reply : OperationReply ω := S.send environment view.provider.id (S.command context view)

/-- The outcome in the reply; a walk whose reply is no outcome does not return. -/
def answer : ω :=
  match S.reply environment context view with
  | .attempt outcome => outcome
  | .raised => S.unknown

def outcome : ω :=
  if S.asks context view then S.answer environment context view
  else if S.leavesUnknown context view then S.unknown
  else S.settled

/-- The walk calls the provider of this allocation and gets this outcome. -/
def gets (outcome : ω) : Prop :=
  S.asks context view ∧ S.reply environment context view = .attempt outcome

instance [DecidableEq ω] (outcome : ω) : Decidable (S.gets environment context view outcome) :=
  inferInstanceAs (Decidable (_ ∧ _))

/-- The operation row while the provider is being called. -/
def inProgress : ProviderOperationModel :=
  match view.operation S.kind with
  | some operation => operation.restart
  | none => S.newOperation (S.kind.key context.reservationId view.allocation.id) view.allocation

/-- The flags after a walk over these allocations. -/
def flagsFrom (flags : PassFlags) (views : List AllocationView) : PassFlags :=
  views.foldl (fun flags view => S.note flags (S.outcome environment context view)) flags

def flags (views : List AllocationView) : PassFlags :=
  S.flagsFrom environment context ⟨false, false⟩ views

variable {S environment context view}

/-- The five ways a walk goes at an allocation. -/
inductive Visit (S : Settlement ω) (context : ProviderOperationContext) (view : AllocationView) : Prop
  | passes (h : S.passes view.toAllocationRow)
  | draws (h : S.draws view.toAllocationRow)
  | succeeded (operation : ProviderOperationModel) (h : view.operation S.kind = some operation)
      (hs : operation.status = .succeeded)
  | leavesUnknown (h : S.leavesUnknown context view)
  | asks (h : S.asks context view)

theorem visit (S : Settlement ω) (context : ProviderOperationContext) (view : AllocationView) :
    S.Visit context view := by
  by_cases hp : S.passes view.toAllocationRow
  · exact .passes hp
  · cases hk : view.provider.kind with
    | internal => exact .draws ⟨hp, hk⟩
    | external =>
      cases ho : view.operation S.kind with
      | none =>
        refine .asks ⟨hp, hk, ?_⟩
        rw [ho]
        intro operation h
        cases h
      | some operation =>
        by_cases hs : operation.status = .succeeded
        · exact .succeeded operation ho hs
        · by_cases hu : context.keepsUnknown operation
          · exact .leavesUnknown ⟨hp, hk, operation, ho, hu⟩
          · refine .asks ⟨hp, hk, ?_⟩
            rw [ho]
            rintro operation' ⟨⟩
            exact ⟨hs, hu⟩

theorem outcome_of_asks (h : S.asks context view) :
    S.outcome environment context view = S.answer environment context view := if_pos h

theorem not_asks_of_leavesUnknown (h : S.leavesUnknown context view) : ¬ S.asks context view := by
  obtain ⟨-, -, operation, ho, hu⟩ := h
  intro ha
  exact (ha.2.2 operation ho).2 hu

theorem outcome_of_leavesUnknown (h : S.leavesUnknown context view) :
    S.outcome environment context view = S.unknown := by
  unfold outcome
  rw [if_neg (not_asks_of_leavesUnknown h), if_pos h]

theorem outcome_of_passes (h : S.passes view.toAllocationRow) : S.outcome environment context view = S.settled := by
  unfold outcome
  rw [if_neg (fun ha => ha.1 h), if_neg (fun hl => hl.1 h)]

theorem outcome_of_internal (h : view.provider.kind = .internal) :
    S.outcome environment context view = S.settled := by
  have hne : ¬ view.provider.kind = .external := by
    rw [h]
    decide
  unfold outcome
  rw [if_neg (fun ha => hne ha.2.1), if_neg (fun hl => hne hl.2.1)]

theorem outcome_of_succeeded {operation : ProviderOperationModel}
    (ho : view.operation S.kind = some operation) (hs : operation.status = .succeeded) :
    S.outcome environment context view = S.settled := by
  unfold outcome
  rw [if_neg (fun ha => (ha.2.2 operation ho).1 hs), if_neg]
  rintro ⟨-, -, operation', ho', hu⟩
  rw [ho, Option.mem_some] at ho'
  rw [← ho'] at hu
  have := hs.symm.trans hu.1
  cases this

/-- An outcome other than the settled one comes from the provider or from an operation left
unknown. -/
theorem outcome_ne_settled (h : S.outcome environment context view ≠ S.settled) :
    (S.asks context view ∧ S.outcome environment context view = S.answer environment context view) ∨
      (S.leavesUnknown context view ∧ S.outcome environment context view = S.unknown) := by
  cases S.visit context view with
  | passes hp => exact absurd (outcome_of_passes hp) h
  | draws hd => exact absurd (outcome_of_internal hd.2) h
  | succeeded operation ho hs => exact absurd (outcome_of_succeeded ho hs) h
  | leavesUnknown hl => exact Or.inr ⟨hl, outcome_of_leavesUnknown hl⟩
  | asks ha => exact Or.inl ⟨ha, outcome_of_asks ha⟩

theorem answer_of_gets {outcome : ω} (h : S.gets environment context view outcome) :
    S.answer environment context view = outcome := by
  unfold answer
  rw [h.2]

theorem outcome_of_gets {outcome : ω} (h : S.gets environment context view outcome) :
    S.outcome environment context view = outcome :=
  (outcome_of_asks h.1).trans (answer_of_gets h)

/-- Only the settled and the unknown outcome can come from elsewhere than a reply. -/
theorem outcome_eq_iff {outcome : ω} (hs : outcome ≠ S.settled) (hu : outcome ≠ S.unknown) :
    S.outcome environment context view = outcome ↔ S.gets environment context view outcome := by
  refine ⟨fun h => ?_, outcome_of_gets⟩
  rcases outcome_ne_settled (h.symm ▸ hs) with ⟨ha, he⟩ | ⟨-, he⟩
  · refine ⟨ha, ?_⟩
    rw [h] at he
    unfold answer at he
    cases hr : S.reply environment context view with
    | attempt outcome' =>
      rw [hr] at he
      rw [he]
    | raised =>
      rw [hr] at he
      exact absurd he hu
  · exact absurd (h.symm.trans he) hu

end Settlement

/-! ## One allocation after the walk -/

namespace Settlement
variable {ω : Type} [DecidableEq ω] (S : Settlement ω)
  (environment : Environment) (context : ProviderOperationContext) (view : AllocationView)

/-- The operation row once the provider has answered; a walk that could not compute the instant of
the next attempt does not return. -/
def recorded : ProviderOperationModel :=
  let operation := S.inProgress context view
  let outcome := S.answer environment context view
  if outcome = S.settled then { operation with status := .succeeded, nextAttemptAt := none }
  else if outcome = S.unknown then
    { operation with
      status := .unknown
      nextAttemptAt := (context.nextAttemptAt operation.attemptCount).toOption.join
      errorCode := some "unknown_outcome"
      errorMessage := some S.unknownMessage }
  else
    { operation with
      status := .failed
      nextAttemptAt := none
      errorCode := some (S.value outcome)
      errorMessage := some S.failedMessage }

/-- The allocation after the walk. -/
def settle : AllocationView where
  allocation :=
    { view.allocation with status := S.allocationStatus (S.outcome environment context view) }
  productId := view.productId
  provider := view.provider
  operation :=
    if S.asks context view then
      Function.update view.operation S.kind (some (S.recorded environment context view))
    else view.operation

@[simp] theorem settle_provider : (S.settle environment context view).provider = view.provider := rfl

@[simp] theorem settle_status :
    (S.settle environment context view).allocation.status =
      S.allocationStatus (S.outcome environment context view) := rfl

variable {S environment context view}

theorem recordOutcome_eq {operation : ProviderOperationModel}
    (h : S.recordOutcome context (S.answer environment context view) (S.inProgress context view) =
      .ok operation) : operation = S.recorded environment context view := by
  unfold recordOutcome at h
  unfold recorded
  dsimp only
  split at h
  · next hs =>
    rw [if_pos hs]
    exact (Except.ok.inj h).symm
  · next hs =>
    rw [if_neg hs]
    split at h
    · next hu =>
      rw [if_pos hu]
      cases hn : context.nextAttemptAt (S.inProgress context view).attemptCount with
      | error failure =>
        rw [hn] at h
        cases h
      | ok nextAttemptAt =>
        rw [hn] at h
        exact (Except.ok.inj h).symm
    · next hu =>
      rw [if_neg hu]
      exact (Except.ok.inj h).symm

theorem recorded_key :
    (S.recorded environment context view).idempotencyKey =
      (S.inProgress context view).idempotencyKey := by
  unfold recorded
  dsimp only
  split
  · rfl
  · split <;> rfl

theorem recorded_allocationId :
    (S.recorded environment context view).allocationId = (S.inProgress context view).allocationId := by
  unfold recorded
  dsimp only
  split
  · rfl
  · split <;> rfl

theorem recorded_operation :
    (S.recorded environment context view).operation = (S.inProgress context view).operation := by
  unfold recorded
  dsimp only
  split
  · rfl
  · split <;> rfl

theorem recorded_attemptCount :
    (S.recorded environment context view).attemptCount = (S.inProgress context view).attemptCount := by
  unfold recorded
  dsimp only
  split
  · rfl
  · split <;> rfl

theorem recorded_status_settled (h : S.answer environment context view = S.settled) :
    (S.recorded environment context view).status = .succeeded := by
  unfold recorded
  simp only [h, if_true]

theorem recorded_status_unknown (h : S.answer environment context view = S.unknown)
    (hne : S.unknown ≠ S.settled) : (S.recorded environment context view).status = .unknown := by
  unfold recorded
  simp only [h, hne, if_true, if_false]

theorem recorded_status_failed (h : S.answer environment context view ≠ S.settled)
    (h' : S.answer environment context view ≠ S.unknown) :
    (S.recorded environment context view).status = .failed := by
  unfold recorded
  simp only [h, h', if_false]

theorem recorded_errorCode_failed (h : S.answer environment context view ≠ S.settled)
    (h' : S.answer environment context view ≠ S.unknown) :
    (S.recorded environment context view).errorCode =
      some (S.value (S.answer environment context view)) := by
  unfold recorded
  simp only [h, h', if_false]

theorem settle_operation_of_ne {kind : SettlementKind} (h : kind ≠ S.kind) :
    (S.settle environment context view).operation kind = view.operation kind := by
  unfold settle
  dsimp only
  split
  · exact Function.update_of_ne h _ _
  · rfl

theorem settle_operation_of_not_asks (h : ¬ S.asks context view) :
    (S.settle environment context view).operation = view.operation := if_neg h

theorem settle_operation_of_asks (h : S.asks context view) :
    (S.settle environment context view).operation S.kind =
      some (S.recorded environment context view) := by
  unfold settle
  dsimp only
  rw [if_pos h]
  exact Function.update_self _ _ _

/-- An attempt counts. -/
theorem settle_attemptCount {operation operation' : ProviderOperationModel} (ha : S.asks context view)
    (ho : view.operation S.kind = some operation)
    (ho' : (S.settle environment context view).operation S.kind = some operation') :
    operation'.attemptCount = operation.attemptCount + 1 := by
  rw [settle_operation_of_asks ha] at ho'
  rw [← Option.some.inj ho', recorded_attemptCount]
  unfold inProgress
  rw [ho]
  rfl

end Settlement

/-! ## What the flags say -/

section Flags
variable (environment : Environment) (context : ProviderOperationContext)

theorem confirmation_note_failed (flags : PassFlags) (outcome : ProviderConfirmOutcome) :
    (confirmation.note flags outcome).failed = true ↔ flags.failed = true ∨ outcome = .rejected := by
  cases outcome <;> simp [confirmation]

theorem confirmation_note_pending (flags : PassFlags) (outcome : ProviderConfirmOutcome) :
    (confirmation.note flags outcome).pending = true ↔
      flags.pending = true ∨ outcome = .unknown ∨ outcome = .temporarilyUnavailable := by
  cases outcome <;> simp [confirmation]

theorem releasing_note_pending (flags : PassFlags) (outcome : ProviderReleaseOutcome) :
    (releasing.note flags outcome).pending = true ↔ flags.pending = true ∨ outcome ≠ .released := by
  cases outcome <;> simp [releasing]

theorem confirmation_flagsFrom (flags : PassFlags) (views : List AllocationView) :
    ((confirmation.flagsFrom environment context flags views).failed = true ↔
      flags.failed = true ∨ ∃ view ∈ views, confirmation.outcome environment context view = .rejected) ∧
    ((confirmation.flagsFrom environment context flags views).pending = true ↔
      flags.pending = true ∨ ∃ view ∈ views,
        confirmation.outcome environment context view = .unknown ∨
          confirmation.outcome environment context view = .temporarilyUnavailable) := by
  induction views generalizing flags with
  | nil => simp [Settlement.flagsFrom]
  | cons view views ih =>
    unfold Settlement.flagsFrom at ih ⊢
    rw [List.foldl_cons, (ih _).1, (ih _).2, confirmation_note_failed, confirmation_note_pending]
    simp only [List.mem_cons, exists_eq_or_imp, or_assoc, true_and]

theorem confirmation_flags_failed (views : List AllocationView) :
    (confirmation.flags environment context views).failed = true ↔
      ∃ view ∈ views, confirmation.outcome environment context view = .rejected := by
  rw [Settlement.flags, (confirmation_flagsFrom environment context _ views).1]
  simp

/-- A confirming walk fails when a provider rejects. -/
theorem confirmation_flags_rejected (views : List AllocationView) :
    (confirmation.flags environment context views).failed = true ↔
      ∃ view ∈ views, confirmation.gets environment context view .rejected := by
  rw [confirmation_flags_failed]
  have hgets : ∀ view, confirmation.outcome environment context view = .rejected ↔
      confirmation.gets environment context view .rejected := fun view =>
    Settlement.outcome_eq_iff (by decide) (by decide)
  simp only [hgets]

theorem confirmation_flags_pending (views : List AllocationView) :
    (confirmation.flags environment context views).pending = true ↔
      ∃ view ∈ views, confirmation.outcome environment context view = .unknown ∨
        confirmation.outcome environment context view = .temporarilyUnavailable := by
  rw [Settlement.flags, (confirmation_flagsFrom environment context _ views).2]
  simp

/-- Without a flag, every allocation was confirmed. -/
theorem outcome_of_confirmation_flags {views : List AllocationView}
    (h : confirmation.flags environment context views = ⟨false, false⟩) :
    ∀ view ∈ views, confirmation.outcome environment context view = .confirmed := by
  intro view hv
  have hfailed := (confirmation_flags_failed environment context views).not.mp (by rw [h]; decide)
  have hpending := (confirmation_flags_pending environment context views).not.mp (by rw [h]; decide)
  cases ho : confirmation.outcome environment context view with
  | confirmed => rfl
  | rejected => exact absurd ⟨view, hv, ho⟩ hfailed
  | temporarilyUnavailable => exact absurd ⟨view, hv, Or.inr ho⟩ hpending
  | unknown => exact absurd ⟨view, hv, Or.inl ho⟩ hpending

theorem releasing_flagsFrom (flags : PassFlags) (views : List AllocationView) :
    (releasing.flagsFrom environment context flags views).pending = true ↔
      flags.pending = true ∨ ∃ view ∈ views, releasing.outcome environment context view ≠ .released := by
  induction views generalizing flags with
  | nil => simp [Settlement.flagsFrom]
  | cons view views ih =>
    unfold Settlement.flagsFrom at ih ⊢
    rw [List.foldl_cons, ih, releasing_note_pending]
    simp only [List.mem_cons, exists_eq_or_imp, or_assoc]

theorem releasing_flags_pending (views : List AllocationView) :
    (releasing.flags environment context views).pending = true ↔
      ∃ view ∈ views, releasing.outcome environment context view ≠ .released := by
  rw [Settlement.flags, releasing_flagsFrom]
  simp

theorem outcome_of_releasing_flags {views : List AllocationView}
    (h : (releasing.flags environment context views).pending = false) :
    ∀ view ∈ views, releasing.outcome environment context view = .released := by
  intro view hv
  by_contra hne
  have hpending := (releasing_flags_pending environment context views).mpr ⟨view, hv, hne⟩
  rw [h] at hpending
  cases hpending

end Flags

/-! ## Whole reservations -/

/-- The status a confirming walk leaves. -/
def PassFlags.confirmedStatus (flags : PassFlags) : ReservationStatusModel :=
  if flags.failed then .failed else if flags.pending then .confirming else .confirmed

/-- The status and target a releasing walk leaves. -/
def PassFlags.releasedStatus (flags : PassFlags) (terminalStatus : ReservationStatusModel) :
    ReservationStatusModel × Option ReservationStatusModel :=
  if flags.pending then (.releasing, some terminalStatus) else (terminalStatus, none)

/-- The columns of a reservation row that no walk writes. -/
structure ReservationModel.SameRequest (before after : ReservationModel) : Prop where
  id : after.id = before.id
  userId : after.userId = before.userId
  idempotencyKey : after.idempotencyKey = before.idempotencyKey
  requestFingerprint : after.requestFingerprint = before.requestFingerprint
  createdAt : after.createdAt = before.createdAt
  expiresAt : after.expiresAt = before.expiresAt

namespace Aggregate

/-- A confirming walk turns `before` into `after`. -/
structure Confirmed (environment : Environment) (context : ProviderOperationContext)
    (before after : Aggregate) : Prop where
  request : before.reservation.SameRequest after.reservation
  status : after.reservation.status =
    (confirmation.flags environment context before.allocations).confirmedStatus
  releaseTargetStatus : after.reservation.releaseTargetStatus = before.reservation.releaseTargetStatus
  items : after.items = before.items
  allocations : after.allocations = before.allocations.map (confirmation.settle environment context)
  order : after.order.isSome ↔ before.order.isSome ∨ after.reservation.status = .confirmed

/-- A releasing walk turns `before` into `after`. -/
structure Released (environment : Environment) (context : ProviderOperationContext)
    (terminalStatus : ReservationStatusModel) (before after : Aggregate) : Prop where
  request : before.reservation.SameRequest after.reservation
  status : (after.reservation.status, after.reservation.releaseTargetStatus) =
    (releasing.flags environment context before.allocations).releasedStatus terminalStatus
  items : after.items = before.items
  allocations : after.allocations = before.allocations.map (releasing.settle environment context)
  order : after.order = before.order

end Aggregate

/-- The walk a request makes over one reservation. -/
inductive Pass where
  | confirm (context : ProviderOperationContext)
  | release (context : ProviderOperationContext) (terminalStatus : ReservationStatusModel)

def Pass.Applies (environment : Environment) : Pass → Aggregate → Aggregate → Prop
  | .confirm context => Aggregate.Confirmed environment context
  | .release context terminalStatus => Aggregate.Released environment context terminalStatus

end InventoryReservation
