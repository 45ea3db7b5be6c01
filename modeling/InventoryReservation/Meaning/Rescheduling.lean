import InventoryReservation.Meaning.Commit
import InventoryReservation.Meaning.Relations

/-! # What a reconciliation leaves behind

After a reconciliation that returns, an operation that is unknown is the one that was there before, or
its next attempt lies in the future (`Reschedules`). And an allocation that a walk takes as settled has
no unknown operation of that kind (`Aggregate.Resolved`), so a walk passes over none that is due.
-/

namespace InventoryReservation
set_option autoImplicit false

open Relational Transactional

/-! ## Next attempts -/

/-- What is unknown was there before, or its next attempt is later than now. -/
structure Reschedules (now : Instant) (s t : Session) : Prop where
  later : ∀ key, ∀ operation ∈ t.database.operations.find? key, operation.status = .unknown →
    s.database.operations.find? key = some operation ∨
      ∃ nextAttemptAt ∈ operation.nextAttemptAt, now < nextAttemptAt

theorem reschedules_composes (now : Instant) : Composes (Reschedules now) where
  trans s t u hst htu := by
    refine ⟨fun key operation ho hu => ?_⟩
    rcases htu.later key operation ho hu with hsame | hlater
    · exact hst.later key operation hsame hu
    · exact Or.inr hlater
  silent s t hoperations _ := by
    refine ⟨fun key operation ho _ => Or.inl ?_⟩
    rw [← hoperations]
    exact ho

/-- The reconciliation worker schedules into the future. -/
theorem nextAttemptAt_later {reservationId : Uuid} {now : Instant} {maxAttempts attemptCount : ℕ}
    {retryBaseDelay : Duration} (hdelay : 0 < retryBaseDelay) {next : Option Instant}
    (h : (ProviderOperationContext.retry reservationId now maxAttempts retryBaseDelay).nextAttemptAt
      attemptCount = .ok next) : ∃ nextAttemptAt ∈ next, now < nextAttemptAt := by
  unfold ProviderOperationContext.nextAttemptAt ProviderOperationContext.retry at h
  dsimp only at h
  split at h
  · cases h
  · split at h
    · cases h
    · cases h
      have hpow : 0 < retryBaseDelay * 2 ^ (attemptCount - 2) := Int.mul_pos hdelay (Int.pow_pos (by decide))
      exact ⟨_, rfl, Int.lt_add_of_pos_right now hpow⟩

namespace Settlement
variable {ω : Type} [DecidableEq ω] {S : Settlement ω} {environment : Environment} {row : AllocationRow}
  {s t : Session}

/-- What an attempt records as unknown is attempted again later. -/
theorem recordOutcome_later {context : ProviderOperationContext} {now : Instant}
    (hcontext : ∀ attemptCount next, context.nextAttemptAt attemptCount = .ok next →
      ∃ nextAttemptAt ∈ next, now < nextAttemptAt)
    {outcome : ω} {operation recorded : ProviderOperationModel}
    (h : S.recordOutcome context outcome operation = .ok recorded) (hu : recorded.status = .unknown) :
    ∃ nextAttemptAt ∈ recorded.nextAttemptAt, now < nextAttemptAt := by
  unfold recordOutcome at h
  split at h
  · cases h
    cases hu
  · split at h
    · cases hn : context.nextAttemptAt operation.attemptCount with
      | error failure =>
        rw [hn] at h
        cases h
      | ok next =>
        rw [hn] at h
        cases h
        exact hcontext _ _ hn
    · cases h
      cases hu

theorem settleExternalHold_reschedules {context : ProviderOperationContext} {now : Instant}
    (hcontext : ∀ attemptCount next, context.nextAttemptAt attemptCount = .ok next →
      ∃ nextAttemptAt ∈ next, now < nextAttemptAt)
    (hp : ¬ S.passes row) (hk : row.provider.kind = .external) {outcome : ω}
    (h : S.settleExternalHold environment context row.allocation row.provider s = .ok outcome t) :
    Reschedules now s t := by
  rcases settleExternalHold_cases environment s hp hk with
    ⟨failure, -, he⟩ | ⟨ha, he⟩ | ⟨ha, holdReference, operation, operations, hr, ho, hkey, hops, he⟩
  · rw [he] at h
    cases h
  · rw [he] at h
    cases h
    exact (reschedules_composes now).refl _
  · rw [he] at h
    obtain ⟨-, recorded, hrec, rfl⟩ := attempt_ok h
    have hrkey := (recordOutcome_ok hrec).1
    refine ⟨fun key' operation' ho' hu => ?_⟩
    rw [Option.mem_def, Table.find?_replace, hrkey, hkey, hops] at ho'
    by_cases hk' : key' = S.kind.key context.reservationId row.allocation.id
    · rw [if_pos hk', if_pos hk', Option.map_some] at ho'
      rw [← Option.some.inj ho'] at hu ⊢
      exact Or.inr (recordOutcome_later hcontext hrec hu)
    · rw [if_neg hk', if_neg hk'] at ho'
      exact Or.inl ho'

end Settlement

/-- The walks of a reconciliation reschedule. -/
theorem Walk.reschedules {environment : Environment} {maxAttempts : ℕ} {retryBaseDelay : Duration}
    (hdelay : 0 < retryBaseDelay) {walk : Walk}
    (hcontext : walk.pass.context =
      .retry walk.reservation.id environment.now maxAttempts retryBaseDelay) :
    Relates (Reschedules environment.now) (walk.run environment) := by
  have hlater : ∀ attemptCount next, walk.pass.context.nextAttemptAt attemptCount = .ok next →
      ∃ nextAttemptAt ∈ next, environment.now < nextAttemptAt := by
    intro attemptCount next h
    rw [hcontext] at h
    exact nextAttemptAt_later hdelay h
  exact (reschedules_composes environment.now).walk
    (fun _ hp hk _ _ _ h => Settlement.settleExternalHold_reschedules hlater hp hk h)
    (fun _ hp hk _ _ _ h => Settlement.settleExternalHold_reschedules hlater hp hk h)

/-! ## Settled allocations -/

/-- Only holds of external providers have operations, and the operation of a settled allocation is not
unknown. -/
structure Aggregate.Resolved (aggregate : Aggregate) : Prop where
  external : ∀ view ∈ aggregate.allocations, ∀ kind, ∀ operation ∈ view.operation kind,
    view.provider.kind = .external
  resolved : ∀ view ∈ aggregate.allocations, ∀ kind : SettlementKind,
    view.allocation.status = kind.settledStatus → ∀ operation ∈ view.operation kind,
      operation.status ≠ .unknown

namespace Settlement
variable {ω : Type} [DecidableEq ω] {S : Settlement ω} {environment : Environment}
  {context : ProviderOperationContext} {view : AllocationView}

theorem settle_external (hview : ∀ kind, ∀ operation ∈ view.operation kind, view.provider.kind = .external)
    (kind : SettlementKind) : ∀ operation ∈ (S.settle environment context view).operation kind,
      (S.settle environment context view).provider.kind = .external := by
  intro operation ho
  rw [settle_provider]
  by_cases ha : S.asks context view
  · exact ha.2.1
  · rw [settle_operation_of_not_asks ha] at ho
    exact hview kind operation ho

/-- A walk that settles an allocation leaves no unknown operation of its kind. -/
theorem settle_resolved (hS : S.Lawful) (hsettled : S.settledStatus = S.kind.settledStatus)
    (hview : view.allocation.status = S.kind.settledStatus → ∀ operation ∈ view.operation S.kind,
      operation.status ≠ .unknown)
    (hexternal : ∀ operation ∈ view.operation S.kind, view.provider.kind = .external)
    (h : S.outcome environment context view = S.settled) :
    ∀ operation ∈ (S.settle environment context view).operation S.kind, operation.status ≠ .unknown := by
  intro operation ho hu
  cases S.visit context view with
  | passes hp =>
    rw [settle_operation_of_not_asks fun ha => ha.1 hp] at ho
    exact hview (hp.trans hsettled) operation ho hu
  | draws hd =>
    rw [settle_operation_of_not_asks fun ha => by cases hd.2.symm.trans ha.2.1] at ho
    cases hd.2.symm.trans (hexternal operation ho)
  | succeeded operation' ho' hs =>
    rw [settle_operation_of_not_asks fun ha => (ha.2.2 operation' ho').1 hs, ho'] at ho
    rw [← Option.some.inj ho, hs] at hu
    cases hu
  | leavesUnknown hl => exact hS.unknown_ne_settled ((outcome_of_leavesUnknown hl).symm.trans h)
  | asks ha =>
    rw [settle_operation_of_asks ha] at ho
    rw [← Option.some.inj ho, recorded_status_settled ((outcome_of_asks ha).symm.trans h)] at hu
    cases hu

/-- A walk keeps resolved what was: the status of a settled allocation is given by its own kind only. -/
theorem settle_views_resolved (hS : S.Lawful) (hsettled : S.settledStatus = S.kind.settledStatus)
    (hlabels : ∀ outcome (kind : SettlementKind), S.allocationStatus outcome = kind.settledStatus →
      kind = S.kind ∧ outcome = S.settled) {before after : Aggregate} (hbefore : before.Resolved)
    (hafter : after.allocations = before.allocations.map (S.settle environment context)) :
    after.Resolved := by
  constructor
  · intro view hv
    rw [hafter] at hv
    obtain ⟨view', hv', rfl⟩ := List.mem_map.mp hv
    exact settle_external (hbefore.external view' hv')
  · intro view hv kind hs
    rw [hafter] at hv
    obtain ⟨view', hv', rfl⟩ := List.mem_map.mp hv
    obtain ⟨rfl, houtcome⟩ := hlabels _ kind hs
    exact settle_resolved hS hsettled (hbefore.resolved view' hv' S.kind) (hbefore.external view' hv' S.kind)
      houtcome

end Settlement

theorem Aggregate.Resolved.of_confirmed {environment : Environment} {context : ProviderOperationContext}
    {before after : Aggregate} (hbefore : before.Resolved)
    (h : before.Confirmed environment context after) : after.Resolved :=
  Settlement.settle_views_resolved confirmation_lawful rfl
    (fun outcome kind => by cases outcome <;> cases kind <;> decide) hbefore h.allocations

theorem Aggregate.Resolved.of_released {environment : Environment} {context : ProviderOperationContext}
    {terminalStatus : ReservationStatusModel} {before after : Aggregate} (hbefore : before.Resolved)
    (h : before.Released environment context terminalStatus after) : after.Resolved :=
  Settlement.settle_views_resolved releasing_lawful rfl
    (fun outcome kind => by cases outcome <;> cases kind <;> decide) hbefore h.allocations

theorem Aggregate.Opened.resolved {environment : Environment} {reservation : Reservation}
    {done : List ReservationItemModel} {aggregate : Aggregate}
    (h : aggregate.Opened environment reservation done) : aggregate.Resolved := by
  have hfresh : ∀ view ∈ aggregate.allocations, ∀ kind, ∀ operation ∈ view.operation kind, False := by
    intro view hv kind operation ho
    rw [h.fresh view hv kind] at ho
    cases ho
  exact ⟨fun view hv kind operation ho => (hfresh view hv kind operation ho).elim,
    fun view hv kind _ operation ho => (hfresh view hv kind operation ho).elim⟩

theorem Aggregate.Created.resolved {environment : Environment} {reservation : Reservation}
    {exchanges : List Exchange} {held : Bool} {after : Aggregate}
    (h : Aggregate.Created environment reservation exchanges held after) : after.Resolved := by
  cases h with
  | held _ h => exact h.resolved
  | compensated before _ done hdone h hr => exact h.resolved.of_released hr

theorem System.maintains_resolved {sha256 : String → String} :
    Maintains sha256 (fun _ _ => True) Aggregate.Resolved where
  created _ _ _ hcreated := hcreated.resolved
  walked {database event walk before after} _ _ _ _ _ hresolved happlies _ := by
    obtain ⟨model, pass⟩ := walk
    cases pass with
    | confirm context => exact hresolved.of_confirmed happlies
    | release context terminalStatus => exact hresolved.of_released happlies

end InventoryReservation
