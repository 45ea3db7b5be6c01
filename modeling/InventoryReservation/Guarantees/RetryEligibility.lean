import InventoryReservation.Meaning.Calls
import InventoryReservation.System.Deployment

/-! # Which operations a reconciliation attempts

A reservation is selected for one operation that is due, and its walk then goes over all its
allocations: a sibling operation that has failed, or that is unknown but not due yet, is attempted as
well. The operations attempted are all due exactly if the batch has no such sibling.
-/

namespace InventoryReservation
set_option autoImplicit false

open Relational Transactional

/-- The operation is unknown, below the limit, and its next attempt may be made. -/
def ProviderOperationModel.Due (now : Instant) (maxAttempts : ℕ) (operation : ProviderOperationModel) :
    Prop :=
  operation.status = .unknown ∧ operation.attemptCount < maxAttempts ∧
    ∀ nextAttemptAt ∈ operation.nextAttemptAt, nextAttemptAt ≤ now

/-- The operation is over, or unknown with no attempts left. -/
def ProviderOperationModel.Rests (maxAttempts : ℕ) (operation : ProviderOperationModel) : Prop :=
  operation.status = .succeeded ∨ operation.status = .unknown ∧ maxAttempts ≤ operation.attemptCount

instance (now : Instant) (maxAttempts : ℕ) (operation : ProviderOperationModel) :
    Decidable (operation.Due now maxAttempts) :=
  inferInstanceAs (Decidable (_ ∧ _ ∧ ∀ nextAttemptAt ∈ operation.nextAttemptAt, _))

instance (maxAttempts : ℕ) (operation : ProviderOperationModel) :
    Decidable (operation.Rests maxAttempts) :=
  inferInstanceAs (Decidable (_ ∨ _))

/-- Every call of the reconciliation for an operation on record is one for an operation that was due. -/
def System.RetriesDue (sha256 : String → String) (environment : Environment) (limit maxAttempts : ℕ)
    (retryBaseDelay : Duration) (database : Database) : Prop :=
  ∀ entry ∈ (System.execute sha256 (.reconciling environment limit maxAttempts retryBaseDelay)
      database).exchanges,
    ∀ key ∈ entry.2.idempotencyKey?, ∀ operation ∈ database.operations.find? key,
      operation.Due environment.now maxAttempts

/-- The operations of the batch that a walk can come to are due, or nothing is left to attempt. -/
def Database.BatchDue (database : Database) (environment : Environment) (limit maxAttempts : ℕ) : Prop :=
  ∀ reservation ∈ database.reconcilableBatch environment limit maxAttempts,
    ∀ view ∈ database.allocationViews reservation.id, view.provider.kind = .external →
      view.allocation.status ≠ reservation.pursues.settledStatus →
        ∀ operation ∈ view.operation reservation.pursues,
          operation.Rests maxAttempts ∨ operation.Due environment.now maxAttempts

instance (sha256 : String → String) (environment : Environment) (limit maxAttempts : ℕ)
    (retryBaseDelay : Duration) (database : Database) :
    Decidable (System.RetriesDue sha256 environment limit maxAttempts retryBaseDelay database) :=
  inferInstanceAs (Decidable (∀ entry ∈ (System.execute sha256
    (.reconciling environment limit maxAttempts retryBaseDelay) database).exchanges, _))

/-- When the calls of a reconciliation are all for operations that were due. -/
structure System.RetriesDueIff (sha256 : String → String) (environment : Environment)
    (limit maxAttempts : ℕ) (retryBaseDelay : Duration) (database : Database) : Prop where
  suffices_due : database.BatchDue environment limit maxAttempts →
    System.RetriesDue sha256 environment limit maxAttempts retryBaseDelay database
  needs_due : (System.execute sha256 (.reconciling environment limit maxAttempts retryBaseDelay)
      database).result.isOk →
    System.RetriesDue sha256 environment limit maxAttempts retryBaseDelay database →
      database.BatchDue environment limit maxAttempts

/-! ## One operation -/

/-- The reconciliation leaves alone what rests, and nothing else. -/
theorem retry_asks_iff {reservationId : Uuid} {now : Instant} {maxAttempts : ℕ} {retryBaseDelay : Duration}
    {operation : ProviderOperationModel} :
    (operation.status ≠ .succeeded ∧
      ¬ (ProviderOperationContext.retry reservationId now maxAttempts retryBaseDelay).keepsUnknown
        operation) ↔ ¬ operation.Rests maxAttempts := by
  unfold ProviderOperationContext.keepsUnknown ProviderOperationModel.Rests ProviderOperationContext.retry
  simp

namespace System
variable {sha256 : String → String} {environment : Environment} {limit maxAttempts : ℕ}
  {retryBaseDelay : Duration} {database : Database}

/-- A batch of operations that are due or rest makes no other calls. -/
theorem retriesDue_of_batchDue (hwf : database.WellFormed)
    (h : database.BatchDue environment limit maxAttempts) :
    RetriesDue sha256 environment limit maxAttempts retryBaseDelay database := by
  intro entry he key hkey operation ho
  rcases execute_traced hwf entry he with ⟨walk, hw, before, hb, view, hv, hsent⟩ |
    ⟨userId, items, idempotencyKey, hrequest, -⟩
  · have hid := Event.walk_context hw
    obtain ⟨hr, hkind, hcontext⟩ := Database.mem_reconcileWalks hw
    obtain ⟨⟨hpasses, hexternal, hasks⟩, hsame⟩ := hsent.asked
    rw [hkind] at hpasses hasks hsame
    rw [Option.mem_def.mp hkey, hid] at hsame
    have hview : view.operation walk.reservation.pursues = some operation := by
      rw [Database.view_operation hb hv, ← Option.some.inj hsame]
      exact ho
    have hattempted := hasks operation hview
    rw [hcontext, retry_asks_iff] at hattempted
    rw [(Database.aggregate?_eq_some_iff.mp hb).2.2.1] at hv
    exact (h walk.reservation hr view hv hexternal hpasses operation hview).resolve_left hattempted
  · cases hrequest

/-- A reconciliation that returns has called for every operation that does not rest. -/
theorem batchDue_of_retriesDue (hsound : database.Sound)
    (hok : (execute sha256 (.reconciling environment limit maxAttempts retryBaseDelay)
      database).result.isOk)
    (h : RetriesDue sha256 environment limit maxAttempts retryBaseDelay database) :
    database.BatchDue environment limit maxAttempts := by
  intro reservation hr view hv hexternal hpasses operation ho
  rw [or_iff_not_imp_left]
  intro hrests
  obtain ⟨walk, hw, rfl⟩ := Database.exists_reconcileWalk retryBaseDelay hr
  obtain ⟨-, hkind, hcontext⟩ := Database.mem_reconcileWalks hw
  have hid : walk.pass.context.reservationId = walk.reservation.id :=
    congrArg ProviderOperationContext.reservationId hcontext
  have hwalkable := Event.walkable (.reconciling environment limit maxAttempts retryBaseDelay) database
  obtain ⟨result, t, hr', he⟩ := reservationTransaction_returned hok
  have hexchanges : (execute sha256 (.reconciling environment limit maxAttempts retryBaseDelay)
    database).exchanges = t.exchanges := congrArg TransactionOutcome.exchanges he
  have hwalked := reconcileBatch_makes.walks (s := .start database) hsound.wellFormed hwalkable result t hr'
  obtain ⟨before, -, hb, -, -, hanswered⟩ := hwalked.applied walk hw
  have hb : database.aggregate? walk.reservation.id = some before := hb
  rw [← (Database.aggregate?_eq_some_iff.mp hb).2.2.1] at hv
  rw [← hkind] at hpasses
  have hasks : walk.pass.asks view := by
    refine ⟨hpasses, hexternal, fun operation' ho' => ?_⟩
    rw [hkind, ho] at ho'
    rw [← Option.some.inj ho', hcontext]
    exact retry_asks_iff.mpr hrests
  obtain ⟨entry, he, hkey⟩ := (hanswered view hv).called hasks
  rw [hkind, hid] at hkey
  refine h entry (hexchanges ▸ he) _ hkey operation ?_
  rw [Option.mem_def, ← Database.view_operation hb hv]
  exact ho

/-! ## Runs -/

/-- In every state a run reaches, the calls of a reconciliation are for due operations if its batch is
due, and, when it returns, only then. -/
theorem run_retries_due {database : Database} (hinit : database.Initial) (events : List Event)
    (environment : Environment) (limit maxAttempts : ℕ) (retryBaseDelay : Duration) :
    RetriesDueIff sha256 environment limit maxAttempts retryBaseDelay (run sha256 database events) where
  suffices_due := retriesDue_of_batchDue (run_sound sha256 hinit events).wellFormed
  needs_due := batchDue_of_retriesDue (run_sound sha256 hinit events)

/-- A reservation of two external holds whose confirmation is unknown. -/
theorem run_retries_due_unknown :
    RetriesDueIff Deployment.sha256 (Deployment.environment 1200 0 50) 10 5 30
      (run Deployment.sha256 Deployment.database
        [Deployment.create 1000 100 0 [Deployment.line 2 20 1, Deployment.line 3 20 1] "a",
          Deployment.confirming .unknown (Deployment.confirm 1100 100 10)]) :=
  run_retries_due Deployment.initial _ _ _ _ _

/-- The first of two holds is not confirmed for now, the second has an unknown outcome: reconciling the
second attempts the failed operation of the first as well. -/
theorem reconcile_attempts_failed :
    ¬ ∀ (sha256 : String → String) (database : Database) (events : List Event) (environment : Environment)
      (limit maxAttempts : ℕ) (retryBaseDelay : Duration), database.Initial →
        RetriesDue sha256 environment limit maxAttempts retryBaseDelay (run sha256 database events) := by
  intro h
  have hrun := h Deployment.sha256 Deployment.database
    [Deployment.create 1000 100 0 [Deployment.line 2 20 1, Deployment.line 3 20 1] "a",
      { Deployment.confirm 1100 100 10 with
        environment :=
          { Deployment.environment 1100 100 10 with
            confirm := fun _ command =>
              if command.idempotencyKey = .confirm 100 1002 then .attempt .temporarilyUnavailable
              else .attempt .unknown } }]
    (Deployment.environment 1200 0 50) 10 5 30 Deployment.initial
  revert hrun
  decide +kernel

end System
end InventoryReservation
