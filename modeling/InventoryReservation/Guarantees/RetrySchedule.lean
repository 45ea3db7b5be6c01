import InventoryReservation.Guarantees.Draining
import InventoryReservation.System.Deployment

/-! # The retry schedule

The delay before the next attempt of an operation doubles with every attempt, and no configuration bounds
it, while intervals and instants are bounded. The schedule is right exactly as long as it stays in range,
and a batch is stopped by an unknown outcome whose next attempt does not.
-/

namespace InventoryReservation
set_option autoImplicit false

open Relational Transactional

/-! ## One attempt -/

namespace ReconciliationWorkerConfig
variable (config : ReconciliationWorkerConfig) (reservationId : Uuid) (now : Instant) (attemptCount : ℕ)

/-- The delay after an attempt with this number. -/
def delay : Duration := config.retryBaseDelay * 2 ^ (attemptCount - 2)

/-- What the repository computes for the reconciliation worker. -/
def nextAttemptAt : Except Failure (Option Instant) :=
  (ProviderOperationContext.retry reservationId now config.maxAttempts config.retryBaseDelay).nextAttemptAt
    attemptCount

/-- Neither the delay nor the instant after it is out of range. -/
structure InRange : Prop where
  delay : config.delay attemptCount ≤ Duration.longest
  instant : now + config.delay attemptCount ≤ Instant.last

/-- The next attempt is defined, lies in the future and after the delay, and the one after it, if that is
defined, lies twice as far. -/
def Scheduled : Prop :=
  ∃ next, config.nextAttemptAt reservationId now attemptCount = .ok (some next) ∧ now < next ∧
    next = now + config.retryBaseDelay * 2 ^ (attemptCount - 2) ∧
    ∀ later, config.nextAttemptAt reservationId now (attemptCount + 1) = .ok (some later) →
      later - now = 2 * (next - now)

instance : Decidable (config.InRange now attemptCount) :=
  decidable_of_iff (config.delay attemptCount ≤ Duration.longest ∧
    now + config.delay attemptCount ≤ Instant.last) ⟨fun h => ⟨h.1, h.2⟩, fun h => ⟨h.1, h.2⟩⟩

variable {config reservationId now attemptCount}

theorem delay_pos : 0 < config.delay attemptCount :=
  Int.mul_pos config.retryBaseDelay_pos (Int.pow_pos (by decide))

theorem delay_succ (h : 2 ≤ attemptCount) : config.delay (attemptCount + 1) = 2 * config.delay attemptCount := by
  unfold delay
  have hnumber : attemptCount + 1 - 2 = (attemptCount - 2) + 1 := by omega
  rw [hnumber, pow_succ]
  ring

theorem nextAttemptAt_eq : config.nextAttemptAt reservationId now attemptCount =
    if config.InRange now attemptCount then .ok (some (now + config.delay attemptCount))
    else .error .overflow := by
  unfold nextAttemptAt ProviderOperationContext.nextAttemptAt ProviderOperationContext.retry
  dsimp only
  by_cases hdelay : Duration.longest < config.delay attemptCount
  · rw [if_neg fun h : config.InRange now attemptCount => absurd h.delay (not_le.mpr hdelay)]
    exact if_pos hdelay
  · refine (if_neg hdelay).trans ?_
    by_cases hinstant : Instant.last < now + config.delay attemptCount
    · rw [if_neg fun h : config.InRange now attemptCount => absurd h.instant (not_le.mpr hinstant)]
      exact if_pos hinstant
    · rw [if_pos (⟨not_lt.mp hdelay, not_lt.mp hinstant⟩ : config.InRange now attemptCount)]
      exact if_neg hinstant

theorem nextAttemptAt_ok_iff {next : Option Instant} :
    config.nextAttemptAt reservationId now attemptCount = .ok next ↔
      config.InRange now attemptCount ∧ next = some (now + config.delay attemptCount) := by
  rw [nextAttemptAt_eq]
  by_cases h : config.InRange now attemptCount
  · rw [if_pos h, Except.ok.injEq]
    exact ⟨fun he => ⟨h, he.symm⟩, fun he => he.2.symm⟩
  · rw [if_neg h]
    exact ⟨fun he => (by cases he), fun he => absurd he.1 h⟩

theorem scheduled_iff (h : 2 ≤ attemptCount) :
    config.Scheduled reservationId now attemptCount ↔ config.InRange now attemptCount := by
  constructor
  · rintro ⟨next, hnext, -⟩
    exact (nextAttemptAt_ok_iff.mp hnext).1
  · intro hrange
    refine ⟨now + config.delay attemptCount, nextAttemptAt_ok_iff.mpr ⟨hrange, rfl⟩,
      lt_add_of_pos_right now delay_pos, rfl, ?_⟩
    intro later hlater
    obtain ⟨-, hlater⟩ := nextAttemptAt_ok_iff.mp hlater
    rw [Option.some.inj hlater, delay_succ h]
    ring

end ReconciliationWorkerConfig

/-! ## One batch -/

/-- The provider leaves the outcome for this allocation unknown, on an attempt with this number. -/
def Pass.AnsweredUnknown (environment : Environment) (view : AllocationView) (attemptCount : ℕ) : Pass → Prop
  | confirm context => confirmation.gets environment context view confirmation.unknown ∧
      (confirmation.inProgress context view).attemptCount = attemptCount
  | release context _ => releasing.gets environment context view releasing.unknown ∧
      (releasing.inProgress context view).attemptCount = attemptCount

/-- An attempt of the batch with this number is left unknown. -/
def ReconciliationWorkerConfig.LeftUnknown (config : ReconciliationWorkerConfig) (environment : Environment)
    (database : Database) (attemptCount : ℕ) : Prop :=
  ∃ walk ∈ ((Worker.reconciliation config).round environment).walks database,
    ∃ view ∈ database.allocationViews walk.reservation.id,
      walk.pass.AnsweredUnknown environment view attemptCount

/-- The failure is the overflow only in this case. -/
def OverflowOnlyIf (p : Prop) (failure : Failure) : Prop := failure = .overflow → p

instance (p : Prop) : AdmitsOrdinary (OverflowOnlyIf p) where
  of_ordinary failure h he := by
    rw [he] at h
    cases h

section Batch
variable {config : ReconciliationWorkerConfig} {environment : Environment} {database : Database}

theorem Pass.overflows_iff {pass : Pass} {reservationId : Uuid} {now : Instant} {view : AllocationView}
    (hcontext : pass.context = .retry reservationId now config.maxAttempts config.retryBaseDelay) :
    pass.Overflows environment view ↔
      ∃ attemptCount, pass.AnsweredUnknown environment view attemptCount ∧
        ¬ config.InRange now attemptCount := by
  have hnext : ∀ attemptCount, pass.context.nextAttemptAt attemptCount = .error .overflow ↔
      ¬ config.InRange now attemptCount := by
    intro attemptCount
    rw [hcontext]
    change config.nextAttemptAt reservationId now attemptCount = _ ↔ _
    rw [ReconciliationWorkerConfig.nextAttemptAt_eq]
    by_cases h : config.InRange now attemptCount <;> simp [h]
  cases pass with
  | confirm context =>
    constructor
    · exact fun h => ⟨_, ⟨h.1, rfl⟩, (hnext _).mp h.2⟩
    · rintro ⟨attemptCount, ⟨hgets, rfl⟩, h⟩
      exact ⟨hgets, (hnext _).mpr h⟩
  | release context terminalStatus =>
    constructor
    · exact fun h => ⟨_, ⟨h.1, rfl⟩, (hnext _).mp h.2⟩
    · rintro ⟨attemptCount, ⟨hgets, rfl⟩, h⟩
      exact ⟨hgets, (hnext _).mpr h⟩

theorem ReconciliationWorkerConfig.overflowsIn_iff (config : ReconciliationWorkerConfig)
    (environment : Environment) (database : Database) :
    OverflowsIn environment (((Worker.reconciliation config).round environment).walks database) database ↔
      ∃ attemptCount, config.LeftUnknown environment database attemptCount ∧
        ¬ config.InRange environment.now attemptCount := by
  constructor
  · rintro ⟨walk, hwalk, before, hb, view, hv, hlate⟩
    have hcontext := (Database.mem_reconcileWalks hwalk).2.2
    obtain ⟨attemptCount, hunknown, hrange⟩ := (Pass.overflows_iff hcontext).mp hlate
    rw [(Database.aggregate?_eq_some_iff.mp hb).2.2.1] at hv
    exact ⟨attemptCount, ⟨walk, hwalk, view, hv, hunknown⟩, hrange⟩
  · rintro ⟨attemptCount, ⟨walk, hwalk, view, hv, hunknown⟩, hrange⟩
    have hcontext := (Database.mem_reconcileWalks hwalk).2.2
    exact ⟨walk, hwalk, ⟨walk.reservation, _, _, _⟩,
      Database.aggregate?_eq_some_iff.mpr ⟨(Event.occasion hwalk).2, rfl, rfl, rfl⟩, view, hv,
      (Pass.overflows_iff hcontext).mpr ⟨attemptCount, hunknown, hrange⟩⟩

/-- Only an attempt that cannot be scheduled stops a batch with an overflow. -/
theorem ReconciliationWorkerConfig.overflowsIn_of_overflow (hwf : database.WellFormed)
    (h : (ReservationReconciliationWorker.runOnce config environment database).result = .error .overflow) :
    OverflowsIn environment (((Worker.reconciliation config).round environment).walks database) database := by
  rcases databaseTransaction_cases (reconcileBatch environment config.batchSize config.maxAttempts
    config.retryBaseDelay) database with ⟨result, t, -, he⟩ | ⟨failure, t, hr, he⟩
  · unfold ReservationReconciliationWorker.runOnce reservationTransaction at h
    rw [he] at h
    cases h
  · unfold ReservationReconciliationWorker.runOnce reservationTransaction at h
    rw [he] at h
    have hfailure : translateFailure failure = .overflow := Except.error.inj h
    have hstops := reconcileBatch_stops (E := OverflowOnlyIf (OverflowsIn environment
      (((Worker.reconciliation config).round environment).walks database) database))
      (s := .start database) hwf rfl fun hlate _ => hlate
    refine (hstops.of_error hr).2 ?_
    unfold translateFailure at hfailure
    split at hfailure
    · cases hfailure
    · exact hfailure

/-- Recorded as it is, an outcome that overflows is unknown and has no next attempt. -/
theorem Settlement.settle_of_overflows {ω : Type} [DecidableEq ω] {S : Settlement ω}
    {context : ProviderOperationContext} {view : AllocationView} (hS : S.Lawful)
    (h : S.overflows environment context view) :
    S.asks context view ∧ ∃ operation, (S.settle environment context view).operation S.kind = some operation ∧
      operation.status = .unknown ∧ operation.nextAttemptAt = none := by
  obtain ⟨hgets, hnext⟩ := h
  have hanswer : S.answer environment context view = S.unknown := answer_of_gets hgets
  refine ⟨hgets.1, _, settle_operation_of_asks hgets.1, ?_⟩
  unfold recorded
  dsimp only
  rw [hanswer, if_neg hS.unknown_ne_settled, if_pos rfl]
  exact ⟨rfl, by rw [hnext]; rfl⟩

theorem Pass.settle_of_overflows {pass : Pass} {view : AllocationView} (h : pass.Overflows environment view) :
    pass.asks view ∧ ∃ operation, (pass.settle environment view).operation pass.kind = some operation ∧
      operation.status = .unknown ∧ operation.nextAttemptAt = none := by
  cases pass with
  | confirm context => exact Settlement.settle_of_overflows confirmation_lawful h
  | release context terminalStatus => exact Settlement.settle_of_overflows releasing_lawful h

/-- A batch with an attempt that cannot be scheduled does not return. -/
theorem ReconciliationWorkerConfig.not_returns_of_overflowsIn (hwf : database.WellFormed)
    (h : OverflowsIn environment (((Worker.reconciliation config).round environment).walks database) database) :
    ¬ (ReservationReconciliationWorker.runOnce config environment database).result.isOk := by
  intro hok
  obtain ⟨walk, hwalk, before, hb, view, hv, hlate⟩ := h
  obtain ⟨t, hruns⟩ : ∃ t, forEach (Walk.run environment)
      (((Worker.reconciliation config).round environment).walks database) (.start database) = .ok () t := by
    rcases databaseTransaction_cases (reconcileBatch environment config.batchSize config.maxAttempts
      config.retryBaseDelay) database with ⟨result, t, hr, -⟩ | ⟨failure, t, -, he⟩
    · exact ⟨t, reconcileBatch_makes result t hr⟩
    · unfold ReservationReconciliationWorker.runOnce reservationTransaction at hok
      rw [he] at hok
      cases hok
  have hwalked := walks_ok (s := .start database) hwf (Event.walkable _ database) hruns
  have hreschedules : Reschedules environment.now (.start database) t :=
    (reschedules_composes environment.now).forEach (fun walk hw =>
      Walk.reschedules config.retryBaseDelay_pos (Database.mem_reconcileWalks hw).2.2) _ _ _ hruns
  obtain ⟨before', after, hb', ha, hpass, -⟩ := hwalked.applied walk hwalk
  cases hb.symm.trans hb'
  obtain ⟨hasks, operation, ho, hu, hnone⟩ := Pass.settle_of_overflows hlate
  have hv' : walk.pass.settle environment view ∈ after.allocations := by
    rw [hpass.allocations]
    exact List.mem_map_of_mem hv
  have hstored := Database.view_operation ha hv' walk.pass.kind
  rw [ho, Pass.settle_id] at hstored
  rcases hreschedules.later _ operation hstored.symm hu with hsame | ⟨next, hnext, -⟩
  · have hbefore : view.operation walk.pass.kind = some operation :=
      (Database.view_operation hb hv walk.pass.kind).trans hsame
    have hcounted := Pass.attemptCount_of_asks hasks hbefore ho
    omega
  · rw [hnone] at hnext
    cases hnext

end Batch

/-- The schedule of an attempt is right exactly if it is in range. A batch fails with an overflow only if
it has an unknown outcome whose next attempt is not in range, and it never returns if it has one. -/
theorem retry_schedule_iff (sha256 : String → String) {database : Database} (hinit : database.Initial)
    (events : List Event) (config : ReconciliationWorkerConfig) (environment : Environment) :
    (∀ reservationId attemptCount, 2 ≤ attemptCount →
      (config.Scheduled reservationId environment.now attemptCount ↔
        config.InRange environment.now attemptCount)) ∧
    ((ReservationReconciliationWorker.runOnce config environment
        (System.run sha256 database events)).result = .error .overflow →
      ∃ attemptCount, config.LeftUnknown environment (System.run sha256 database events) attemptCount ∧
        ¬ config.InRange environment.now attemptCount) ∧
    ((∃ attemptCount, config.LeftUnknown environment (System.run sha256 database events) attemptCount ∧
        ¬ config.InRange environment.now attemptCount) →
      ¬ (ReservationReconciliationWorker.runOnce config environment
        (System.run sha256 database events)).result.isOk) := by
  have hwf := (System.run_sound sha256 hinit events).wellFormed
  refine ⟨fun reservationId attemptCount h => config.scheduled_iff h, ?_, ?_⟩
  · intro h
    exact (config.overflowsIn_iff _ _).mp (ReconciliationWorkerConfig.overflowsIn_of_overflow hwf h)
  · intro h
    exact ReconciliationWorkerConfig.not_returns_of_overflowsIn hwf ((config.overflowsIn_iff _ _).mpr h)

/-! ## A batch that overflows -/

namespace Deployment

/-- Ten thousand years before the next attempt. -/
def patient : ReconciliationWorkerConfig where
  batchSize := 10
  maxAttempts := 5
  retryBaseDelay := 315360000000000000
  batchSize_pos := by decide
  maxAttempts_pos := by decide
  retryBaseDelay_pos := by decide

/-- A hold whose confirmation was left unknown once. -/
def leftUnknown : List Event :=
  [create 1000 100 63870000000000000 [line 2 20 1] "key",
    confirming .unknown (confirm 1100 100 63870000000000010)]

/-- The supplier still does not know, in the year 2024. -/
def unsettled : Environment := (confirming .unknown (reconcile 1200 63870000000000020)).environment

end Deployment

theorem retry_schedule_iff_patient :
    (Deployment.patient.Scheduled 100 Deployment.unsettled.now 2 ↔
      Deployment.patient.InRange Deployment.unsettled.now 2) ∧
    ((ReservationReconciliationWorker.runOnce Deployment.patient Deployment.unsettled
        (System.run Deployment.sha256 Deployment.database Deployment.leftUnknown)).result = .error .overflow →
      ∃ attemptCount, Deployment.patient.LeftUnknown Deployment.unsettled
        (System.run Deployment.sha256 Deployment.database Deployment.leftUnknown) attemptCount ∧
          ¬ Deployment.patient.InRange Deployment.unsettled.now attemptCount) := by
  have h := retry_schedule_iff Deployment.sha256 Deployment.initial Deployment.leftUnknown Deployment.patient
    Deployment.unsettled
  exact ⟨h.1 100 2 (by decide), h.2.1⟩

/-- In the year 2024 a second attempt is out of range, and the batch that makes it fails. -/
theorem patient_retry_overflows :
    Deployment.unsettled.now < 66238041600000000 ∧ 2 ≤ Deployment.patient.maxAttempts ∧
    Deployment.patient.nextAttemptAt 100 Deployment.unsettled.now 2 = .error .overflow ∧
    (ReservationReconciliationWorker.runOnce Deployment.patient Deployment.unsettled
      (System.run Deployment.sha256 Deployment.database Deployment.leftUnknown)).result =
        .error .overflow := by
  refine ⟨by decide, by decide, by decide, ?_⟩
  decide +kernel

end InventoryReservation
