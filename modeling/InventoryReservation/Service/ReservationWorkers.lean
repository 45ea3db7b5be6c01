import InventoryReservation.Service.ReservationService
import Mathlib.Algebra.Order.Ring.Rat
import Mathlib.Logic.Function.Basic

/-! # Workers

The expiration and the reconciliation worker repeat one transaction each. Their configurations reject
batches, attempt limits and delays that are not positive.
-/

namespace InventoryReservation
set_option autoImplicit false

structure ExpirationWorkerConfig where
  batchSize : ℕ
  batchSize_pos : 0 < batchSize

structure ReconciliationWorkerConfig where
  batchSize : ℕ
  maxAttempts : ℕ
  retryBaseDelay : Duration
  batchSize_pos : 0 < batchSize
  maxAttempts_pos : 0 < maxAttempts
  retryBaseDelay_pos : 0 < retryBaseDelay

def ReservationExpirationWorker.runOnce (config : ExpirationWorkerConfig) (environment : Environment)
    (database : Database) : TransactionOutcome (List Reservation) :=
  reservationTransaction (expireBatch environment config.batchSize) database

def ReservationReconciliationWorker.runOnce (config : ReconciliationWorkerConfig)
    (environment : Environment) (database : Database) : TransactionOutcome (List Reservation) :=
  reservationTransaction (reconcileBatch environment config.batchSize config.maxAttempts
    config.retryBaseDelay) database

/-! ## Loops

`run` is the same loop in both workers, around their `run_once`. It gives up control in two places: while
`run_once` is awaited, and while it waits for the stop event or the end of the poll interval. -/

/-- `ExpirationBatchSucceeded`, `ExpirationBatchFailed` and their namesakes. -/
inductive BatchObservation where
  | succeeded (reservations : List Reservation) (durationSeconds : ℚ)
  | failed (error : Failure) (durationSeconds : ℚ)

/-- `ExpirationWorkerRunSummary` and its namesake. -/
structure WorkerRunSummary where
  batchesProcessed : ℕ
  reservationsProcessed : ℕ
  batchesFailed : ℕ
  deriving DecidableEq

/-- Where a loop stands: at its head, in `stop_event.wait()`, or behind its end. -/
inductive LoopPhase where
  | looping
  | waiting
  | returned
  deriving DecidableEq, Repr

/-- A loop, with the local variables that make its summary and what it has given to its observer. -/
structure WorkerLoop where
  phase : LoopPhase
  summary : WorkerRunSummary
  observations : List BatchObservation

namespace WorkerLoop

def start : WorkerLoop := ⟨.looping, ⟨0, 0, 0⟩, []⟩

/-- The body of the loop after `run_once`, which took from `startedAt` to `endedAt`. -/
def conclude (batchSize : ℕ) (startedAt endedAt : ℚ) (loop : WorkerLoop) :
    Except Failure (List Reservation) → WorkerLoop
  | .error error =>
    { phase := .waiting
      summary := { loop.summary with batchesFailed := loop.summary.batchesFailed + 1 }
      observations := loop.observations ++ [.failed error (max 0 (endedAt - startedAt))] }
  | .ok reservations =>
    { phase := if reservations.length = batchSize then .looping else .waiting
      summary := { loop.summary with
        batchesProcessed := loop.summary.batchesProcessed + 1
        reservationsProcessed := loop.summary.reservationsProcessed + reservations.length }
      observations := loop.observations ++ [.succeeded reservations (max 0 (endedAt - startedAt))] }

end WorkerLoop

/-! ## Metrics -/

/-- The counters of `PrometheusExpirationWorkerObserver` and its namesake: batches by outcome, and
reservations by status. -/
structure WorkerMetrics where
  batchesSucceeded : ℕ
  batchesFailed : ℕ
  reservations : ReservationStatus → ℕ

namespace WorkerMetrics

def zero : WorkerMetrics := ⟨0, 0, fun _ => 0⟩

/-- `self._reservations.labels(status=..).inc()`. -/
def countReservation (metrics : WorkerMetrics) (reservation : Reservation) : WorkerMetrics :=
  { metrics with
    reservations := Function.update metrics.reservations reservation.status
      (metrics.reservations reservation.status + 1) }

def record (metrics : WorkerMetrics) : BatchObservation → WorkerMetrics
  | .succeeded reservations _ =>
    reservations.foldl countReservation { metrics with batchesSucceeded := metrics.batchesSucceeded + 1 }
  | .failed _ _ => { metrics with batchesFailed := metrics.batchesFailed + 1 }

end WorkerMetrics
end InventoryReservation
