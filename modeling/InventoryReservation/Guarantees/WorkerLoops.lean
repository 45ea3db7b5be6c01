import InventoryReservation.Guarantees.Draining
import InventoryReservation.Guarantees.ExpiryAccounting

/-! # Worker loops

A worker goes on without a pause as long as its batches are full, and pauses after any other batch. With
nobody else at work it pauses exactly when nothing is left to process.
-/

namespace InventoryReservation
set_option autoImplicit false

open Relational Transactional

namespace Worker

def batchSize : Worker → ℕ
  | expiration config => config.batchSize
  | reconciliation config => config.batchSize

theorem batchSize_pos (worker : Worker) : 0 < worker.batchSize := by
  cases worker with
  | expiration config => exact config.batchSize_pos
  | reconciliation config => exact config.batchSize_pos

end Worker

instance (sha256 : String → String) (event : Event) (database : Database) :
    Decidable (System.Returns sha256 event database) :=
  inferInstanceAs (Decidable ((System.execute sha256 event database).result.isOk = true))

/-! ## A loop among others -/

/-- The committed database, the stop event, and the loop of a worker. -/
structure WorkerProcess where
  database : Database
  stopEvent : Bool
  loop : WorkerLoop

/-- What happens: a request of anyone else, a turn of the loop, `stop_event.set()`, or the end of a wait. -/
inductive WorkerMove where
  | request (event : Event)
  | turn (environment : Environment) (startedAt endedAt : ℚ)
  | stop
  | wake

namespace WorkerProcess

def start (database : Database) : WorkerProcess := ⟨database, false, .start⟩

section Steps
variable (sha256 : String → String) (worker : Worker)

/-- A pass of the loop: leave if the stop event is set, else run once and conclude. -/
def turn (process : WorkerProcess) (environment : Environment) (startedAt endedAt : ℚ) : WorkerProcess :=
  if process.stopEvent then { process with loop := { process.loop with phase := .returned } }
  else
    let outcome := worker.runOnce environment process.database
    { process with
      database := outcome.database
      loop := process.loop.conclude worker.batchSize startedAt endedAt outcome.result }

def step (process : WorkerProcess) : WorkerMove → WorkerProcess
  | .request event => { process with database := System.step sha256 process.database event }
  | .turn environment startedAt endedAt =>
    if process.loop.phase = .looping then process.turn worker environment startedAt endedAt else process
  | .stop => { process with stopEvent := true }
  | .wake =>
    if process.loop.phase = .waiting then { process with loop := { process.loop with phase := .looping } }
    else process

abbrev run (process : WorkerProcess) (moves : List WorkerMove) : WorkerProcess :=
  Runs.run (step sha256 worker) process moves

end Steps
end WorkerProcess

/-! ## What one round processes -/

section Rounds
variable {sha256 : String → String} {worker : Worker} {environment : Environment} {database : Database}

theorem Database.length_lockBatch {limit : ℕ} {condition : ReservationModel → Bool}
    {sortKey : ReservationModel → Instant} (hunlocked : ∀ r, environment.lockedByOthers r = false) :
    (database.lockBatch environment limit condition sortKey).length =
      min limit (database.reservations.rows.filter condition).length := by
  unfold lockBatch
  simp only [hunlocked, Bool.not_false, Bool.and_true]
  rw [List.length_take, List.length_insertionSort]

theorem Worker.length_batch (hunlocked : ∀ r, environment.lockedByOthers r = false) :
    (worker.batch environment database).length =
      min worker.batchSize (worker.eligible environment.now database).length := by
  cases worker with
  | expiration config => exact Database.length_lockBatch hunlocked
  | reconciliation config => exact Database.length_lockBatch hunlocked

theorem Worker.batch_nodup (worker : Worker) (environment : Environment) (database : Database) :
    ((worker.batch environment database).map ReservationModel.id).Nodup := by
  cases worker with
  | expiration config => exact database.lockBatch_nodup environment _ _ _
  | reconciliation config => exact database.lockBatch_nodup environment _ _ _

/-- The reservations a round has walked over are still stored. -/
theorem Worker.stored_of_batch (worker : Worker) {t : Session} (hwf : database.WellFormed)
    (hruns : forEach (Walk.run environment) ((worker.round environment).walks database) (.start database) =
      .ok () t) :
    ∀ reservation ∈ worker.batch environment database,
      (t.database.reservations.find? reservation.id).isSome := by
  intro reservation hr
  obtain ⟨walk, hw, rfl⟩ := worker.exists_walk hr
  obtain ⟨before, after, -, hafter, -⟩ := (walks_ok (s := .start database) hwf
    (Event.walkable (worker.round environment) database) hruns).applied walk hw
  exact Option.isSome_iff_exists.mpr ⟨_, (Database.aggregate?_eq_some_iff.mp hafter).1⟩

/-- A round that returns answers with what it has processed. -/
theorem Worker.returned_batch (hwf : database.WellFormed)
    (hreturns : System.Returns sha256 (worker.round environment) database) :
    ∃ processed, (worker.runOnce environment database).result = .ok processed ∧
      processed.map Reservation.id = (worker.batch environment database).map ReservationModel.id := by
  cases worker with
  | expiration config =>
    obtain ⟨processed, t, hr, he⟩ := reservationTransaction_returned hreturns
    have hstored := Worker.stored_of_batch (.expiration config) hwf
      (expireBatch_makes (s := .start database) processed t hr)
    have hrun : reservationTransaction (expireBatch environment config.batchSize) database = _ :=
      reservationTransaction_of_ok hr
    refine ⟨processed, congrArg TransactionOutcome.result hrun, ?_⟩
    rw [expireBatch, readDatabase_bind] at hr
    obtain ⟨_, v, -, h⟩ := bind_ok_iff.mp hr
    cases toDomainBatch_ok h
    exact toDomainBatch_ids hstored h
  | reconciliation config =>
    obtain ⟨processed, t, hr, he⟩ := reservationTransaction_returned hreturns
    have hstored := Worker.stored_of_batch (.reconciliation config) hwf
      (reconcileBatch_makes (s := .start database) processed t hr)
    have hrun : reservationTransaction (reconcileBatch environment config.batchSize config.maxAttempts
      config.retryBaseDelay) database = _ := reservationTransaction_of_ok hr
    refine ⟨processed, congrArg TransactionOutcome.result hrun, ?_⟩
    rw [reconcileBatch, readDatabase_bind] at hr
    obtain ⟨_, v, -, h⟩ := bind_ok_iff.mp hr
    cases toDomainBatch_ok h
    exact toDomainBatch_ids hstored h

/-- What was to be selected and is not in the batch is to be selected afterwards. -/
theorem Worker.round_spares (hsteady : database.Steady)
    (hreturns : System.Returns sha256 (worker.round environment) database) {reservation : ReservationModel}
    (hr : reservation ∈ worker.eligible environment.now database)
    (houtside : ∀ processed ∈ worker.batch environment database, processed.id ≠ reservation.id) :
    reservation ∈ worker.eligible environment.now (System.step sha256 database (worker.round environment)) := by
  obtain ⟨t, hruns, hstep⟩ := worker.returned hreturns
  have hwf : (System.step sha256 database (worker.round environment)).WellFormed :=
    (hsteady.step (worker.round environment)).sound.wellFormed
  have hwalked := walks_ok (s := .start database) hsteady.sound.wellFormed
    (Event.walkable (worker.round environment) database) hruns
  obtain ⟨hfound, hselects⟩ := Worker.mem_eligible.mp hr
  have hbefore : database.aggregate? reservation.id = some ⟨reservation, _, _, _⟩ :=
    Database.aggregate?_eq_some_iff.mpr ⟨hfound, rfl, rfl, rfl⟩
  have hothers : ∀ walk ∈ (worker.round environment).walks database, walk.reservation.id ≠ reservation.id := by
    intro walk hw
    have hmem : walk.reservation ∈ worker.batch environment database := by
      cases worker with
      | expiration config =>
        obtain ⟨processed, hp, rfl⟩ := List.mem_map.mp hw
        exact hp
      | reconciliation config => exact (Database.mem_reconcileWalks hw).1
    exact houtside walk.reservation hmem
  rw [hstep] at hwf ⊢
  have hafter : t.database.aggregate? reservation.id = some ⟨reservation, _, _, _⟩ :=
    (hwalked.others reservation.id hothers).trans hbefore
  refine Worker.mem_eligible.mpr ⟨(Database.aggregate?_eq_some_iff.mp hafter).1, ?_⟩
  cases worker with
  | expiration config => exact hselects
  | reconciliation config =>
    exact (Database.reconcilable_iff hwf hafter).mpr
      ((Database.reconcilable_iff hsteady.sound.wellFormed hbefore).mp hselects)

/-- A round that returns takes its batch out of what is eligible, and nothing else. -/
theorem Worker.length_eligible (hsteady : database.Steady)
    (hreturns : System.Returns sha256 (worker.round environment) database) :
    (worker.eligible environment.now (System.step sha256 database (worker.round environment))).length +
      (worker.batch environment database).length = (worker.eligible environment.now database).length := by
  have hperm : ((worker.eligible environment.now (System.step sha256 database (worker.round environment))).map
      ReservationModel.id ++ (worker.batch environment database).map ReservationModel.id).Perm
        ((worker.eligible environment.now database).map ReservationModel.id) := by
    refine (List.perm_ext_iff_of_nodup ?_ (worker.eligible_nodup _ _)).mpr fun r => ?_
    · refine List.nodup_append.mpr ⟨worker.eligible_nodup _ _, worker.batch_nodup _ _, ?_⟩
      rintro r hr r' hr' rfl
      obtain ⟨reservation, hmem, rfl⟩ := List.mem_map.mp hr
      obtain ⟨processed, hp, he⟩ := List.mem_map.mp hr'
      obtain ⟨hf, hs⟩ := Worker.mem_eligible.mp hmem
      exact (worker.round_selects hsteady hreturns hf hs).1 processed hp he
    · rw [List.mem_append]
      constructor
      · rintro (hr | hr)
        · obtain ⟨reservation, hmem, rfl⟩ := List.mem_map.mp hr
          obtain ⟨hf, hs⟩ := Worker.mem_eligible.mp hmem
          obtain ⟨-, before, hb, hs'⟩ := worker.round_selects hsteady hreturns hf hs
          have hid : before.id = reservation.id := Table.key_of_find? hb
          rw [← hid] at hb ⊢
          exact List.mem_map_of_mem (Worker.mem_eligible.mpr ⟨hb, hs'⟩)
        · obtain ⟨processed, hp, rfl⟩ := List.mem_map.mp hr
          exact List.mem_map_of_mem (Worker.mem_eligible_of_batch hp)
      · intro hr
        obtain ⟨reservation, hmem, rfl⟩ := List.mem_map.mp hr
        by_cases hbatch : reservation.id ∈ (worker.batch environment database).map ReservationModel.id
        · exact Or.inr hbatch
        · refine Or.inl (List.mem_map_of_mem (worker.round_spares hsteady hreturns hmem fun processed hp he => ?_))
          exact hbatch (List.mem_map.mpr ⟨processed, hp, he⟩)
  have hlength := hperm.length_eq
  rw [List.length_append, List.length_map, List.length_map, List.length_map] at hlength
  exact hlength

/-- What a round commits, whether it returns or not. -/
theorem Worker.runOnce_database (sha256 : String → String) (worker : Worker) (environment : Environment)
    (database : Database) : (worker.runOnce environment database).database =
      System.step sha256 database (worker.round environment) := by
  rw [System.step, Worker.execute_round]
  rfl

end Rounds

/-! ## Turns of the loop -/

namespace WorkerProcess
variable {sha256 : String → String} {worker : Worker} {now : Instant} {process : WorkerProcess}

/-- Ready for the next turn. -/
structure Ready (process : WorkerProcess) : Prop where
  steady : process.database.Steady
  goesOn : process.stopEvent = false
  looping : process.loop.phase = .looping

/-- A turn at this instant that returns, with no lock held by anyone else. -/
def Undisturbed (sha256 : String → String) (worker : Worker) (now : Instant) (process : WorkerProcess) :
    WorkerMove → Prop
  | .request _ => False
  | .turn environment _ _ => System.Undisturbed sha256 worker now process.database (worker.round environment)
  | .stop => False
  | .wake => False

/-- Between two moments the loop has made this many turns, which processed this many reservations. -/
structure Advances (process process' : WorkerProcess) (batches reservations : ℕ) : Prop where
  batches : process'.loop.summary.batchesProcessed = process.loop.summary.batchesProcessed + batches
  reservations : process'.loop.summary.reservationsProcessed =
    process.loop.summary.reservationsProcessed + reservations
  failed : process'.loop.summary.batchesFailed = process.loop.summary.batchesFailed

theorem Advances.trans {process' process'' : WorkerProcess} {b n b' n' : ℕ} (h : Advances process process' b n)
    (h' : Advances process' process'' b' n') : Advances process process'' (b + b') (n + n') where
  batches := by rw [h'.batches, h.batches, Nat.add_assoc]
  reservations := by rw [h'.reservations, h.reservations, Nat.add_assoc]
  failed := by rw [h'.failed, h.failed]

/-- An undisturbed turn takes a batch, and goes on without a pause if it was a full one. -/
theorem Ready.turn (hready : process.Ready) {move : WorkerMove}
    (hmove : Undisturbed sha256 worker now process move) :
    let process' := process.step sha256 worker move
    let eligible := (worker.eligible now process.database).length
    Advances process process' 1 (min worker.batchSize eligible) ∧
      process'.database.Steady ∧ process'.stopEvent = false ∧
      (worker.eligible now process'.database).length + min worker.batchSize eligible = eligible ∧
      process'.loop.phase = if worker.batchSize ≤ eligible then .looping else .waiting := by
  intro process' eligible
  cases move with
  | request event => exact hmove.elim
  | stop => exact hmove.elim
  | wake => exact hmove.elim
  | turn environment startedAt endedAt =>
    obtain ⟨-, hnow, hunlocked, hreturns⟩ := hmove
    have hnow : environment.now = now := hnow
    subst hnow
    obtain ⟨processed, hresult, hids⟩ := Worker.returned_batch hready.steady.sound.wellFormed hreturns
    have hlength : processed.length = min worker.batchSize eligible := by
      have hsame := congrArg List.length hids
      rw [List.length_map, List.length_map, Worker.length_batch hunlocked] at hsame
      exact hsame
    have hprocess : process' =
        ⟨System.step sha256 process.database (worker.round environment), false,
          process.loop.conclude worker.batchSize startedAt endedAt (.ok processed)⟩ := by
      change process.step sha256 worker (.turn environment startedAt endedAt) = _
      rw [step, if_pos hready.looping, WorkerProcess.turn, hready.goesOn, if_neg Bool.false_ne_true]
      dsimp only
      rw [hresult, Worker.runOnce_database sha256]
    rw [hprocess]
    refine ⟨⟨rfl, ?_, rfl⟩, hready.steady.step _, rfl, ?_, ?_⟩
    · rw [← hlength]
      rfl
    · rw [← Worker.length_batch hunlocked]
      exact Worker.length_eligible hready.steady hreturns
    · change (if processed.length = worker.batchSize then LoopPhase.looping else .waiting) = _
      rw [hlength]
      refine if_congr ?_ rfl rfl
      rw [min_eq_left_iff]

/-- The turns have processed what was there, without a pause before the last of them and with one after it. -/
structure Drained (sha256 : String → String) (worker : Worker) (now : Instant) (process : WorkerProcess)
    (turns : List WorkerMove) : Prop where
  advances : Advances process (process.run sha256 worker turns) turns.length
    (worker.eligible now process.database).length
  empty : worker.eligible now (process.run sha256 worker turns).database = []
  waits : (process.run sha256 worker turns).loop.phase = .waiting
  unbroken : ∀ earlier later, turns = earlier ++ later → later ≠ [] →
    (process.run sha256 worker earlier).loop.phase = .looping

theorem Ready.drained (hready : process.Ready) {turns : List WorkerMove}
    (hturns : Runs.Admissible (step sha256 worker) (Undisturbed sha256 worker now) process turns)
    (hlength : turns.length = (worker.eligible now process.database).length / worker.batchSize + 1) :
    Drained sha256 worker now process turns := by
  induction turns generalizing process with
  | nil => exact absurd hlength (Nat.zero_ne_add_one _)
  | cons move turns ih =>
    obtain ⟨hmove, hturns⟩ := hturns
    obtain ⟨hadvances, hsteady, hgoesOn, heligible, hphase⟩ := hready.turn hmove
    rw [List.length_cons] at hlength
    by_cases hfull : worker.batchSize ≤ (worker.eligible now process.database).length
    · rw [if_pos hfull] at hphase
      rw [Nat.min_eq_left hfull] at heligible hadvances
      have hquotient : (worker.eligible now process.database).length / worker.batchSize =
          (worker.eligible now (process.step sha256 worker move).database).length / worker.batchSize + 1 := by
        rw [← heligible, Nat.add_div_right _ worker.batchSize_pos]
      have hrest := ih ⟨hsteady, hgoesOn, hphase⟩ hturns (by omega)
      refine ⟨?_, hrest.empty, hrest.waits, ?_⟩
      · have htotal := hadvances.trans hrest.advances
        rw [Nat.add_comm worker.batchSize, heligible, Nat.add_comm 1] at htotal
        exact htotal
      · intro earlier later he hlater
        cases earlier with
        | nil => exact hready.looping
        | cons first earlier =>
          obtain ⟨rfl, rfl⟩ := List.cons_eq_cons.mp he
          exact hrest.unbroken earlier later rfl hlater
    · rw [if_neg hfull] at hphase
      rw [Nat.min_eq_right (Nat.le_of_not_le hfull)] at heligible hadvances
      have hnone : turns = [] := by
        rw [Nat.div_eq_of_lt (Nat.lt_of_not_le hfull)] at hlength
        exact List.length_eq_zero_iff.mp (by omega)
      subst hnone
      refine ⟨hadvances, List.length_eq_zero_iff.mp (by simpa using heligible), hphase, ?_⟩
      intro earlier later he hlater
      cases earlier with
      | nil => exact hready.looping
      | cons first earlier =>
        obtain ⟨-, he⟩ := List.cons_eq_cons.mp he
        exact absurd (List.append_eq_nil_iff.mp he.symm).2 hlater

/-- The database of a process is always one that requests have led to. -/
theorem steady_step (hsteady : process.database.Steady) (move : WorkerMove) :
    (process.step sha256 worker move).database.Steady := by
  cases move with
  | request event => exact hsteady.step event
  | stop => exact hsteady
  | wake =>
    rw [step]
    split <;> exact hsteady
  | turn environment startedAt endedAt =>
    rw [step]
    split
    · unfold WorkerProcess.turn
      split
      · exact hsteady
      · dsimp only
        rw [Worker.runOnce_database sha256]
        exact hsteady.step _
    · exact hsteady

/-- From wherever a loop is about to take its next turn, in every interleaving. -/
theorem run_drained {database : Database} (hinit : database.Initial) (worker : Worker) (now : Instant)
    (moves turns : List WorkerMove)
    (hgoesOn : ((start database).run sha256 worker moves).stopEvent = false)
    (hlooping : ((start database).run sha256 worker moves).loop.phase = .looping)
    (hturns : Runs.Admissible (step sha256 worker) (Undisturbed sha256 worker now)
      ((start database).run sha256 worker moves) turns)
    (hlength : turns.length = (worker.eligible now
      ((start database).run sha256 worker moves).database).length / worker.batchSize + 1) :
    Drained sha256 worker now ((start database).run sha256 worker moves) turns := by
  have hinitial : (System.run sha256 database []).Steady := .of_run hinit []
  have hsteady : ((start database).run sha256 worker moves).database.Steady :=
    Runs.run_invariant_of_all (I := fun process : WorkerProcess => process.database.Steady)
      (fun _ move h => steady_step h move) hinitial moves
  exact Ready.drained ⟨hsteady, hgoesOn, hlooping⟩ hturns hlength

/-- Batches of one, over two reservations that have expired. -/
theorem run_drained_lapsing :
    let turn : WorkerMove := .turn (Deployment.expire 2000).environment 0 1
    Drained Deployment.sha256 (.expiration ⟨1, Nat.one_pos⟩) 2000
      ((start Deployment.database).run Deployment.sha256 (.expiration ⟨1, Nat.one_pos⟩)
        (Deployment.lapsing.map .request)) [turn, turn, turn] :=
  run_drained Deployment.initial (.expiration ⟨1, Nat.one_pos⟩) 2000 (Deployment.lapsing.map .request) _ rfl rfl
    ⟨⟨rfl, rfl, fun _ => rfl, by decide +kernel⟩, ⟨rfl, rfl, fun _ => rfl, by decide +kernel⟩,
      ⟨rfl, rfl, fun _ => rfl, by decide +kernel⟩, trivial⟩
    (by decide +kernel)

end WorkerProcess
/-! ## What a loop reports -/

/-- The reservations of an observation. -/
def BatchObservation.processed : BatchObservation → List Reservation
  | succeeded reservations _ => reservations
  | failed _ _ => []

namespace WorkerMetrics

theorem foldl_countReservation (metrics : WorkerMetrics) (reservations : List Reservation) :
    let counted := reservations.foldl countReservation metrics
    counted.batchesSucceeded = metrics.batchesSucceeded ∧ counted.batchesFailed = metrics.batchesFailed ∧
      ∀ status, counted.reservations status =
        metrics.reservations status + reservations.countP (·.status = status) := by
  induction reservations generalizing metrics with
  | nil => exact ⟨rfl, rfl, fun _ => rfl⟩
  | cons reservation reservations ih =>
    obtain ⟨hsucceeded, hfailed, hcounts⟩ := ih (metrics.countReservation reservation)
    refine ⟨hsucceeded, hfailed, fun status => ?_⟩
    rw [List.foldl_cons, hcounts, List.countP_cons]
    unfold countReservation
    dsimp only
    by_cases hs : reservation.status = status
    · subst hs
      rw [Function.update_self, decide_eq_true rfl, if_pos rfl]
      omega
    · rw [Function.update_of_ne (Ne.symm hs), decide_eq_false hs, if_neg Bool.false_ne_true, Nat.add_zero]

/-- The metrics after these observations. -/
def of (observations : List BatchObservation) : WorkerMetrics := observations.foldl record zero

theorem of_concat (observations : List BatchObservation) (observation : BatchObservation) :
    of (observations ++ [observation]) = (of observations).record observation :=
  List.foldl_concat ..

end WorkerMetrics

namespace WorkerLoop

/-- The summary and the metrics count the observations. -/
structure Summarised (loop : WorkerLoop) : Prop where
  succeeded : (WorkerMetrics.of loop.observations).batchesSucceeded = loop.summary.batchesProcessed
  failed : (WorkerMetrics.of loop.observations).batchesFailed = loop.summary.batchesFailed
  observed : loop.observations.length = loop.summary.batchesProcessed + loop.summary.batchesFailed
  processed : (loop.observations.flatMap BatchObservation.processed).length = loop.summary.reservationsProcessed
  statuses : ∀ status, (WorkerMetrics.of loop.observations).reservations status =
    (loop.observations.flatMap BatchObservation.processed).countP (·.status = status)

theorem Summarised.start : WorkerLoop.start.Summarised := ⟨rfl, rfl, rfl, rfl, fun _ => rfl⟩

theorem Summarised.conclude {loop : WorkerLoop} (h : loop.Summarised) (batchSize : ℕ) (startedAt endedAt : ℚ)
    (result : Except Failure (List Reservation)) :
    (loop.conclude batchSize startedAt endedAt result).Summarised := by
  cases result with
  | error failure =>
    unfold WorkerLoop.conclude
    constructor
    · rw [WorkerMetrics.of_concat]
      exact h.succeeded
    · rw [WorkerMetrics.of_concat]
      exact congrArg (· + 1) h.failed
    · rw [List.length_append, h.observed, List.length_singleton, Nat.add_assoc]
    · rw [List.flatMap_append, List.flatMap_singleton, BatchObservation.processed, List.append_nil]
      exact h.processed
    · rw [WorkerMetrics.of_concat, List.flatMap_append, List.flatMap_singleton, BatchObservation.processed,
        List.append_nil]
      exact h.statuses
  | ok reservations =>
    obtain ⟨hsucceeded, hfailed, hcounts⟩ := WorkerMetrics.foldl_countReservation
      { WorkerMetrics.of loop.observations with
        batchesSucceeded := (WorkerMetrics.of loop.observations).batchesSucceeded + 1 } reservations
    unfold WorkerLoop.conclude
    constructor
    · rw [WorkerMetrics.of_concat]
      exact hsucceeded.trans (congrArg (· + 1) h.succeeded)
    · rw [WorkerMetrics.of_concat]
      exact hfailed.trans h.failed
    · dsimp only
      rw [List.length_append, h.observed, List.length_singleton, Nat.add_right_comm]
    · rw [List.flatMap_append, List.flatMap_singleton, List.length_append, h.processed]
      rfl
    · intro status
      rw [WorkerMetrics.of_concat, List.flatMap_append, List.flatMap_singleton, List.countP_append, ← h.statuses]
      exact hcounts status

end WorkerLoop

/-- What a batch answers is what is stored when it has been loaded. -/
theorem toDomainBatch_stored {reservations : List ReservationModel} {s t : Session} {batch : List Reservation}
    (h : toDomainBatch reservations s = .ok batch t) :
    ∀ reservation ∈ batch, ∃ model, s.database.reservations.find? reservation.id = some model ∧
      s.database.toDomain model = .ok reservation := by
  induction reservations generalizing batch s with
  | nil =>
    obtain ⟨rfl, -⟩ := pure_ok_iff.mp h
    exact fun _ hr => absurd hr List.not_mem_nil
  | cons head reservations ih =>
    rw [toDomainBatch] at h
    obtain ⟨loaded, v, hv, h⟩ := bind_ok_iff.mp h
    obtain ⟨rest, w, hw, h⟩ := bind_ok_iff.mp h
    obtain ⟨rfl, rfl⟩ := pure_ok_iff.mp h
    cases getReservation_ok hv
    intro reservation hr
    rcases List.mem_append.mp hr with hr | hr
    · rw [getReservation, readDatabase_bind] at hv
      cases hfound : s.database.reservations.find? head.id with
      | none =>
        rw [hfound] at hv
        obtain ⟨rfl, -⟩ := pure_ok_iff.mp hv
        exact absurd hr List.not_mem_nil
      | some model =>
        rw [hfound, toDomain, readDatabase_bind] at hv
        obtain ⟨domain, hdomain, hv⟩ := ofExcept_bind_ok_iff.mp hv
        obtain ⟨rfl, -⟩ := pure_ok_iff.mp hv
        rw [List.mem_singleton.mp hr]
        have hid : domain.id = head.id :=
          (Database.toDomain_eq_ok_iff.mp hdomain).id.trans (Table.key_of_find? hfound)
        rw [hid]
        exact ⟨model, hfound, hdomain⟩
    · exact ih hw reservation hr

section Once
variable {sha256 : String → String} {worker : Worker} {environment : Environment} {database : Database}

/-- A round that raises leaves the database as it was. -/
theorem Worker.runOnce_failed {failure : Failure}
    (h : (worker.runOnce environment database).result = .error failure) :
    (worker.runOnce environment database).database = database := by
  cases worker with
  | expiration config => exact reservationTransaction_failed h
  | reconciliation config => exact reservationTransaction_failed h

/-- A round that returns answers with reservations as it has left them. -/
theorem Worker.runOnce_stored {processed : List Reservation}
    (h : (worker.runOnce environment database).result = .ok processed) :
    ∀ reservation ∈ processed, ∃ model,
      (worker.runOnce environment database).database.reservations.find? reservation.id = some model ∧
        (worker.runOnce environment database).database.toDomain model = .ok reservation := by
  cases worker with
  | expiration config =>
    obtain ⟨t, ht⟩ := reservationTransaction_ok_iff.mp h
    rw [runOnce, ReservationExpirationWorker.runOnce, reservationTransaction_of_ok ht]
    rw [expireBatch, readDatabase_bind] at ht
    obtain ⟨_, u, -, hu⟩ := bind_ok_iff.mp ht
    cases toDomainBatch_ok hu
    exact toDomainBatch_stored hu
  | reconciliation config =>
    obtain ⟨t, ht⟩ := reservationTransaction_ok_iff.mp h
    rw [runOnce, ReservationReconciliationWorker.runOnce, reservationTransaction_of_ok ht]
    rw [reconcileBatch, readDatabase_bind] at ht
    obtain ⟨_, u, -, hu⟩ := bind_ok_iff.mp ht
    cases toDomainBatch_ok hu
    exact toDomainBatch_stored hu

end Once

namespace WorkerProcess
variable {sha256 : String → String} {worker : Worker}

/-- The requests a step commits: one of anyone else, or a round that returns. -/
def commits (worker : Worker) (process : WorkerProcess) : WorkerMove → List Event
  | .request event => [event]
  | .turn environment _ _ =>
    if process.loop.phase = .looping ∧ process.stopEvent = false ∧
        (worker.runOnce environment process.database).result.isOk then [worker.round environment]
    else []
  | .stop => []
  | .wake => []

/-- What can be read off a loop at any moment. -/
structure Accounts (sha256 : String → String) (worker : Worker) (database : Database) (moves : List WorkerMove) :
    Prop where
  summarised : ((start database).run sha256 worker moves).loop.Summarised
  committed : ((start database).run sha256 worker moves).database = System.run sha256 database
    (Runs.trace (step sha256 worker) (commits worker) (start database) moves)
  /-- The reservations a round reports are as it has left them. -/
  stored : ∀ (before later : List WorkerMove) (move : WorkerMove), moves = before ++ move :: later →
    ∀ reservations durationSeconds, ((start database).run sha256 worker (before ++ [move])).loop.observations =
        ((start database).run sha256 worker before).loop.observations ++
          [.succeeded reservations durationSeconds] →
      ∀ reservation ∈ reservations, ∃ model,
        ((start database).run sha256 worker (before ++ [move])).database.reservations.find? reservation.id =
          some model ∧
        ((start database).run sha256 worker (before ++ [move])).database.toDomain model = .ok reservation

/-- A turn that is one, in its three endings. -/
theorem step_turn_cases (sha256 : String → String) (worker : Worker) (process : WorkerProcess)
    (environment : Environment) (startedAt endedAt : ℚ) :
    let outcome := worker.runOnce environment process.database
    let process' := process.step sha256 worker (.turn environment startedAt endedAt)
    (process'.database = process.database ∧ process'.loop.summary = process.loop.summary ∧
        process'.loop.observations = process.loop.observations ∧
        process.commits worker (.turn environment startedAt endedAt) = []) ∨
      process' = { process with
        database := outcome.database
        loop := process.loop.conclude worker.batchSize startedAt endedAt outcome.result } ∧
      process.commits worker (.turn environment startedAt endedAt) =
        if outcome.result.isOk then [worker.round environment] else [] := by
  intro outcome process'
  by_cases hlooping : process.loop.phase = .looping
  · by_cases hstop : process.stopEvent = true
    · refine Or.inl ?_
      have hprocess : process' = { process with loop := { process.loop with phase := .returned } } := by
        change process.step sha256 worker (.turn environment startedAt endedAt) = _
        rw [step, if_pos hlooping, turn, if_pos hstop]
      rw [hprocess]
      refine ⟨rfl, rfl, rfl, ?_⟩
      simp [commits, hstop]
    · refine Or.inr ⟨?_, ?_⟩
      · change process.step sha256 worker (.turn environment startedAt endedAt) = _
        rw [step, if_pos hlooping, turn, if_neg hstop]
      · simp [commits, hlooping, hstop, outcome]
  · refine Or.inl ?_
    have hprocess : process' = process := if_neg hlooping
    rw [hprocess]
    refine ⟨rfl, rfl, rfl, ?_⟩
    simp [commits, hlooping]

/-- One step keeps the summary true, and commits what it says. -/
theorem step_accounts {database : Database} {log : List Event} {process : WorkerProcess}
    (h : process.loop.Summarised ∧ process.database = System.run sha256 database log) (move : WorkerMove) :
    (process.step sha256 worker move).loop.Summarised ∧
      (process.step sha256 worker move).database =
        System.run sha256 database (log ++ process.commits worker move) := by
  obtain ⟨hsummarised, hdatabase⟩ := h
  have hquiet : System.run sha256 database (log ++ []) = process.database := by
    rw [List.append_nil, hdatabase]
  cases move with
  | request event =>
    refine ⟨hsummarised, ?_⟩
    unfold System.run at hdatabase ⊢
    rw [Runs.run_append, ← hdatabase]
    rfl
  | stop => exact ⟨hsummarised, hquiet.symm⟩
  | wake =>
    rw [step]
    split
    · exact ⟨⟨hsummarised.succeeded, hsummarised.failed, hsummarised.observed, hsummarised.processed,
        hsummarised.statuses⟩, hquiet.symm⟩
    · exact ⟨hsummarised, hquiet.symm⟩
  | turn environment startedAt endedAt =>
    rcases step_turn_cases sha256 worker process environment startedAt endedAt with
      ⟨hsame, hsummary, hobservations, hcommits⟩ | ⟨hprocess, hcommits⟩
    · rw [hsame, hcommits, hquiet]
      refine ⟨?_, rfl⟩
      generalize (process.step sha256 worker (.turn environment startedAt endedAt)).loop = loop at *
      obtain ⟨phase, summary, observations⟩ := loop
      cases hsummary
      cases hobservations
      exact ⟨hsummarised.succeeded, hsummarised.failed, hsummarised.observed, hsummarised.processed,
        hsummarised.statuses⟩
    · rw [hprocess, hcommits]
      refine ⟨hsummarised.conclude _ _ _ _, ?_⟩
      dsimp only
      cases hresult : (worker.runOnce environment process.database).result with
      | error failure => exact (Worker.runOnce_failed hresult).trans hquiet.symm
      | ok processed =>
        rw [Worker.runOnce_database sha256, hdatabase]
        exact (Runs.run_append (System.step sha256) database log [worker.round environment]).symm

/-- In every interleaving, at every moment. -/
theorem run_tallies (sha256 : String → String) (worker : Worker) (database : Database) (moves : List WorkerMove) :
    Accounts sha256 worker database moves := by
  have hinvariant : ((start database).run sha256 worker moves).loop.Summarised ∧
      ((start database).run sha256 worker moves).database = System.run sha256 database
        ([] ++ Runs.trace (step sha256 worker) (commits worker) (start database) moves) :=
    Runs.run_trace
      (I := fun log (process : WorkerProcess) =>
        process.loop.Summarised ∧ process.database = System.run sha256 database log)
      (fun _ _ move h => step_accounts h move) ⟨.start, rfl⟩ moves
  refine ⟨hinvariant.1, hinvariant.2, ?_⟩
  rintro before later move - reservations durationSeconds hobserved
  unfold run at hobserved ⊢
  rw [Runs.run_append, Runs.run_cons, Runs.run_nil] at hobserved ⊢
  generalize Runs.run (step sha256 worker) (start database) before = process at hobserved ⊢
  have hsame : ∀ observations : List BatchObservation,
      observations ≠ observations ++ [.succeeded reservations durationSeconds] := by simp
  cases move with
  | request event => exact absurd hobserved (hsame _)
  | stop => exact absurd hobserved (hsame _)
  | wake =>
    rw [step] at hobserved
    split at hobserved
    · exact absurd hobserved (hsame _)
    · exact absurd hobserved (hsame _)
  | turn environment startedAt endedAt =>
    rcases step_turn_cases sha256 worker process environment startedAt endedAt with
      ⟨-, -, hobservations, -⟩ | ⟨hprocess, -⟩
    · exact absurd (hobservations.symm.trans hobserved) (hsame _)
    · rw [hprocess] at hobserved ⊢
      dsimp only at hobserved ⊢
      cases hresult : (worker.runOnce environment process.database).result with
      | error failure =>
        rw [hresult] at hobserved
        simp [WorkerLoop.conclude] at hobserved
      | ok processed =>
        rw [hresult] at hobserved
        simp only [WorkerLoop.conclude, List.append_cancel_left_eq, List.cons.injEq,
          BatchObservation.succeeded.injEq, and_true] at hobserved
        rw [← hobserved.1]
        exact Worker.runOnce_stored hresult

end WorkerProcess

end InventoryReservation
