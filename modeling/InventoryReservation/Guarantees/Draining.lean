import InventoryReservation.Meaning.Rescheduling
import InventoryReservation.Guarantees.RetryEligibility
import InventoryReservation.Service.ReservationWorkers

/-! # Workers drain their queues

At a fixed instant, what a worker has processed it does not select again, and nothing else starts to be
selected. So its rounds, made one after the other with nobody else at work, come to an empty batch after
as many rounds as reservations were eligible.
-/

namespace InventoryReservation
set_option autoImplicit false

open Relational Transactional

/-! ## Workers -/

inductive Worker where
  | expiration (config : ExpirationWorkerConfig)
  | reconciliation (config : ReconciliationWorkerConfig)

namespace Worker

def request : Worker → Request
  | expiration config => .expireBatch config.batchSize
  | reconciliation config => .reconcileBatch config.batchSize config.maxAttempts config.retryBaseDelay

/-- A round of the worker, as an event of the system. -/
abbrev round (worker : Worker) (environment : Environment) : Event := ⟨environment, worker.request⟩

def runOnce (environment : Environment) (database : Database) :
    Worker → TransactionOutcome (List Reservation)
  | expiration config => ReservationExpirationWorker.runOnce config environment database
  | reconciliation config => ReservationReconciliationWorker.runOnce config environment database

/-- The condition of the query of the worker. -/
def selects (now : Instant) (database : Database) (reservation : ReservationModel) : Worker → Bool
  | expiration _ => reservation.isExpired now
  | reconciliation config =>
    reservation.isInFlight && database.hasReconcilableOperation now config.maxAttempts reservation

/-- The reservations a round processes. -/
def batch (environment : Environment) (database : Database) : Worker → List ReservationModel
  | expiration config => database.expiredBatch environment config.batchSize
  | reconciliation config =>
    database.reconcilableBatch environment config.batchSize config.maxAttempts

/-- The reservations the worker could process. -/
def eligible (worker : Worker) (now : Instant) (database : Database) : List ReservationModel :=
  database.reservations.rows.filter fun reservation => worker.selects now database reservation

end Worker

namespace System
variable (sha256 : String → String)

/-- A round that returns. -/
def Returns (event : Event) (database : Database) : Prop := (execute sha256 event database).result.isOk

/-- A round of the worker at this instant that returns, with no lock held by anyone else. -/
structure Undisturbed (worker : Worker) (now : Instant) (database : Database) (event : Event) : Prop where
  request : event.request = worker.request
  now : event.environment.now = now
  unlocked : ∀ r, event.environment.lockedByOthers r = false
  returns : Returns sha256 event database

/-- The worker makes progress from this database at this instant. -/
structure Drains (worker : Worker) (now : Instant) (database : Database) : Prop where
  processed : ∀ environment : Environment, environment.now = now →
    Returns sha256 (worker.round environment) database →
      ∀ reservation ∈ worker.batch environment database,
        ∀ after ∈ (step sha256 database (worker.round environment)).reservations.find? reservation.id,
          ¬ worker.selects now (step sha256 database (worker.round environment)) after
  others : ∀ environment : Environment, environment.now = now →
    Returns sha256 (worker.round environment) database → ∀ r,
      (∀ reservation ∈ worker.batch environment database, reservation.id ≠ r) →
        ∀ after ∈ (step sha256 database (worker.round environment)).reservations.find? r,
          worker.selects now (step sha256 database (worker.round environment)) after →
            ∃ before ∈ database.reservations.find? r, worker.selects now database before
  empties : ∀ rounds : List Event,
    Runs.Admissible (step sha256) (Undisturbed sha256 worker now) database rounds →
      (worker.eligible now database).length ≤ rounds.length →
        ∀ environment : Environment, environment.now = now →
          (execute sha256 (worker.round environment) (run sha256 database rounds)).result = .ok (.batch [])

end System

/-- A round is what the worker runs once. -/
theorem Worker.execute_round (sha256 : String → String) (worker : Worker) (environment : Environment)
    (database : Database) : System.execute sha256 (worker.round environment) database =
      (worker.runOnce environment database).map .batch := by
  cases worker <;> rfl

/-! ## What a reconciliation selects -/

/-- The reservation is in flight and has an operation that is due. -/
structure Aggregate.Reconcilable (now : Instant) (maxAttempts : ℕ) (aggregate : Aggregate) : Prop where
  inFlight : aggregate.reservation.isInFlight
  due : ∃ view ∈ aggregate.allocations, ∃ operation ∈ view.operation aggregate.reservation.pursues,
    operation.Due now maxAttempts

theorem ReservationModel.pursues_of_inFlight {reservation : ReservationModel} (h : reservation.isInFlight)
    (kind : SettlementKind) :
    (reservation.status = .releasing ∧ kind.operationType = .release ∨
      reservation.status = .confirming ∧ kind.operationType = .confirm) ↔ kind = reservation.pursues := by
  unfold pursues
  rcases of_decide_eq_true h with ⟨hs, -⟩ | hs <;> cases kind <;> simp [hs, SettlementKind.operationType]

theorem Database.reconcilable_iff {database : Database} (hwf : database.WellFormed) {r : Uuid}
    {aggregate : Aggregate} (ha : database.aggregate? r = some aggregate) {now : Instant}
    {maxAttempts : ℕ} :
    (aggregate.reservation.isInFlight &&
        database.hasReconcilableOperation now maxAttempts aggregate.reservation) = true ↔
      aggregate.Reconcilable now maxAttempts := by
  have hid : aggregate.reservation.id = r := Table.key_of_find? (Database.aggregate?_eq_some_iff.mp ha).1
  rw [Bool.and_eq_true, hasReconcilableOperation, List.any_eq_true]
  constructor
  · rintro ⟨hflight, operation, ho, hc⟩
    obtain ⟨howner, hu, hcount, hnext, hkind⟩ := of_decide_eq_true hc
    obtain ⟨kind, r', aggregate', view, ha', hv, -, -, hview, htype⟩ :=
      hwf.view_of_operation (Table.find?_of_mem (t := database.operations) ho)
    have howner' := (hwf.operation_of_view ha' hv hview).2.2
    rw [howner, hid] at howner'
    rw [← Option.some.inj howner', ha] at ha'
    cases ha'
    rw [htype] at hkind
    rw [(ReservationModel.pursues_of_inFlight hflight kind).mp hkind] at hview
    exact ⟨hflight, view, hv, operation, hview, hu, hcount, hnext⟩
  · rintro ⟨hflight, view, hv, operation, ho, hu, hcount, hnext⟩
    obtain ⟨hmem, htype, howner⟩ := hwf.operation_of_view ha hv ho
    have hkind := (ReservationModel.pursues_of_inFlight hflight _).mpr rfl
    rw [← htype] at hkind
    rw [← hid] at howner
    exact ⟨hflight, operation, hmem, decide_eq_true ⟨howner, hu, hcount, hnext, hkind⟩⟩

/-- After a walk a reservation in flight pursues what the walk was about. -/
theorem Walk.pursues {event : Event} {database : Database} {walk : Walk} {before after : Aggregate}
    (hwalk : walk ∈ event.walks database) (h : walk.pass.Applies event.environment before after)
    (hflight : after.reservation.isInFlight) : after.reservation.pursues = walk.pass.kind := by
  obtain ⟨reservation, pass⟩ := walk
  cases pass with
  | confirm context =>
    refine if_neg fun hreleasing => ?_
    rcases Aggregate.Confirmed.cases h with ⟨-, hs⟩ | ⟨-, hs⟩ | ⟨-, hs⟩
    all_goals cases hs.symm.trans hreleasing
  | release context terminalStatus =>
    refine if_pos ?_
    rcases Aggregate.Released.cases h with ⟨-, hs, -⟩ | ⟨-, hs, -⟩
    · exact hs
    · rcases of_decide_eq_true hflight with ⟨hreleasing, -⟩ | hconfirming
      · exact hreleasing
      · have hterminal := event.terminal hwalk
        rw [← hs, hconfirming] at hterminal
        exact absurd hterminal (by decide)

/-- An attempt leaves the operation with one attempt more. -/
theorem Pass.attemptCount_of_asks {environment : Environment} {pass : Pass} {view : AllocationView}
    {operation operation' : ProviderOperationModel} (ha : pass.asks view)
    (ho : view.operation pass.kind = some operation)
    (ho' : (pass.settle environment view).operation pass.kind = some operation') :
    operation'.attemptCount = operation.attemptCount + 1 := by
  cases pass with
  | confirm context => exact Settlement.settle_attemptCount (S := confirmation) ha ho ho'
  | release context terminalStatus => exact Settlement.settle_attemptCount (S := releasing) ha ho ho'

/-- A reservation that has been reconciled has no operation left that is due. -/
theorem Walk.not_reconcilable {event : Event} {database : Database} {walk : Walk} {t : Session}
    {before after : Aggregate} {maxAttempts : ℕ} {retryBaseDelay : Duration}
    (hwalk : walk ∈ event.walks database) (hresolved : before.Resolved)
    (hcontext : walk.pass.context =
      .retry walk.reservation.id event.environment.now maxAttempts retryBaseDelay)
    (hb : database.aggregate? walk.reservation.id = some before)
    (ha : t.database.aggregate? walk.reservation.id = some after)
    (hpass : walk.pass.Applies event.environment before after)
    (hreschedules : Reschedules event.environment.now (.start database) t) :
    ¬ after.Reconcilable event.environment.now maxAttempts := by
  rintro ⟨hflight, view', hv', operation, ho, hu, hcount, hnext⟩
  obtain ⟨view, hv, rfl⟩ := hpass.mem_allocations hv'
  -- the operation was there before the walk, so the walk has attempted it
  have hkind : after.reservation.pursues = walk.pass.kind := Walk.pursues hwalk hpass hflight
  rw [hkind] at ho
  have hkey := Database.view_operation ha hv' walk.pass.kind
  rw [Pass.settle_id] at hkey
  have hbefore : view.operation walk.pass.kind = some operation := by
    rw [Database.view_operation hb hv]
    refine (hreschedules.later _ operation (hkey.symm.trans ho) hu).resolve_right ?_
    rintro ⟨nextAttemptAt, hn, hlater⟩
    exact absurd (hnext nextAttemptAt hn) (not_le.mpr hlater)
  have hasks : walk.pass.asks view := by
    refine ⟨fun hs => hresolved.resolved view hv _ hs operation hbefore hu,
      hresolved.external view hv _ operation hbefore, fun operation' ho' => ?_⟩
    rw [hbefore] at ho'
    rw [← Option.some.inj ho', hcontext, retry_asks_iff]
    rintro (hs | ⟨-, hexhausted⟩)
    · cases hu.symm.trans hs
    · exact absurd hcount (not_lt.mpr hexhausted)
  -- an attempt is counted
  have hcounted := Pass.attemptCount_of_asks hasks hbefore ho
  omega

/-! ## One round -/

section Rounds
variable {sha256 : String → String} {worker : Worker} {environment : Environment} {database : Database}

/-- Sound and resolved: what rounds rely on. -/
structure Database.Steady (database : Database) : Prop where
  sound : database.Sound
  resolved : ∀ r aggregate, database.aggregate? r = some aggregate → aggregate.Resolved

theorem Database.Steady.step (h : database.Steady) (event : Event) :
    (System.step sha256 database event).Steady where
  sound := System.step_sound sha256 h.sound event
  resolved := System.maintains_resolved.step h.sound h.resolved trivial

theorem Database.Steady.of_run (hinit : database.Initial) (events : List Event) :
    (System.run sha256 database events).Steady where
  sound := System.run_sound sha256 hinit events
  resolved := System.maintains_resolved.run hinit (.of_all (fun _ _ => trivial) database events)

/-- A round that returns has made its walks. -/
theorem Worker.returned (h : System.Returns sha256 (worker.round environment) database) :
    ∃ t, forEach (Walk.run environment) ((worker.round environment).walks database) (.start database) =
        .ok () t ∧ System.step sha256 database (worker.round environment) = t.database := by
  cases worker with
  | expiration config =>
    obtain ⟨result, t, hr, he⟩ := reservationTransaction_returned h
    exact ⟨t, expireBatch_makes result t hr, congrArg TransactionOutcome.database he⟩
  | reconciliation config =>
    obtain ⟨result, t, hr, he⟩ := reservationTransaction_returned h
    exact ⟨t, reconcileBatch_makes result t hr, congrArg TransactionOutcome.database he⟩

theorem Worker.exists_walk {reservation : ReservationModel}
    (h : reservation ∈ worker.batch environment database) :
    ∃ walk ∈ (worker.round environment).walks database, walk.reservation = reservation := by
  cases worker with
  | expiration config => exact ⟨reservation.expireWalk, List.mem_map_of_mem h, rfl⟩
  | reconciliation config => exact Database.exists_reconcileWalk config.retryBaseDelay h

/-- A reservation a round has walked over is not selected again. -/
theorem Worker.not_selects_of_walk {walk : Walk} {t : Session} {before after : Aggregate}
    (hsteady : database.Steady) (hwf : t.database.WellFormed)
    (hruns : forEach (Walk.run environment) ((worker.round environment).walks database) (.start database) =
      .ok () t)
    (hwalk : walk ∈ (worker.round environment).walks database)
    (hb : database.aggregate? walk.reservation.id = some before)
    (ha : t.database.aggregate? walk.reservation.id = some after)
    (hpass : walk.pass.Applies environment before after) :
    ¬ worker.selects environment.now t.database after.reservation := by
  cases worker with
  | expiration config =>
    intro hselects
    have hpending : after.reservation.status = .pending := (of_decide_eq_true hselects).1
    obtain ⟨reservation, -, rfl⟩ := List.mem_map.mp hwalk
    rcases Aggregate.Released.cases hpass with ⟨-, hs, -⟩ | ⟨-, hs, -⟩
    all_goals cases hs.symm.trans hpending
  | reconciliation config =>
    intro hselects
    have hcontext := (Database.mem_reconcileWalks hwalk).2.2
    refine Walk.not_reconcilable hwalk (hsteady.resolved _ _ hb) hcontext hb ha hpass ?_
      ((Database.reconcilable_iff hwf ha).mp hselects)
    refine (reschedules_composes environment.now).forEach (fun walk hw => ?_) _ _ _ hruns
    exact Walk.reschedules config.retryBaseDelay_pos (Database.mem_reconcileWalks hw).2.2

/-- What a round that returns leaves to be selected was to be selected before, and not in its batch. -/
theorem Worker.round_selects (hsteady : database.Steady)
    (hreturns : System.Returns sha256 (worker.round environment) database) {r : Uuid}
    {after : ReservationModel}
    (hafter : (System.step sha256 database (worker.round environment)).reservations.find? r = some after)
    (hselects : worker.selects environment.now
      (System.step sha256 database (worker.round environment)) after) :
    (∀ reservation ∈ worker.batch environment database, reservation.id ≠ r) ∧
      ∃ before ∈ database.reservations.find? r, worker.selects environment.now database before := by
  obtain ⟨t, hruns, hstep⟩ := worker.returned hreturns
  have hwf : (System.step sha256 database (worker.round environment)).WellFormed :=
    (hsteady.step (worker.round environment)).sound.wellFormed
  have hwalked := walks_ok (s := .start database) hsteady.sound.wellFormed
    (Event.walkable (worker.round environment) database) hruns
  rw [hstep] at hafter hselects hwf
  have ha : t.database.aggregate? r = some ⟨after, _, _, _⟩ :=
    Database.aggregate?_eq_some_iff.mpr ⟨hafter, rfl, rfl, rfl⟩
  have houtside : ∀ walk ∈ (worker.round environment).walks database, walk.reservation.id ≠ r := by
    rintro walk hw rfl
    obtain ⟨before, after', hb, ha', hpass, -⟩ := hwalked.applied walk hw
    rw [ha] at ha'
    cases ha'
    exact worker.not_selects_of_walk hsteady hwf hruns hw hb ha hpass hselects
  refine ⟨fun reservation hr => ?_, ?_⟩
  · obtain ⟨walk, hw, rfl⟩ := worker.exists_walk hr
    exact houtside walk hw
  · have hb : database.aggregate? r = some ⟨after, _, _, _⟩ := (hwalked.others r houtside).symm.trans ha
    refine ⟨after, (Database.aggregate?_eq_some_iff.mp hb).1, ?_⟩
    cases worker with
    | expiration config => exact hselects
    | reconciliation config =>
      exact (Database.reconcilable_iff hsteady.sound.wellFormed hb).mpr
        ((Database.reconcilable_iff hwf ha).mp hselects)

/-! ## Counting -/

theorem Worker.mem_eligible {now : Instant} {reservation : ReservationModel} :
    reservation ∈ worker.eligible now database ↔
      database.reservations.find? reservation.id = some reservation ∧
        worker.selects now database reservation := by
  unfold eligible
  rw [List.mem_filter]
  constructor
  · rintro ⟨hmem, hs⟩
    exact ⟨Table.find?_of_mem hmem, hs⟩
  · rintro ⟨hf, hs⟩
    exact ⟨Table.mem_of_find? hf, hs⟩

theorem Worker.eligible_nodup (worker : Worker) (now : Instant) (database : Database) :
    ((worker.eligible now database).map ReservationModel.id).Nodup :=
  (List.filter_sublist.map _).nodup database.reservations.nodup

/-- With no lock held by anyone else the batch is a part of what is eligible, and not empty unless
nothing is. -/
theorem Database.lockBatch_unlocked {limit : ℕ} {condition : ReservationModel → Bool}
    {sortKey : ReservationModel → Instant} (hlimit : 0 < limit)
    (hunlocked : ∀ r, environment.lockedByOthers r = false)
    (hsome : database.reservations.rows.filter condition ≠ []) :
    database.lockBatch environment limit condition sortKey ≠ [] := by
  unfold lockBatch
  simp only [hunlocked, Bool.not_false, Bool.and_true]
  rw [← List.length_pos_iff, List.length_take, List.length_insertionSort]
  exact lt_min hlimit (List.length_pos_iff.mpr hsome)

theorem Worker.batch_ne_nil (hunlocked : ∀ r, environment.lockedByOthers r = false)
    (hsome : worker.eligible environment.now database ≠ []) : worker.batch environment database ≠ [] := by
  cases worker with
  | expiration config => exact Database.lockBatch_unlocked config.batchSize_pos hunlocked hsome
  | reconciliation config => exact Database.lockBatch_unlocked config.batchSize_pos hunlocked hsome

theorem Worker.mem_eligible_of_batch {reservation : ReservationModel}
    (h : reservation ∈ worker.batch environment database) :
    reservation ∈ worker.eligible environment.now database := by
  cases worker with
  | expiration config => exact Worker.mem_eligible.mpr (Database.mem_lockBatch h)
  | reconciliation config => exact Worker.mem_eligible.mpr (Database.mem_lockBatch h)

/-- An undisturbed round lowers the number of eligible reservations. -/
theorem Worker.eligible_lowered {now : Instant} {event : Event} (hsteady : database.Steady)
    (h : System.Undisturbed sha256 worker now database event) :
    (worker.eligible now (System.step sha256 database event)).length ≤
      (worker.eligible now database).length - 1 := by
  obtain ⟨environment, request⟩ := event
  obtain ⟨rfl, rfl, hunlocked, hreturns⟩ := h
  have hleft : ∀ reservation ∈ worker.eligible environment.now
      (System.step sha256 database (worker.round environment)),
      (∀ processed ∈ worker.batch environment database, processed.id ≠ reservation.id) ∧
        reservation.id ∈ (worker.eligible environment.now database).map ReservationModel.id := by
    intro reservation hr
    obtain ⟨hf, hs⟩ := Worker.mem_eligible.mp hr
    obtain ⟨houtside, before, hb, hs'⟩ := worker.round_selects hsteady hreturns hf hs
    refine ⟨houtside, List.mem_map.mpr ⟨before, Worker.mem_eligible.mpr ?_, Table.key_of_find? hb⟩⟩
    rw [Table.key_of_find? hb]
    exact ⟨hb, hs'⟩
  by_cases hnil : worker.eligible environment.now database = []
  · have hnone : worker.eligible environment.now
        (System.step sha256 database (worker.round environment)) = [] := by
      rw [List.eq_nil_iff_forall_not_mem]
      intro reservation hr
      have hmem := (hleft reservation hr).2
      rw [hnil] at hmem
      exact absurd hmem List.not_mem_nil
    rw [hnone]
    exact Nat.zero_le _
  · obtain ⟨processed, hprocessed⟩ := List.exists_mem_of_ne_nil _ (worker.batch_ne_nil hunlocked hnil)
    -- the eligible reservations after the round, and one that it processed, were eligible before
    have hnodup : (processed.id :: (worker.eligible environment.now
        (System.step sha256 database (worker.round environment))).map ReservationModel.id).Nodup := by
      refine List.nodup_cons.mpr ⟨fun hmem => ?_, worker.eligible_nodup _ _⟩
      obtain ⟨reservation, hr, he⟩ := List.mem_map.mp hmem
      exact (hleft reservation hr).1 processed hprocessed he.symm
    have hsubset : (processed.id :: (worker.eligible environment.now
        (System.step sha256 database (worker.round environment))).map ReservationModel.id) ⊆
          (worker.eligible environment.now database).map ReservationModel.id := by
      refine List.cons_subset.mpr ⟨List.mem_map_of_mem (Worker.mem_eligible_of_batch hprocessed), ?_⟩
      intro id hid
      obtain ⟨reservation, hr, rfl⟩ := List.mem_map.mp hid
      exact (hleft reservation hr).2
    have hlength := (List.subperm_of_subset hnodup hsubset).length_le
    rw [List.length_cons, List.length_map, List.length_map] at hlength
    exact Nat.le_sub_one_of_lt hlength

/-- With nothing eligible a round returns an empty batch. -/
theorem Worker.round_nil (hnil : worker.eligible environment.now database = []) :
    (System.execute sha256 (worker.round environment) database).result = .ok (.batch []) := by
  have hbatch : worker.batch environment database = [] := by
    rw [List.eq_nil_iff_forall_not_mem]
    intro reservation hr
    have hmem := Worker.mem_eligible_of_batch hr
    rw [hnil] at hmem
    exact absurd hmem List.not_mem_nil
  cases worker with
  | expiration config =>
    have hbody : expireBatch environment config.batchSize (.start database) =
        .ok [] (.start database) := by
      have hbatch : database.expiredBatch environment config.batchSize = [] := hbatch
      rw [expireBatch, readDatabase_bind]
      dsimp only [Session.start]
      rw [hbatch]
      rfl
    rw [Worker.execute_round, Worker.runOnce, ReservationExpirationWorker.runOnce]
    rw [reservationTransaction_of_ok hbody]
    rfl
  | reconciliation config =>
    have hbody : reconcileBatch environment config.batchSize config.maxAttempts config.retryBaseDelay
        (.start database) = .ok [] (.start database) := by
      have hbatch : database.reconcilableBatch environment config.batchSize config.maxAttempts = [] :=
        hbatch
      rw [reconcileBatch, readDatabase_bind]
      dsimp only [Session.start]
      rw [hbatch]
      rfl
    rw [Worker.execute_round, Worker.runOnce, ReservationReconciliationWorker.runOnce]
    rw [reservationTransaction_of_ok hbody]
    rfl

end Rounds

/-! ## Runs -/

namespace System
variable {sha256 : String → String}

/-- From every state a run reaches, each worker drains its queue at each instant. -/
theorem run_drains {database : Database} (hinit : database.Initial) (events : List Event)
    (worker : Worker) (now : Instant) : Drains sha256 worker now (run sha256 database events) := by
  have hsteady : (run sha256 database events).Steady := .of_run hinit events
  constructor
  · rintro environment rfl hreturns reservation hr after hafter hselects
    exact (worker.round_selects hsteady hreturns hafter hselects).1 reservation hr rfl
  · rintro environment rfl hreturns r - after hafter hselects
    exact (worker.round_selects hsteady hreturns hafter hselects).2
  · rintro rounds hrounds hlength environment rfl
    have hexhausted := Runs.run_exhausts (I := Database.Steady)
      (m := fun database => (worker.eligible environment.now database).length)
      (fun _ event hd _ => hd.step event) (fun _ _ hd hok => worker.eligible_lowered hd hok) hsteady
      hrounds hlength
    exact worker.round_nil (List.length_eq_zero_iff.mp hexhausted)

/-- Batches of one, over two reservations whose confirmation is unknown. -/
theorem run_drains_reconciliation :
    Drains Deployment.sha256 (.reconciliation ⟨1, 5, 30, by decide, by decide, by decide⟩) 50
      (run Deployment.sha256 Deployment.database
        [Deployment.create 1000 100 0 [Deployment.line 2 20 1] "a",
          Deployment.create 2000 200 0 [Deployment.line 3 20 1] "b",
          Deployment.confirming .unknown (Deployment.confirm 1100 100 10),
          Deployment.confirming .unknown (Deployment.confirm 1200 200 10)]) :=
  run_drains Deployment.initial _ _ _

end System
end InventoryReservation
