import InventoryReservation.Meaning.Calls
import InventoryReservation.Guarantees.Lifecycle

/-! # The ledger of provider operations

After any run every operation is concluded or known to be unknown, and its attempts are the calls made
under its key by the transactions that committed. What has succeeded stays so and is never asked again,
not even by a transaction that is rolled back; what is unknown is asked again by the reconciliation
worker only, and only below its limit.
-/

namespace InventoryReservation
set_option autoImplicit false

open Relational

/-- The step calls a provider under this key, whether its transaction commits or not. -/
def System.Calls (sha256 : String → String) (key : ProviderKey) (database : Database) (event : Event) :
    Prop :=
  ∃ entry ∈ (System.execute sha256 event database).exchanges, entry.2.idempotencyKey? = some key

/-- The request is a reconciliation whose limit the attempts have not reached. -/
def Request.Reattempts (attemptCount : ℕ) (request : Request) : Prop :=
  ∃ limit maxAttempts retryBaseDelay, request = .reconcileBatch limit maxAttempts retryBaseDelay ∧
    attemptCount < maxAttempts

/-- The account of one operation that is booked after these events. -/
structure System.Accounts (sha256 : String → String) (database : Database) (events : List Event)
    (operation : ProviderOperationModel) : Prop where
  status : operation.status ∈ [.succeeded, .failed, .unknown]
  attempted : 1 ≤ operation.attemptCount
  counted : operation.attemptCount =
    callsWith operation.idempotencyKey (System.committedCallsOf sha256 database events)
  stays : operation.status = .succeeded → ∀ later : List Event,
    ∃ operation' ∈ (System.run sha256 database (events ++ later)).operations.find? operation.idempotencyKey,
      operation'.status = .succeeded
  silent : operation.status = .succeeded → ∀ (later : List Event) (event : Event),
    ¬ System.Calls sha256 operation.idempotencyKey (System.run sha256 database (events ++ later)) event
  retried : operation.status = .unknown → ∀ event : Event,
    System.Calls sha256 operation.idempotencyKey (System.run sha256 database events) event →
      event.request.Reattempts operation.attemptCount

/-- The account of every operation booked after these events. -/
structure System.KeepsAccounts (sha256 : String → String) (database : Database) (events : List Event) :
    Prop where
  accounts : ∀ operation ∈ (System.run sha256 database events).operations,
    System.Accounts sha256 database events operation

/-! ## Statuses and attempts -/

/-- An operation that is not in progress. -/
structure ProviderOperationModel.Concluded (operation : ProviderOperationModel) : Prop where
  status : operation.status ∈ [.succeeded, .failed, .unknown]
  attempted : 1 ≤ operation.attemptCount

/-- Every operation of the reservation is concluded. -/
structure Aggregate.Concluded (aggregate : Aggregate) : Prop where
  concluded : ∀ view ∈ aggregate.allocations, ∀ kind, ∀ operation ∈ view.operation kind,
    operation.Concluded

namespace Settlement
variable {ω : Type} [DecidableEq ω] {S : Settlement ω} {environment : Environment}
  {context : ProviderOperationContext} {view : AllocationView}

omit [DecidableEq ω] in
theorem one_le_inProgress : 1 ≤ (S.inProgress context view).attemptCount := by
  unfold inProgress
  split
  · exact Nat.le_add_left 1 _
  · exact Nat.le_refl 1

theorem recorded_concluded : (S.recorded environment context view).Concluded := by
  refine ⟨?_, (recorded_attemptCount (S := S)).symm ▸ one_le_inProgress⟩
  by_cases hs : S.answer environment context view = S.settled
  · rw [recorded_status_settled hs]
    decide
  · by_cases hu : S.answer environment context view = S.unknown
    · rw [recorded_status_unknown hu fun he => hs (hu.trans he)]
      decide
    · rw [recorded_status_failed hs hu]
      decide

/-- A walk leaves concluded operations concluded, and the one it asked about as well. -/
theorem settle_concluded (h : ∀ kind, ∀ operation ∈ view.operation kind, operation.Concluded)
    (kind : SettlementKind) :
    ∀ operation ∈ (S.settle environment context view).operation kind, operation.Concluded := by
  intro operation ho
  by_cases hk : kind = S.kind
  · by_cases ha : S.asks context view
    · rw [hk, settle_operation_of_asks ha] at ho
      rw [← Option.some.inj ho]
      exact recorded_concluded
    · rw [settle_operation_of_not_asks ha] at ho
      exact h kind operation ho
  · rw [settle_operation_of_ne hk] at ho
    exact h kind operation ho

theorem settle_operation_of_succeeded {kind : SettlementKind} {operation : ProviderOperationModel}
    (ho : view.operation kind = some operation) (hs : operation.status = .succeeded) :
    (S.settle environment context view).operation kind = some operation := by
  by_cases hk : kind = S.kind
  · rw [settle_operation_of_not_asks fun ha => (ha.2.2 operation (hk ▸ ho)).1 hs]
    exact ho
  · rw [settle_operation_of_ne hk]
    exact ho

end Settlement

theorem Aggregate.Concluded.of_pass {environment : Environment} {pass : Pass} {before after : Aggregate}
    (h : before.Concluded) (hpass : pass.Applies environment before after) : after.Concluded := by
  refine ⟨fun view hv => ?_⟩
  obtain ⟨view', hv', rfl⟩ := hpass.mem_allocations hv
  cases pass with
  | confirm context => exact Settlement.settle_concluded (h.concluded view' hv')
  | release context terminalStatus => exact Settlement.settle_concluded (h.concluded view' hv')

theorem Aggregate.Opened.concluded {environment : Environment} {reservation : Reservation}
    {done : List ReservationItemModel} {aggregate : Aggregate}
    (h : aggregate.Opened environment reservation done) : aggregate.Concluded := by
  refine ⟨fun view hv kind operation ho => ?_⟩
  rw [h.fresh view hv kind] at ho
  cases ho

theorem Aggregate.Created.concluded {environment : Environment} {reservation : Reservation}
    {exchanges : List Exchange} {held : Bool} {after : Aggregate}
    (h : Aggregate.Created environment reservation exchanges held after) : after.Concluded := by
  cases h with
  | held _ h => exact h.concluded
  | compensated before _ done hdone h hr =>
    have hpass : (Pass.release (.request reservation.id) .failed).Applies environment before after := hr
    exact h.concluded.of_pass hpass

namespace System
variable {sha256 : String → String}

theorem maintains_concluded : Maintains sha256 (fun _ _ => True) Aggregate.Concluded where
  created _ _ _ hcreated := hcreated.concluded
  walked _ _ _ _ _ h happlies _ := h.of_pass happlies

theorem run_concluded {database : Database} (hinit : database.Initial) (events : List Event) :
    ∀ operation ∈ (run sha256 database events).operations, operation.Concluded := by
  intro operation ho
  obtain ⟨kind, r, aggregate, view, ha, hv, -, -, hview, -⟩ :=
    (run_sound sha256 hinit events).wellFormed.view_of_operation (Table.find?_of_mem ho)
  exact (maintains_concluded.run hinit (.of_all (fun _ _ => trivial) database events) r aggregate
    ha).concluded view hv kind operation hview

/-- The attempts of an operation are the committed calls under its key. -/
theorem run_counted {database : Database} (hinit : database.Initial) (events : List Event) :
    ∀ operation ∈ (run sha256 database events).operations, operation.attemptCount =
      callsWith operation.idempotencyKey (committedCallsOf sha256 database events) := by
  intro operation ho
  have hfind := Table.find?_of_mem ho
  obtain ⟨kind, r, -, view, -, -, -, hkey, -⟩ :=
    (run_sound sha256 hinit events).wellFormed.view_of_operation hfind
  have hrun : (run sha256 database events).attempts (kind.key r view.allocation.id) =
      database.attempts (kind.key r view.allocation.id) +
        callsWith (kind.key r view.allocation.id) (committedCallsOf sha256 database events) :=
    run_attempts (.of_initial hinit) events kind r _
  rw [← hkey] at hrun
  have hnow : (run sha256 database events).attempts operation.idempotencyKey = operation.attemptCount := by
    unfold Database.attempts
    rw [hfind]
    rfl
  have hinitially : database.attempts operation.idempotencyKey = 0 := by
    unfold Database.attempts
    rw [hinit.operations]
    rfl
  rw [hnow, hinitially, Nat.zero_add] at hrun
  exact hrun

/-! ## Calls under the key of a booked operation -/

theorem key_ne_of_routesFor {environment : Environment} {reservationId : Uuid} {item : ReservationItem}
    {exchange : Exchange} (h : exchange.routesFor environment (item.holdCommand reservationId))
    (kind : SettlementKind) (r a : Uuid) : exchange.idempotencyKey? ≠ some (kind.key r a) := by
  cases exchange with
  | availability => exact nofun
  | hold providerId command reply =>
    intro hk
    exact kind.key_ne_hold r a _ _ _ (h.1 ▸ Option.some.inj hk)
  | confirm => exact absurd h id
  | release => exact absurd h id

/-- A call under the key of a booked operation is made by a walk that neither takes it as settled nor
leaves it unknown. -/
theorem walk_of_calls {database : Database} {event : Event} {key : ProviderKey}
    {operation : ProviderOperationModel} (hwf : database.WellFormed)
    (ho : database.operations.find? key = some operation) (h : Calls sha256 key database event) :
    ∃ walk ∈ event.walks database, operation.status ≠ .succeeded ∧
      ¬ walk.pass.context.keepsUnknown operation := by
  obtain ⟨entry, he, hentry⟩ := h
  rcases execute_traced hwf entry he with ⟨walk, hw, before, hb, view, hv, hsent⟩ |
    ⟨userId, items, idempotencyKey, -, -, hopens⟩
  · obtain ⟨⟨-, -, hasks⟩, hkey⟩ := hsent.asked
    refine ⟨walk, hw, hasks operation ?_⟩
    rw [hentry, event.walk_context hw] at hkey
    rw [Option.mem_def, Database.view_operation hb hv, ← Option.some.inj hkey]
    exact ho
  · obtain ⟨kind, r, aggregate, owner, ha, -, -, hkey, -⟩ := hwf.view_of_operation ho
    rw [hkey] at hentry
    rcases hopens.call with ⟨item, -, hroutes⟩ | ⟨view, -, hsent⟩
    · exact absurd hentry (key_ne_of_routesFor hroutes kind r _)
    · -- the compensated reservation was not stored before, so none of its operations was
      rw [hsent.exchange] at hentry
      have hkey' : SettlementKind.release.key event.environment.reservationId view.allocation.id =
        kind.key r owner.allocation.id := Option.some.inj hentry
      have hfree := hopens.free
      rw [(SettlementKind.key_inj.mp hkey').2.1, (Database.aggregate?_eq_some_iff.mp ha).1] at hfree
      cases hfree

/-- Only a reconciliation below its limit asks again for what is unknown. -/
theorem reattempts_of_calls {database : Database} {event : Event} {key : ProviderKey}
    {operation : ProviderOperationModel} (hwf : database.WellFormed)
    (ho : database.operations.find? key = some operation) (hu : operation.status = .unknown)
    (h : Calls sha256 key database event) : event.request.Reattempts operation.attemptCount := by
  obtain ⟨walk, hw, -, hasks⟩ := walk_of_calls hwf ho h
  have hretry : walk.pass.context.retryUnknown ∧ operation.attemptCount < walk.pass.context.maxAttempts := by
    by_contra hn
    rw [not_and_or, Nat.not_lt] at hn
    exact hasks ⟨hu, hn⟩
  cases (event.occasion hw).1 with
  | confirm => exact absurd hretry.1 Bool.false_ne_true
  | cancel => exact absurd hretry.1 Bool.false_ne_true
  | expire => exact absurd hretry.1 Bool.false_ne_true
  | resumeRelease reservation limit maxAttempts retryBaseDelay terminalStatus hrequest =>
    exact ⟨limit, maxAttempts, retryBaseDelay, hrequest, hretry.2⟩
  | resumeConfirm reservation limit maxAttempts retryBaseDelay hrequest =>
    exact ⟨limit, maxAttempts, retryBaseDelay, hrequest, hretry.2⟩

/-! ## What has succeeded -/

theorem step_succeeded {database : Database} {event : Event} (hsound : database.Sound) {key : ProviderKey}
    (h : ∃ operation ∈ database.operations.find? key, operation.status = .succeeded) :
    ∃ operation ∈ (step sha256 database event).operations.find? key, operation.status = .succeeded := by
  obtain ⟨operation, ho, hs⟩ := h
  have hstep := step_operation sha256 hsound event ho
  generalize (step sha256 database event).operations.find? key = after at hstep
  cases hstep with
  | kept => exact ⟨operation, rfl, hs⟩
  | settled walk before view kind hwalk hb hv hview hkey hanswered =>
    obtain ⟨reservation, pass⟩ := walk
    cases pass with
    | confirm context => exact ⟨operation, Settlement.settle_operation_of_succeeded hview hs, hs⟩
    | release context terminalStatus =>
      exact ⟨operation, Settlement.settle_operation_of_succeeded hview hs, hs⟩

theorem run_succeeded {database : Database} (hsound : database.Sound) {key : ProviderKey}
    (h : ∃ operation ∈ database.operations.find? key, operation.status = .succeeded)
    (events : List Event) :
    ∃ operation ∈ (run sha256 database events).operations.find? key, operation.status = .succeeded :=
  (Runs.run_invariant_of_all (I := fun database : Database => database.Sound ∧
      ∃ operation ∈ database.operations.find? key, operation.status = .succeeded)
    (fun _ event hd => ⟨step_sound sha256 hd.1 event, step_succeeded hd.1 hd.2⟩) ⟨hsound, h⟩ events).2

/-! ## Runs -/

/-- After any run, the ledger accounts for each of its operations. -/
theorem run_accounts {database : Database} (hinit : database.Initial) (events : List Event) :
    KeepsAccounts sha256 database events := by
  refine ⟨fun operation ho => ?_⟩
  have hconcluded := run_concluded hinit events operation ho
  have hsound := run_sound sha256 hinit events
  have hfind := Table.find?_of_mem ho
  have hlater : operation.status = .succeeded → ∀ later : List Event,
      ∃ operation' ∈ (run sha256 database (events ++ later)).operations.find? operation.idempotencyKey,
        operation'.status = .succeeded := by
    intro hs later
    have happend : run sha256 database (events ++ later) = run sha256 (run sha256 database events) later :=
      Runs.run_append _ _ _ _
    rw [happend]
    exact run_succeeded hsound ⟨operation, hfind, hs⟩ later
  constructor
  · exact hconcluded.status
  · exact hconcluded.attempted
  · exact run_counted hinit events operation ho
  · exact hlater
  · intro hs later event hcalls
    obtain ⟨operation', ho', hs'⟩ := hlater hs later
    obtain ⟨-, -, hne, -⟩ := walk_of_calls (run_sound sha256 hinit (events ++ later)).wellFormed ho' hcalls
    exact hne hs'
  · exact fun hu event => reattempts_of_calls hsound.wellFormed hfind hu

/-- A confirmation that is unknown at first and reconciled later. -/
theorem run_accounts_reconciled :
    KeepsAccounts Deployment.sha256 Deployment.database
      [Deployment.create 1000 100 0 [Deployment.line 1 10 2, Deployment.line 2 20 1] "a",
        Deployment.confirming .unknown (Deployment.confirm 1100 100 10),
        Deployment.reconcile 1200 50] :=
  run_accounts Deployment.initial _

end System
end InventoryReservation
