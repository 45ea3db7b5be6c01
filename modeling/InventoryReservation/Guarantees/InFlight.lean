import InventoryReservation.Guarantees.Lifecycle

/-! # Reservations in flight

A confirming reservation has a confirm operation whose outcome is unknown, and a releasing one a
release operation, so that the reconciliation worker can select them, as long as every walk that a
provider asked to come back later also leaves an unknown outcome behind.
-/

namespace InventoryReservation
set_option autoImplicit false

open Relational

/-- The reservation has an operation of this type with an unknown outcome. -/
def Database.Unsettled (database : Database) (operationType : ProviderOperationType) (reservationId : Uuid)
    (operation : ProviderOperationModel) : Prop :=
  database.operationReservation operation = some reservationId ∧ operation.operation = operationType ∧
    operation.status = .unknown

instance (database : Database) (operationType : ProviderOperationType) (reservationId : Uuid)
    (operation : ProviderOperationModel) :
    Decidable (database.Unsettled operationType reservationId operation) :=
  inferInstanceAs (Decidable (_ ∧ _))

/-- Nothing in flight is stranded: its unknown operation is there, and while attempts at it remain and
the next one is due, the worker selects the reservation. -/
structure Database.NothingStranded (database : Database) : Prop where
  confirming : ∀ reservation ∈ database.reservations.rows, reservation.status = .confirming →
    ∃ operation ∈ database.operations.rows, database.Unsettled .confirm reservation.id operation
  releasing : ∀ reservation ∈ database.reservations.rows, reservation.status = .releasing →
    ∃ operation ∈ database.operations.rows, database.Unsettled .release reservation.id operation
  selectable : ∀ reservation ∈ database.reservations.rows,
    reservation.status ∈ [.confirming, .releasing] →
      reservation.isInFlight = true ∧ ∃ operation ∈ database.operations.rows,
        database.operationReservation operation = some reservation.id ∧ operation.status = .unknown ∧
          ∀ now maxAttempts, operation.attemptCount < maxAttempts →
            (∀ nextAttemptAt ∈ operation.nextAttemptAt, nextAttemptAt ≤ now) →
              database.hasReconcilableOperation now maxAttempts reservation = true

/-- What the provider answered, if this was a release request. -/
def Exchange.releaseReply : Exchange → Option ReleaseReply
  | .release _ _ reply => some reply
  | _ => none

/-- The answers to the release requests of a step. -/
def System.releaseReplies (sha256 : String → String) (event : Event) (database : Database) :
    List ReleaseReply :=
  (System.execute sha256 event database).exchanges.filterMap fun entry => entry.2.releaseReply

/-- A pass that is answered "temporarily unavailable" also gets an unknown outcome or leaves one
unknown, or it fails the reservation. -/
def Pass.leavesTrace (environment : Environment) (aggregate : Aggregate) : Pass → Prop
  | .confirm context =>
    (∃ view ∈ aggregate.allocations, confirmation.gets environment context view .temporarilyUnavailable) →
      ∃ view ∈ aggregate.allocations, confirmation.gets environment context view .rejected ∨
        confirmation.gets environment context view .unknown ∨ confirmation.leavesUnknown context view
  | .release context _ =>
    (∃ view ∈ aggregate.allocations, releasing.gets environment context view .temporarilyUnavailable) →
      ∃ view ∈ aggregate.allocations,
        releasing.gets environment context view .unknown ∨ releasing.leavesUnknown context view

instance (environment : Environment) (aggregate : Aggregate) (pass : Pass) :
    Decidable (pass.leavesTrace environment aggregate) :=
  match pass with
  | .confirm context => inferInstanceAs (Decidable ((∃ view ∈ aggregate.allocations,
      confirmation.gets environment context view .temporarilyUnavailable) → _))
  | .release context _ => inferInstanceAs (Decidable ((∃ view ∈ aggregate.allocations,
      releasing.gets environment context view .temporarilyUnavailable) → _))

/-- So do all walks of the event, and the compensation of a create. -/
def Event.leavesTrace (sha256 : String → String) (database : Database) (event : Event) : Prop :=
  match event.request with
  | .create _ _ _ => .attempt .temporarilyUnavailable ∈ System.releaseReplies sha256 event database →
    .attempt .unknown ∈ System.releaseReplies sha256 event database
  | _ => ∀ walk ∈ event.walks database, ∀ before ∈ database.aggregate? walk.reservation.id,
    walk.pass.leavesTrace event.environment before

instance (sha256 : String → String) (database : Database) (event : Event) :
    Decidable (event.leavesTrace sha256 database) := by
  unfold Event.leavesTrace
  split <;> infer_instance

theorem Event.leavesTrace.walk {sha256 : String → String} {database : Database} {event : Event}
    (h : event.leavesTrace sha256 database) {walk : Walk} (hwalk : walk ∈ event.walks database)
    {before : Aggregate} (hb : database.aggregate? walk.reservation.id = some before) :
    walk.pass.leavesTrace event.environment before := by
  obtain ⟨environment, request⟩ := event
  cases request with
  | create userId items idempotencyKey => exact absurd hwalk List.not_mem_nil
  | _ => exact h walk hwalk before hb

/-! ## Walks -/

/-- A reservation in flight has an allocation with an unknown operation of its kind. -/
structure Aggregate.Traceable (aggregate : Aggregate) : Prop where
  confirming : aggregate.reservation.status = .confirming → ∃ view ∈ aggregate.allocations,
    ∃ operation ∈ view.operation .confirm, operation.status = .unknown
  releasing : aggregate.reservation.status = .releasing → ∃ view ∈ aggregate.allocations,
    ∃ operation ∈ view.operation .release, operation.status = .unknown

/-- An unknown outcome is on record after the walk. -/
theorem Settlement.unknown_of_outcome {ω : Type} [DecidableEq ω] {S : Settlement ω} (hS : S.Lawful)
    {environment : Environment} {context : ProviderOperationContext} {view : AllocationView}
    (h : S.outcome environment context view = S.unknown) :
    ∃ operation ∈ (S.settle environment context view).operation S.kind, operation.status = .unknown := by
  rcases outcome_ne_settled (h.symm ▸ hS.unknown_ne_settled) with ⟨ha, he⟩ | ⟨hl, -⟩
  · exact ⟨_, settle_operation_of_asks ha,
      recorded_status_unknown (he.symm.trans h) hS.unknown_ne_settled⟩
  · obtain ⟨-, -, operation, ho, hu⟩ := id hl
    rw [settle_operation_of_not_asks (not_asks_of_leavesUnknown hl)]
    exact ⟨operation, ho, hu.1⟩

section Walks
variable {environment : Environment} {context : ProviderOperationContext} {before after : Aggregate}

theorem Aggregate.Confirmed.traceable (h : before.Confirmed environment context after)
    (hok : (Pass.confirm context).leavesTrace environment before) : after.Traceable := by
  have hpass : (Pass.confirm context).Applies environment before after := h
  refine ⟨fun hs => ?_, fun hs => ?_⟩
  · have hflags : confirmation.flags environment context before.allocations = ⟨true, false⟩ := by
      rcases h.cases with ⟨-, hs'⟩ | ⟨hflags, -⟩ | ⟨-, hs'⟩
      · rw [hs'] at hs
        cases hs
      · exact hflags
      · rw [hs'] at hs
        cases hs
    have hunknown : ∃ view ∈ before.allocations,
        confirmation.outcome environment context view = .unknown := by
      obtain ⟨view, hv, hu | ht⟩ := (confirmation_flags_pending environment context _).mp (by rw [hflags])
      · exact ⟨view, hv, hu⟩
      · have hgets := (Settlement.outcome_eq_iff (by decide) (by decide)).mp ht
        obtain ⟨view', hv', hrejected | hu | hl⟩ := hok ⟨view, hv, hgets⟩
        · have hfailed := (confirmation_flags_rejected environment context _).mpr
            ⟨view', hv', hrejected⟩
          rw [hflags] at hfailed
          cases hfailed
        · exact ⟨view', hv', Settlement.outcome_of_gets hu⟩
        · exact ⟨view', hv', Settlement.outcome_of_leavesUnknown hl⟩
    obtain ⟨view, hv, hu⟩ := hunknown
    refine ⟨confirmation.settle environment context view, ?_,
      Settlement.unknown_of_outcome confirmation_lawful hu⟩
    rw [hpass.allocations]
    exact List.mem_map_of_mem hv
  · rcases h.cases with ⟨-, hs'⟩ | ⟨-, hs'⟩ | ⟨-, hs'⟩
    all_goals
      rw [hs'] at hs
      cases hs

theorem Aggregate.Released.traceable {terminalStatus : ReservationStatusModel}
    (h : before.Released environment context terminalStatus after)
    (hterminal : terminalStatus ∈ [.cancelled, .expired, .failed])
    (hok : (Pass.release context terminalStatus).leavesTrace environment before) : after.Traceable := by
  have hpass : (Pass.release context terminalStatus).Applies environment before after := h
  refine ⟨fun hs => ?_, fun hs => ?_⟩
  · rcases h.cases with ⟨-, hs', -⟩ | ⟨-, hs', -⟩
    · rw [hs'] at hs
      cases hs
    · rw [← hs', hs] at hterminal
      exact absurd hterminal (by decide)
  · have hpending : (releasing.flags environment context before.allocations).pending = true := by
      rcases h.cases with ⟨hpending, -⟩ | ⟨-, hs', -⟩
      · exact hpending
      · rw [← hs', hs] at hterminal
        exact absurd hterminal (by decide)
    have hunknown : ∃ view ∈ before.allocations,
        releasing.outcome environment context view = .unknown := by
      obtain ⟨view, hv, hne⟩ := (releasing_flags_pending environment context _).mp hpending
      cases ho : releasing.outcome environment context view with
      | released => exact absurd ho hne
      | unknown => exact ⟨view, hv, ho⟩
      | temporarilyUnavailable =>
        have hgets := (Settlement.outcome_eq_iff (by decide) (by decide)).mp ho
        obtain ⟨view', hv', hu | hl⟩ := hok ⟨view, hv, hgets⟩
        · exact ⟨view', hv', Settlement.outcome_of_gets hu⟩
        · exact ⟨view', hv', Settlement.outcome_of_leavesUnknown hl⟩
    obtain ⟨view, hv, hu⟩ := hunknown
    refine ⟨releasing.settle environment context view, ?_,
      Settlement.unknown_of_outcome releasing_lawful hu⟩
    rw [hpass.allocations]
    exact List.mem_map_of_mem hv

end Walks

theorem System.mem_releaseReplies {sha256 : String → String} {event : Event} {database : Database}
    {reply : ReleaseReply} :
    reply ∈ releaseReplies sha256 event database ↔
      ∃ providerId command, .release providerId command reply ∈
        (execute sha256 event database).exchanges.map Prod.snd := by
  unfold releaseReplies
  rw [List.mem_filterMap]
  constructor
  · rintro ⟨⟨sent, exchange⟩, he, hr⟩
    cases exchange with
    | release providerId command reply' =>
      cases hr
      exact ⟨providerId, command, List.mem_map_of_mem he⟩
    | _ => cases hr
  · rintro ⟨providerId, command, hm⟩
    obtain ⟨entry, he, hx⟩ := List.mem_map.mp hm
    exact ⟨entry, he, by rw [hx]; rfl⟩

theorem Aggregate.Created.traceable {sha256 : String → String} {event : Event} {database : Database}
    {reservation : Reservation} {held : Bool} {after : Aggregate} {draft : ReservationDraft}
    (hstart : Reservation.start draft = .ok reservation)
    (h : Aggregate.Created event.environment reservation
      ((System.execute sha256 event database).exchanges.map Prod.snd) held after)
    (hok : .attempt .temporarilyUnavailable ∈ System.releaseReplies sha256 event database →
      .attempt .unknown ∈ System.releaseReplies sha256 event database) : after.Traceable := by
  cases h with
  | held _ h =>
    have hs : after.reservation.status = .pending := by
      rw [h.status, (Reservation.start_ok hstart).2.2.2.2.2.1]
      rfl
    refine ⟨fun hc => ?_, fun hr => ?_⟩
    · rw [hs] at hc
      cases hc
    · rw [hs] at hr
      cases hr
  | compensated before _ done hdone h hr hreplies =>
    refine hr.traceable (by decide) ?_
    rintro ⟨view, hv, ha, hreply⟩
    have hsent := System.mem_releaseReplies.mpr ((hreplies _).mp ⟨view, hv, ha, hreply⟩)
    obtain ⟨view', hv', ha', hreply'⟩ := (hreplies _).mpr (System.mem_releaseReplies.mp (hok hsent))
    exact ⟨view', hv', Or.inl ⟨ha', hreply'⟩⟩

/-! ## Runs -/

namespace System
variable {sha256 : String → String}

theorem maintains_traceable :
    Maintains sha256 (fun database event => event.leavesTrace sha256 database) Aggregate.Traceable where
  created hok hrequest hstart hcreated := by
    unfold Event.leavesTrace at hok
    rw [hrequest] at hok
    exact hcreated.traceable hstart hok
  walked := by
    intro database event walk before after hok hwalk _ _ hb _ happlies _
    have htrace := hok.walk hwalk hb
    obtain ⟨model, pass⟩ := walk
    cases pass with
    | confirm context => exact Aggregate.Confirmed.traceable happlies htrace
    | release context terminalStatus => exact Aggregate.Released.traceable happlies (event.terminal hwalk) htrace

/-- A traceable reservation has its unknown operation in the database. -/
theorem unsettled_of_view {database : Database} (hwf : database.WellFormed) {reservation : ReservationModel}
    {aggregate : Aggregate} (ha : database.aggregate? reservation.id = some aggregate)
    (kind : SettlementKind)
    (h : ∃ view ∈ aggregate.allocations, ∃ operation ∈ view.operation kind, operation.status = .unknown) :
    ∃ operation ∈ database.operations.rows,
      database.Unsettled kind.operationType reservation.id operation := by
  obtain ⟨view, hv, operation, ho, hu⟩ := h
  obtain ⟨hmem, htype, howner⟩ := hwf.operation_of_view ha hv ho
  exact ⟨operation, hmem, howner, htype, hu⟩

/-- An unknown operation makes its reservation selectable. -/
theorem hasReconcilableOperation_of_unsettled {database : Database} {reservation : ReservationModel}
    (kind : SettlementKind) {operation : ProviderOperationModel}
    (hmem : operation ∈ database.operations.rows)
    (hunsettled : database.Unsettled kind.operationType reservation.id operation)
    (hstatus : (reservation.status = .releasing ∧ kind = .release) ∨
      (reservation.status = .confirming ∧ kind = .confirm))
    {now : Instant} {maxAttempts : ℕ} (hattempts : operation.attemptCount < maxAttempts)
    (hdue : ∀ nextAttemptAt ∈ operation.nextAttemptAt, nextAttemptAt ≤ now) :
    database.hasReconcilableOperation now maxAttempts reservation = true := by
  refine List.any_eq_true.mpr ⟨operation, hmem, decide_eq_true ?_⟩
  refine ⟨hunsettled.1, hunsettled.2.2, hattempts, hdue, ?_⟩
  rw [hunsettled.2.1]
  rcases hstatus with ⟨hs, rfl⟩ | ⟨hs, rfl⟩
  · exact Or.inl ⟨hs, rfl⟩
  · exact Or.inr ⟨hs, rfl⟩

theorem nothingStranded_of_traceable {database : Database} (hsound : database.Sound)
    (h : ∀ r aggregate, database.aggregate? r = some aggregate → aggregate.Traceable) :
    database.NothingStranded := by
  have hstored : ∀ reservation ∈ database.reservations.rows,
      ∃ aggregate, database.aggregate? reservation.id = some aggregate ∧
        aggregate.reservation = reservation := fun reservation hr =>
    ⟨⟨reservation, _, _, _⟩,
      Database.aggregate?_eq_some_iff.mpr ⟨Table.find?_of_mem hr, rfl, rfl, rfl⟩, rfl⟩
  have hconfirming : ∀ reservation ∈ database.reservations.rows, reservation.status = .confirming →
      ∃ operation ∈ database.operations.rows, database.Unsettled .confirm reservation.id operation := by
    intro reservation hr hs
    obtain ⟨aggregate, ha, hreservation⟩ := hstored reservation hr
    exact unsettled_of_view hsound.wellFormed ha .confirm
      ((h _ _ ha).confirming (hreservation ▸ hs))
  have hreleasing : ∀ reservation ∈ database.reservations.rows, reservation.status = .releasing →
      ∃ operation ∈ database.operations.rows, database.Unsettled .release reservation.id operation := by
    intro reservation hr hs
    obtain ⟨aggregate, ha, hreservation⟩ := hstored reservation hr
    exact unsettled_of_view hsound.wellFormed ha .release
      ((h _ _ ha).releasing (hreservation ▸ hs))
  refine ⟨hconfirming, hreleasing, fun reservation hr hs => ?_⟩
  have hs : reservation.status = .confirming ∨ reservation.status = .releasing := by simpa using hs
  rcases hs with hs | hs
  · obtain ⟨operation, hmem, hunsettled⟩ := hconfirming reservation hr hs
    refine ⟨decide_eq_true (Or.inr hs), operation, hmem, hunsettled.1, hunsettled.2.2, ?_⟩
    exact fun now maxAttempts hattempts hdue => hasReconcilableOperation_of_unsettled .confirm
      hmem hunsettled (Or.inr ⟨hs, rfl⟩) hattempts hdue
  · obtain ⟨operation, hmem, hunsettled⟩ := hreleasing reservation hr hs
    obtain ⟨aggregate, ha, hreservation⟩ := hstored reservation hr
    have htarget : reservation.releaseTargetStatus ∈
        [some .cancelled, some .expired, some .failed] := by
      have hsome := (hsound.aggregates _ _ ha).releasing (hreservation ▸ hs)
      have hmem := (hsound.aggregates _ _ ha).target
      rw [hreservation] at hsome hmem
      rcases List.mem_cons.mp hmem with hnone | hmem
      · rw [hnone] at hsome
        cases hsome
      · exact hmem
    refine ⟨decide_eq_true (Or.inl ⟨hs, htarget⟩), operation, hmem, hunsettled.1, hunsettled.2.2, ?_⟩
    exact fun now maxAttempts hattempts hdue => hasReconcilableOperation_of_unsettled .release
      hmem hunsettled (Or.inl ⟨hs, rfl⟩) hattempts hdue

/-- As long as every walk that is answered "temporarily unavailable" also leaves an unknown outcome or
fails its reservation, nothing in flight is stranded. -/
theorem run_nothing_stranded {database : Database} {events : List Event} (hinit : database.Initial)
    (hadmissible : Runs.Admissible (step sha256)
      (fun database event => event.leavesTrace sha256 database) database events) :
    (run sha256 database events).NothingStranded :=
  nothingStranded_of_traceable (run_sound sha256 hinit events)
    (maintains_traceable.run hinit hadmissible)

/-- A confirmation without an answer and a cancellation without one. -/
theorem run_nothing_stranded_unknown :
    (run Deployment.sha256 Deployment.database
      [Deployment.create 1000 100 0 [Deployment.line 1 10 2, Deployment.line 2 20 1] "a",
        Deployment.confirming .unknown (Deployment.confirm 1100 100 10),
        Deployment.create 1200 200 20 [Deployment.line 3 20 1] "b",
        Deployment.releasing .unknown (Deployment.cancel 1300 200 30)]).NothingStranded :=
  run_nothing_stranded Deployment.initial (by decide +kernel)

/-- A provider that is temporarily unavailable strands the reservation it should confirm. -/
theorem confirm_strands_unavailable :
    ¬ ∀ (sha256 : String → String) (database : Database) (events : List Event),
      database.Initial → (run sha256 database events).NothingStranded := by
  intro h
  refine absurd (h Deployment.sha256 Deployment.database
    [Deployment.create 1000 100 0 [Deployment.line 2 20 1] "a",
      Deployment.confirming .temporarilyUnavailable (Deployment.confirm 1100 100 10)]
    Deployment.initial).confirming ?_
  decide +kernel

end System
end InventoryReservation
