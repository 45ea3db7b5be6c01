import InventoryReservation.Guarantees.InFlight

/-! # Unknown outcomes stay unknown

An operation recorded as unknown stays unknown, and its allocation is not held again, until an attempt
with its key gets a conclusive answer, as long as no provider answers "temporarily unavailable" to a
request for an allocation with an unknown operation: that answer is recorded as a failure and sets the
allocation back.
-/

namespace InventoryReservation
set_option autoImplicit false

open Relational

/-- The key of an attempt that got a conclusive answer. -/
def Exchange.concluded : Exchange → Option ProviderKey
  | .confirm _ command (.attempt .confirmed) => some command.idempotencyKey
  | .confirm _ command (.attempt .rejected) => some command.idempotencyKey
  | .release _ command (.attempt .released) => some command.idempotencyKey
  | _ => none

/-- The operation under this key is unknown, and its allocation is not held. -/
def Database.UnknownAt (database : Database) (key : ProviderKey) : Prop :=
  ∃ operation ∈ database.operations.find? key, operation.status = .unknown ∧
    ∀ allocation ∈ database.allocations.find? operation.allocationId, allocation.status ≠ .held

instance (database : Database) (key : ProviderKey) : Decidable (database.UnknownAt key) :=
  inferInstanceAs (Decidable (∃ operation ∈ database.operations.find? key, _))

/-- A step in which an attempt with this key is answered conclusively. -/
def System.Concludes (sha256 : String → String) (key : ProviderKey) (database : Database) (event : Event) :
    Prop :=
  ∃ entry ∈ (System.execute sha256 event database).exchanges, entry.2.concluded = some key

instance (sha256 : String → String) (key : ProviderKey) (database : Database) (event : Event) :
    Decidable (System.Concludes sha256 key database event) :=
  inferInstanceAs (Decidable (∃ entry ∈ (System.execute sha256 event database).exchanges, _))

/-- What is unknown in this database is unknown after the events, unless it was concluded in between. -/
structure System.UnknownStays (sha256 : String → String) (database : Database) (events : List Event) :
    Prop where
  stays : ∀ operation ∈ database.operations.rows, operation.status = .unknown →
    Runs.Occurs (System.step sha256) (System.Concludes sha256 operation.idempotencyKey) database events ∨
      (System.run sha256 database events).UnknownAt operation.idempotencyKey

/-- The allocation has an operation with an unknown outcome. -/
def AllocationView.HasUnknown (view : AllocationView) : Prop :=
  ∃ kind ∈ [SettlementKind.confirm, .release], ∃ operation ∈ view.operation kind,
    operation.status = .unknown

instance (view : AllocationView) : Decidable view.HasUnknown :=
  inferInstanceAs (Decidable (∃ kind ∈ [SettlementKind.confirm, .release], _))

theorem AllocationView.hasUnknown_of {view : AllocationView} {kind : SettlementKind}
    {operation : ProviderOperationModel} (ho : view.operation kind = some operation)
    (hu : operation.status = .unknown) : view.HasUnknown := by
  refine ⟨kind, ?_, operation, ho, hu⟩
  cases kind <;> decide

/-- No request of the pass for an allocation with an unknown operation is answered "temporarily
unavailable". -/
def Pass.reaches (environment : Environment) (aggregate : Aggregate) : Pass → Prop
  | .confirm context => ∀ view ∈ aggregate.allocations, view.HasUnknown →
    ¬ confirmation.gets environment context view .temporarilyUnavailable
  | .release context _ => ∀ view ∈ aggregate.allocations, view.HasUnknown →
    ¬ releasing.gets environment context view .temporarilyUnavailable

instance (environment : Environment) (aggregate : Aggregate) (pass : Pass) :
    Decidable (pass.reaches environment aggregate) :=
  match pass with
  | .confirm _ => inferInstanceAs (Decidable (∀ view ∈ aggregate.allocations, _))
  | .release _ _ => inferInstanceAs (Decidable (∀ view ∈ aggregate.allocations, _))

def Event.reaches (database : Database) (event : Event) : Prop :=
  ∀ walk ∈ event.walks database, ∀ before ∈ database.aggregate? walk.reservation.id,
    walk.pass.reaches event.environment before

instance (database : Database) (event : Event) : Decidable (event.reaches database) :=
  inferInstanceAs (Decidable (∀ walk ∈ event.walks database, _))

/-! ## One allocation -/

section Allocation
variable {environment : Environment} {context : ProviderOperationContext} {view : AllocationView}

/-- An unknown operation stays unknown, or its own walk was answered otherwise. -/
theorem Settlement.unknown_or_answered {ω : Type} [DecidableEq ω] {S : Settlement ω} (hS : S.Lawful)
    {kind : SettlementKind} {operation : ProviderOperationModel}
    (ho : view.operation kind = some operation) (hu : operation.status = .unknown) :
    (∃ operation' ∈ (S.settle environment context view).operation kind, operation'.status = .unknown) ∨
      (kind = S.kind ∧ S.asks context view ∧ S.answer environment context view ≠ S.unknown) := by
  by_cases hk : kind = S.kind
  · by_cases ha : S.asks context view
    · by_cases hanswer : S.answer environment context view = S.unknown
      · left
        rw [hk, settle_operation_of_asks ha]
        exact ⟨_, rfl, recorded_status_unknown hanswer hS.unknown_ne_settled⟩
      · exact Or.inr ⟨hk, ha, hanswer⟩
    · left
      rw [settle_operation_of_not_asks ha]
      exact ⟨operation, ho, hu⟩
  · left
    rw [settle_operation_of_ne hk]
    exact ⟨operation, ho, hu⟩

/-- An operation unknown after a walk was so before, or the walk left it so. -/
theorem Settlement.hasUnknown_of_settle {ω : Type} [DecidableEq ω] {S : Settlement ω}
    (h : (S.settle environment context view).HasUnknown) :
    view.HasUnknown ∨ S.outcome environment context view = S.unknown := by
  obtain ⟨kind, -, operation, ho, hu⟩ := h
  rw [Option.mem_def] at ho
  by_cases hk : kind = S.kind
  · by_cases ha : S.asks context view
    · rw [hk, settle_operation_of_asks ha] at ho
      rw [← Option.some.inj ho] at hu
      right
      rw [outcome_of_asks ha]
      by_contra hne
      by_cases hs : S.answer environment context view = S.settled
      · rw [recorded_status_settled hs] at hu
        cases hu
      · rw [recorded_status_failed hs hne] at hu
        cases hu
    · rw [settle_operation_of_not_asks ha] at ho
      exact Or.inl (AllocationView.hasUnknown_of ho hu)
  · rw [settle_operation_of_ne hk] at ho
    exact Or.inl (AllocationView.hasUnknown_of ho hu)

/-- A walk sets an allocation back only when its provider says "temporarily unavailable". -/
theorem confirmation_held (h : (confirmation.settle environment context view).allocation.status = .held) :
    confirmation.gets environment context view .temporarilyUnavailable := by
  rw [Settlement.settle_status] at h
  refine (Settlement.outcome_eq_iff (by decide) (by decide)).mp ?_
  cases ho : confirmation.outcome environment context view with
  | temporarilyUnavailable => rfl
  | confirmed =>
    rw [ho] at h
    cases h
  | rejected =>
    rw [ho] at h
    cases h
  | unknown =>
    rw [ho] at h
    cases h

theorem releasing_held (h : (releasing.settle environment context view).allocation.status = .held) :
    releasing.gets environment context view .temporarilyUnavailable := by
  rw [Settlement.settle_status] at h
  refine (Settlement.outcome_eq_iff (by decide) (by decide)).mp ?_
  cases ho : releasing.outcome environment context view with
  | temporarilyUnavailable => rfl
  | released =>
    rw [ho] at h
    cases h
  | unknown =>
    rw [ho] at h
    cases h

/-- A conclusive answer leaves a call of the step with its key. -/
theorem concluded_of_confirmation {exchanges : List (Database × Exchange)}
    (ha : confirmation.asks context view) (hanswered : confirmation.answered environment context view exchanges)
    (hanswer : confirmation.answer environment context view ≠ .unknown)
    (hreaches : ¬ confirmation.gets environment context view .temporarilyUnavailable) :
    ∃ entry ∈ exchanges,
      entry.2.concluded = some (.confirm context.reservationId view.allocation.id) := by
  obtain ⟨hreply, database, hmem⟩ := hanswered
  refine ⟨_, hmem, ?_⟩
  rw [hreply]
  cases ho : confirmation.answer environment context view with
  | confirmed => rfl
  | rejected => rfl
  | unknown => exact absurd ho hanswer
  | temporarilyUnavailable =>
    rw [ho] at hreply
    exact absurd ⟨ha, hreply⟩ hreaches

theorem concluded_of_releasing {exchanges : List (Database × Exchange)}
    (ha : releasing.asks context view) (hanswered : releasing.answered environment context view exchanges)
    (hanswer : releasing.answer environment context view ≠ .unknown)
    (hreaches : ¬ releasing.gets environment context view .temporarilyUnavailable) :
    ∃ entry ∈ exchanges,
      entry.2.concluded = some (.release context.reservationId view.allocation.id) := by
  obtain ⟨hreply, database, hmem⟩ := hanswered
  refine ⟨_, hmem, ?_⟩
  rw [hreply]
  cases ho : releasing.answer environment context view with
  | released => rfl
  | unknown => exact absurd ho hanswer
  | temporarilyUnavailable =>
    rw [ho] at hreply
    exact absurd ⟨ha, hreply⟩ hreaches

end Allocation

/-! ## Reservations -/

/-- No allocation with an unknown operation is held. -/
structure Aggregate.Unheld (aggregate : Aggregate) : Prop where
  unheld : ∀ view ∈ aggregate.allocations, view.HasUnknown → view.allocation.status ≠ .held

theorem Aggregate.Unheld.of_pass {environment : Environment} {pass : Pass} {before after : Aggregate}
    (hok : pass.reaches environment before) (hpass : pass.Applies environment before after) :
    after.Unheld := by
  refine ⟨fun view hv hunknown hheld => ?_⟩
  obtain ⟨view', hv', rfl⟩ := hpass.mem_allocations hv
  cases pass with
  | confirm context =>
    have hgets := confirmation_held hheld
    rcases Settlement.hasUnknown_of_settle hunknown with hbefore | houtcome
    · exact hok view' hv' hbefore hgets
    · rw [Settlement.outcome_of_gets hgets] at houtcome
      cases houtcome
  | release context terminalStatus =>
    have hgets := releasing_held hheld
    rcases Settlement.hasUnknown_of_settle hunknown with hbefore | houtcome
    · exact hok view' hv' hbefore hgets
    · rw [Settlement.outcome_of_gets hgets] at houtcome
      cases houtcome

theorem Aggregate.Opened.not_hasUnknown {environment : Environment} {reservation : Reservation}
    {done : List ReservationItemModel} {aggregate : Aggregate}
    (h : aggregate.Opened environment reservation done) {view : AllocationView}
    (hv : view ∈ aggregate.allocations) : ¬ view.HasUnknown := by
  rintro ⟨kind, -, operation, ho, -⟩
  rw [h.fresh view hv kind] at ho
  cases ho

theorem Aggregate.Created.unheld {environment : Environment} {reservation : Reservation}
    {exchanges : List Exchange} {held : Bool} {after : Aggregate}
    (h : Aggregate.Created environment reservation exchanges held after) : after.Unheld := by
  cases h with
  | held _ h => exact ⟨fun view hv hunknown => absurd hunknown (h.not_hasUnknown hv)⟩
  | compensated before _ done hdone h hr =>
    have hpass : (Pass.release (.request reservation.id) .failed).Applies environment before after := hr
    refine .of_pass ?_ hpass
    exact fun view hv hunknown => absurd hunknown (h.not_hasUnknown hv)

/-! ## Runs -/

namespace System
variable {sha256 : String → String}

theorem maintains_unheld :
    Maintains sha256 (fun database event => event.reaches database) Aggregate.Unheld where
  created _ _ _ hcreated := hcreated.unheld
  walked hok hwalk _ _ hb _ happlies _ := .of_pass (hok _ hwalk _ hb) happlies

/-- One step keeps an unknown operation unknown or concludes it. -/
theorem step_unknown {database : Database} {event : Event} (hsound : database.Sound)
    (hok : event.reaches database) {key : ProviderKey}
    (h : ∃ operation ∈ database.operations.find? key, operation.status = .unknown) :
    Concludes sha256 key database event ∨
      ∃ operation ∈ (step sha256 database event).operations.find? key, operation.status = .unknown := by
  obtain ⟨operation, ho, hu⟩ := h
  have hstep := step_operation sha256 hsound event ho
  generalize (step sha256 database event).operations.find? key = after at hstep
  cases hstep with
  | kept => exact Or.inr ⟨operation, rfl, hu⟩
  | settled walk before view kind hwalk hb hv hview hkey hanswered =>
    have hcontext := event.walk_context hwalk
    have hreaches := hok walk hwalk before hb
    obtain ⟨reservation, pass⟩ := walk
    cases pass with
    | confirm context =>
      rcases Settlement.unknown_or_answered confirmation_lawful hview hu with hs | ⟨hk, hasks, hanswer⟩
      · exact Or.inr hs
      · left
        have hcontext : context.reservationId = reservation.id := hcontext
        rw [hkey, hk, ← hcontext]
        exact concluded_of_confirmation hasks (hanswered hasks) hanswer
          (hreaches view hv (AllocationView.hasUnknown_of hview hu))
    | release context terminalStatus =>
      rcases Settlement.unknown_or_answered releasing_lawful hview hu with hs | ⟨hk, hasks, hanswer⟩
      · exact Or.inr hs
      · left
        have hcontext : context.reservationId = reservation.id := hcontext
        rw [hkey, hk, ← hcontext]
        exact concluded_of_releasing hasks (hanswered hasks) hanswer
          (hreaches view hv (AllocationView.hasUnknown_of hview hu))

/-- An unknown operation of a database without held allocations of such operations. -/
theorem unknownAt_of_unheld {database : Database} (hsound : database.Sound)
    (hunheld : ∀ r aggregate, database.aggregate? r = some aggregate → aggregate.Unheld)
    {key : ProviderKey}
    (h : ∃ operation ∈ database.operations.find? key, operation.status = .unknown) :
    database.UnknownAt key := by
  obtain ⟨operation, ho, hu⟩ := h
  refine ⟨operation, ho, hu, fun allocation hallocation => ?_⟩
  obtain ⟨kind, r, aggregate, view, ha, hv, hid, -, hview, -⟩ := hsound.wellFormed.view_of_operation ho
  have hmem := Database.mem_allocations_of_view ha hv
  have hsame : view.allocation = allocation :=
    Table.eq_of_key_eq hmem (Table.mem_of_find? hallocation) (hid.trans (Table.key_of_find? hallocation).symm)
  rw [← hsame]
  exact (hunheld r aggregate ha).unheld view hv (AllocationView.hasUnknown_of hview hu)

/-- As long as no request for an allocation with an unknown operation is answered "temporarily
unavailable", what is unknown stays unknown until it is concluded. -/
theorem run_unknown_stays {database : Database} {events later : List Event} (hinit : database.Initial)
    (hadmissible : Runs.Admissible (step sha256) (fun database event => event.reaches database) database
      (events ++ later)) :
    UnknownStays sha256 (run sha256 database events) later := by
  obtain ⟨-, hlater⟩ := Runs.Admissible.append_iff.mp hadmissible
  refine ⟨fun operation ho hu => ?_⟩
  have huntil := Runs.run_until (I := Database.Sound)
    (J := fun database => ∃ other ∈ database.operations.find? operation.idempotencyKey,
      other.status = .unknown)
    (fun _ event hsound _ => step_sound sha256 hsound event)
    (fun _ _ hsound hok hunknown => step_unknown hsound hok hunknown) (run_sound sha256 hinit events)
    ⟨operation, Table.find?_of_mem ho, hu⟩ hlater
  refine huntil.imp id fun hunknown => ?_
  have happend : run sha256 database (events ++ later) =
      Runs.run (step sha256) (run sha256 database events) later := Runs.run_append _ _ _ _
  change (Runs.run (step sha256) (run sha256 database events) later).UnknownAt _
  rw [← happend] at hunknown ⊢
  exact unknownAt_of_unheld (run_sound sha256 hinit _) (maintains_unheld.run hinit hadmissible) hunknown

/-- A confirmation stays unknown through a second unknown answer and an exhausted reconciliation. -/
theorem run_unknown_stays_reconciled :
    UnknownStays Deployment.sha256 (run Deployment.sha256 Deployment.database
        [Deployment.create 1000 100 0 [Deployment.line 2 20 1] "a",
          Deployment.confirming .unknown (Deployment.confirm 1100 100 10)])
      [Deployment.confirming .unknown (Deployment.reconcile 1200 20),
        Deployment.confirm 1300 100 100000000] :=
  run_unknown_stays Deployment.initial (by decide +kernel)

/-- A reconciliation that does not reach the provider turns an unknown outcome into a failure. -/
theorem reconcile_fails_unknown :
    ¬ ∀ (sha256 : String → String) (database : Database) (events later : List Event),
      database.Initial → UnknownStays sha256 (run sha256 database events) later := by
  intro h
  refine absurd (h Deployment.sha256 Deployment.database
    [Deployment.create 1000 100 0 [Deployment.line 2 20 1] "a",
      Deployment.confirming .unknown (Deployment.confirm 1100 100 10)]
    [Deployment.confirming .temporarilyUnavailable (Deployment.reconcile 1200 100000000)]
    Deployment.initial).stays ?_
  decide +kernel

end System
end InventoryReservation
