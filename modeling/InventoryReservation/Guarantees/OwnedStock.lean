import InventoryReservation.Guarantees.Lifecycle

/-! # Reservations that ended without an order

Every allocation of a failed, cancelled or expired reservation has been released, or its provider has
rejected it, as long as no confirming walk gets a rejection for some allocations and not for others: a
rejection fails the reservation on the spot, and nothing gives back what the other allocations have.
-/

namespace InventoryReservation
set_option autoImplicit false

open Relational

/-- The allocation has no units: it is released, or its external provider rejected it, as the row of
the confirm operation says. -/
def AllocationView.GivenUp (view : AllocationView) : Prop :=
  view.allocation.status = .released ∨
    (view.allocation.status = .failed ∧ view.provider.kind = .external ∧
      ∃ operation ∈ view.operation .confirm,
        operation.status = .failed ∧ operation.errorCode = some "rejected")

instance (view : AllocationView) : Decidable view.GivenUp :=
  inferInstanceAs (Decidable (_ ∨ _))

/-- Reservations that ended without an order own no stock. -/
def Database.EndedOwnNothing (database : Database) : Prop :=
  ∀ reservation ∈ database.reservations.rows, reservation.status ∈ [.failed, .cancelled, .expired] →
    ∀ view ∈ database.allocationViews reservation.id, view.GivenUp

instance (database : Database) : Decidable database.EndedOwnNothing :=
  inferInstanceAs (Decidable (∀ reservation ∈ database.reservations.rows, _))

/-- A confirming pass is rejected for every allocation or for none. -/
def Pass.rejectsWhole (environment : Environment) (aggregate : Aggregate) : Pass → Prop
  | .confirm context =>
    (∃ view ∈ aggregate.allocations, confirmation.gets environment context view .rejected) →
      ∀ view ∈ aggregate.allocations, confirmation.gets environment context view .rejected
  | .release _ _ => True

instance (environment : Environment) (aggregate : Aggregate) (pass : Pass) :
    Decidable (pass.rejectsWhole environment aggregate) :=
  match pass with
  | .confirm context => inferInstanceAs (Decidable
      ((∃ view ∈ aggregate.allocations, confirmation.gets environment context view .rejected) →
        ∀ view ∈ aggregate.allocations, confirmation.gets environment context view .rejected))
  | .release _ _ => isTrue trivial

/-- Every walk of the event is over a reservation that providers reject as a whole or not at all. -/
def Event.rejectsWhole (database : Database) (event : Event) : Prop :=
  ∀ walk ∈ event.walks database, ∀ before ∈ database.aggregate? walk.reservation.id,
    walk.pass.rejectsWhole event.environment before

instance (database : Database) (event : Event) : Decidable (event.rejectsWhole database) :=
  inferInstanceAs (Decidable (∀ walk ∈ event.walks database, _))

/-! ## Walks -/

/-- What an ended reservation looks like, and what a failed allocation says. -/
structure Aggregate.Ended (aggregate : Aggregate) : Prop where
  givenUp : aggregate.reservation.status ∈ [.failed, .cancelled, .expired] →
    ∀ view ∈ aggregate.allocations, view.GivenUp

section Walks
variable {environment : Environment} {context : ProviderOperationContext} {before after : Aggregate}

/-- A rejected allocation has failed, and its operation says why. -/
theorem AllocationView.givenUp_of_rejected {view : AllocationView}
    (h : confirmation.gets environment context view .rejected) :
    (confirmation.settle environment context view).GivenUp := by
  have hanswer := Settlement.answer_of_gets h
  have houtcome := Settlement.outcome_of_gets h
  have hsettled : confirmation.answer environment context view ≠ confirmation.settled := by
    rw [hanswer]
    decide
  have hunknown : confirmation.answer environment context view ≠ confirmation.unknown := by
    rw [hanswer]
    decide
  refine Or.inr ⟨?_, h.1.2.1, confirmation.recorded environment context view,
    Settlement.settle_operation_of_asks h.1, Settlement.recorded_status_failed hsettled hunknown, ?_⟩
  · rw [Settlement.settle_status, houtcome]
    rfl
  · rw [Settlement.recorded_errorCode_failed hsettled hunknown, hanswer]
    rfl

theorem Aggregate.Confirmed.ended (h : before.Confirmed environment context after)
    (hok : (Pass.confirm context).rejectsWhole environment before) : after.Ended := by
  have hpass : (Pass.confirm context).Applies environment before after := h
  refine ⟨fun hs view hv => ?_⟩
  obtain ⟨view', hv', rfl⟩ := hpass.mem_allocations hv
  rcases h.cases with ⟨hfailed, -⟩ | ⟨-, hs'⟩ | ⟨-, hs'⟩
  · have hrejected := (confirmation_flags_rejected _ _ _).mp hfailed
    exact AllocationView.givenUp_of_rejected (hok hrejected view' hv')
  · rw [hs'] at hs
    exact absurd hs (by decide)
  · rw [hs'] at hs
    exact absurd hs (by decide)

theorem Aggregate.Released.ended {terminalStatus : ReservationStatusModel}
    (h : before.Released environment context terminalStatus after) : after.Ended := by
  have hpass : (Pass.release context terminalStatus).Applies environment before after := h
  refine ⟨fun hs view hv => ?_⟩
  obtain ⟨view', hv', rfl⟩ := hpass.mem_allocations hv
  rcases h.cases with ⟨-, hs', -⟩ | ⟨hflags, -⟩
  · rw [hs'] at hs
    exact absurd hs (by decide)
  · refine Or.inl ?_
    exact congrArg releasing.allocationStatus
      (outcome_of_releasing_flags environment context hflags view' hv')

theorem Aggregate.Created.ended {reservation : Reservation} {exchanges : List Exchange} {held : Bool}
    {draft : ReservationDraft} (hstart : Reservation.start draft = .ok reservation)
    (h : Aggregate.Created environment reservation exchanges held after) : after.Ended := by
  cases h with
  | held _ h =>
    refine ⟨fun hs => ?_⟩
    rw [h.status, (Reservation.start_ok hstart).2.2.2.2.2.1] at hs
    exact absurd hs (by decide)
  | compensated before _ done hdone h hr => exact hr.ended

end Walks

/-! ## Runs -/

namespace System
variable {sha256 : String → String}

theorem maintains_ended :
    Maintains sha256 (fun database event => event.rejectsWhole database) Aggregate.Ended where
  created _ _ hstart hcreated := hcreated.ended hstart
  walked := by
    intro database event walk before after hok hwalk _ _ hb _ happlies _
    have hwhole := hok walk hwalk before hb
    obtain ⟨model, pass⟩ := walk
    cases pass with
    | confirm context => exact Aggregate.Confirmed.ended happlies hwhole
    | release context terminalStatus => exact Aggregate.Released.ended happlies

/-- As long as no confirming walk is rejected in part, reservations that ended without an order own no
stock. -/
theorem run_ended_own_nothing {database : Database} {events : List Event} (hinit : database.Initial)
    (hadmissible : Runs.Admissible (step sha256)
      (fun database event => event.rejectsWhole database) database events) :
    (run sha256 database events).EndedOwnNothing := by
  intro reservation hr hs view hv
  have hfound := Table.find?_of_mem hr
  exact (maintains_ended.run hinit hadmissible reservation.id ⟨reservation, _, _, _⟩
    (Database.aggregate?_eq_some_iff.mpr ⟨hfound, rfl, rfl, rfl⟩)).givenUp hs view hv

/-- A reservation its provider rejects as a whole, and one that is cancelled. -/
theorem run_ended_own_nothing_rejected :
    (run Deployment.sha256 Deployment.database
      [Deployment.create 1000 100 0 [Deployment.line 2 20 1, Deployment.line 3 20 1] "a",
        Deployment.confirming .rejected (Deployment.confirm 1100 100 10),
        Deployment.create 1200 200 20 [Deployment.line 1 10 2, Deployment.line 2 20 1] "b",
        Deployment.cancel 1300 200 30]).EndedOwnNothing :=
  run_ended_own_nothing Deployment.initial (by decide +kernel)

/-- A rejection fails the reservation while another of its allocations is confirmed. -/
theorem confirm_keeps_rejected :
    ¬ ∀ (sha256 : String → String) (database : Database) (events : List Event),
      database.Initial → (run sha256 database events).EndedOwnNothing := by
  intro h
  refine absurd (h Deployment.sha256 Deployment.database
    [Deployment.create 1000 100 0 [Deployment.line 1 10 2, Deployment.line 2 20 1] "a",
      Deployment.confirming .rejected (Deployment.confirm 1100 100 10)] Deployment.initial) ?_
  decide +kernel

end System
end InventoryReservation
