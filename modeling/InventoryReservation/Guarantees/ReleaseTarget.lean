import InventoryReservation.Meaning.Reachable
import InventoryReservation.System.Deployment

/-! # The release target

A reservation that is being released stores the status it is meant to end in, and no other reservation
stores one. The releasing walk writes status and target together; the confirming walk writes the status
alone, and the guards of `confirm` let a releasing reservation through.
-/

namespace InventoryReservation
set_option autoImplicit false

open Relational

/-- A target is stored exactly while releasing, and it is a status releases can end in. -/
structure ReservationModel.Targeted (reservation : ReservationModel) : Prop where
  iff_releasing : reservation.releaseTargetStatus.isSome ↔ reservation.status = .releasing
  terminal : ∀ target ∈ reservation.releaseTargetStatus, target ∈ [.cancelled, .expired, .failed]

/-- So in every reservation. -/
structure Database.AllTargeted (database : Database) : Prop where
  targeted : ∀ reservation ∈ database.reservations, reservation.Targeted

/-- A confirm is not addressed to a reservation that is being released. -/
def Request.sparesReleasing (database : Database) : Request → Prop
  | .confirm reservationId userId =>
    ∀ reservation ∈ database.findOwned reservationId userId, reservation.status ≠ .releasing
  | _ => True

instance (database : Database) (request : Request) : Decidable (request.sparesReleasing database) :=
  match request with
  | .confirm _ _ => inferInstanceAs (Decidable (∀ reservation ∈ database.findOwned _ _, _))
  | .cancel _ _ => isTrue trivial
  | .create _ _ _ => isTrue trivial
  | .expireBatch _ => isTrue trivial
  | .reconcileBatch _ _ _ => isTrue trivial
  | .setLevel _ _ _ _ _ => isTrue trivial
  | .removeLevel _ _ => isTrue trivial

/-! ## What walks leave -/

section Walks
variable {environment : Environment} {context : ProviderOperationContext} {before after : Aggregate}

theorem ReservationModel.Targeted.of_none {reservation : ReservationModel}
    (htarget : reservation.releaseTargetStatus = none) (hstatus : reservation.status ≠ .releasing) :
    reservation.Targeted where
  iff_releasing := by
    rw [htarget]
    exact ⟨nofun, fun h => absurd h hstatus⟩
  terminal := by
    rw [htarget]
    exact nofun

/-- A releasing walk leaves a matching pair, whatever it started from. -/
theorem Aggregate.Released.targeted {terminalStatus : ReservationStatusModel}
    (hterminal : terminalStatus ∈ [.cancelled, .expired, .failed])
    (h : before.Released environment context terminalStatus after) : after.reservation.Targeted := by
  rcases h.cases with ⟨-, hs, ht⟩ | ⟨-, hs, ht⟩
  · refine ⟨?_, ?_⟩
    · rw [hs, ht]
      exact ⟨fun _ => rfl, fun _ => rfl⟩
    · rw [ht]
      rintro target ⟨⟩
      exact hterminal
  · refine .of_none ht ?_
    rw [hs]
    rintro rfl
    exact absurd hterminal (by decide)

/-- A confirming walk keeps the target, so it needs to start without one. -/
theorem Aggregate.Confirmed.targeted (h : before.Confirmed environment context after)
    (hbefore : before.reservation.Targeted) (hstatus : before.reservation.status ≠ .releasing) :
    after.reservation.Targeted := by
  have hnone : before.reservation.releaseTargetStatus = none :=
    Option.not_isSome_iff_eq_none.mp fun hsome => hstatus (hbefore.iff_releasing.mp hsome)
  refine .of_none (h.releaseTargetStatus.trans hnone) ?_
  rcases h.cases with ⟨-, hs⟩ | ⟨-, hs⟩ | ⟨-, hs⟩
  all_goals
    rw [hs]
    decide

theorem Aggregate.Created.targeted {reservation : Reservation} {exchanges : List Exchange} {held : Bool}
    {draft : ReservationDraft} (hstart : Reservation.start draft = .ok reservation)
    (h : Aggregate.Created environment reservation exchanges held after) :
    after.reservation.Targeted := by
  cases h with
  | held _ h =>
    refine .of_none ?_ ?_
    · rw [h.releaseTargetStatus, (Reservation.start_ok hstart).2.2.2.2.2.2]
      rfl
    · rw [h.status, (Reservation.start_ok hstart).2.2.2.2.2.1]
      decide
  | compensated before _ done hdone h hr => exact hr.targeted (by decide)

end Walks

/-! ## Runs -/

namespace System
variable {sha256 : String → String}

theorem maintains_targeted :
    Maintains sha256 (fun database event => event.request.sparesReleasing database)
      (fun aggregate => aggregate.reservation.Targeted) where
  created _ _ hstart hcreated := hcreated.targeted hstart
  walked {database event walk before after} hok hwalk hreservation hsound hb htargeted happlies _ := by
    obtain ⟨hoccasion, hstored⟩ := event.occasion hwalk
    cases hoccasion with
    | confirm reservation hrequest hconfirmed hcancelled =>
      rw [hrequest] at hok
      refine Aggregate.Confirmed.targeted happlies htargeted ?_
      rw [hreservation]
      exact hok reservation (Database.findOwned_self hstored)
    | resumeConfirm reservation limit maxAttempts retryBaseDelay hrequest hconfirming =>
      refine Aggregate.Confirmed.targeted happlies htargeted ?_
      rw [hreservation, hconfirming]
      decide
    | cancel reservation hrequest hcancelled hconfirmed hconfirming =>
      exact Aggregate.Released.targeted (by decide) happlies
    | expire reservation limit hrequest hpending =>
      exact Aggregate.Released.targeted (by decide) happlies
    | resumeRelease reservation limit maxAttempts retryBaseDelay terminalStatus hrequest hreleasing
        hsome hterminal =>
      exact Aggregate.Released.targeted hterminal happlies

/-- In runs that do not confirm reservations under release, a reservation has a release target exactly
while it is releasing. -/
theorem run_release_target {database : Database} {events : List Event} (hinit : database.Initial)
    (hadmissible : Runs.Admissible (step sha256)
      (fun database event => event.request.sparesReleasing database) database events) :
    (run sha256 database events).AllTargeted := by
  refine ⟨fun reservation hr => ?_⟩
  exact maintains_targeted.run hinit hadmissible reservation.id ⟨reservation, _, _, _⟩
    (Database.aggregate?_eq_some_iff.mpr ⟨Table.find?_of_mem hr, rfl, rfl, rfl⟩)

/-- A cancellation whose outcome is unknown, and its reconciliation. -/
theorem run_release_target_reconciled :
    (run Deployment.sha256 Deployment.database
      [Deployment.create 1000 100 0 [Deployment.line 2 20 2] "a",
        Deployment.releasing .unknown (Deployment.cancel 1100 100 10),
        Deployment.reconcile 1200 50]).AllTargeted :=
  run_release_target Deployment.initial (by decide +kernel)

/-- Confirming a reservation whose release has an unknown outcome leaves it confirmed with a target. -/
theorem confirm_keeps_target :
    ¬ ∀ (sha256 : String → String) (database : Database) (events : List Event), database.Initial →
      (run sha256 database events).AllTargeted := by
  intro h
  have hrun := h Deployment.sha256 Deployment.database
    [Deployment.create 1000 100 0 [Deployment.line 2 20 2] "a",
      Deployment.releasing .unknown (Deployment.cancel 1100 100 10),
      Deployment.confirm 1200 100 20] Deployment.initial
  have hkept : ∀ reservation ∈ (run Deployment.sha256 Deployment.database
      [Deployment.create 1000 100 0 [Deployment.line 2 20 2] "a",
        Deployment.releasing .unknown (Deployment.cancel 1100 100 10),
        Deployment.confirm 1200 100 20]).reservations,
      reservation.releaseTargetStatus.isSome ↔ reservation.status = .releasing :=
    fun reservation hr => (hrun.targeted reservation hr).iff_releasing
  revert hkept
  decide +kernel

end System
end InventoryReservation
