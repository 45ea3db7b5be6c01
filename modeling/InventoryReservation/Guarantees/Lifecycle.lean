import InventoryReservation.Meaning.Reachable
import InventoryReservation.System.Deployment

/-! # The lifecycle graph

`Phase.next` is the documented graph on the status of a reservation and its release target. Requests
that are addressed to reservations the graph lets them move keep to it in every run; the guards of
`confirm` and `cancel` let others through as well.
-/

namespace InventoryReservation
set_option autoImplicit false

open Relational

/-- A status and a release target. -/
abbrev Phase := ReservationStatusModel × Option ReservationStatusModel

def ReservationModel.phase (reservation : ReservationModel) : Phase :=
  (reservation.status, reservation.releaseTargetStatus)

namespace Phase

/-- The phases a reservation can be stored in first. -/
def first : List Phase := [(.pending, none), (.failed, none), (.releasing, some .failed)]

/-- The phases that can follow a phase. -/
def next : Phase → List Phase
  | (.pending, none) =>
    [(.confirming, none), (.confirmed, none), (.failed, none), (.releasing, some .cancelled),
      (.releasing, some .expired), (.cancelled, none), (.expired, none)]
  | (.confirming, none) => [(.confirming, none), (.confirmed, none), (.failed, none)]
  | (.releasing, some target) => [(.releasing, some target), (target, none)]
  | _ => []

/-- One reservation, before and after, keeps to the graph. -/
def Moves : Option ReservationModel → Option ReservationModel → Prop
  | none, none => True
  | none, some after => after.phase ∈ first
  | some _, none => False
  | some before, some after => after.phase = before.phase ∨ after.phase ∈ next before.phase

instance : ∀ before after, Decidable (Moves before after)
  | none, none => isTrue trivial
  | none, some after => inferInstanceAs (Decidable (after.phase ∈ first))
  | some _, none => isFalse id
  | some before, some after =>
    inferInstanceAs (Decidable (after.phase = before.phase ∨ after.phase ∈ next before.phase))

theorem Moves.refl (reservation : Option ReservationModel) : Moves reservation reservation := by
  cases reservation with
  | none => trivial
  | some reservation => exact Or.inl rfl

end Phase

/-- Every reservation keeps to the graph between these databases. -/
structure Lifecycle (s t : Database) : Prop where
  moves : ∀ r, Phase.Moves (s.reservations.find? r) (t.reservations.find? r)

/-- A confirm or cancel is addressed to a reservation that the graph lets it move. -/
def Request.keepsLifecycle (database : Database) : Request → Prop
  | .confirm reservationId userId =>
    ∀ reservation ∈ database.findOwned reservationId userId,
      reservation.status ∉ [.releasing, .expired, .failed]
  | .cancel reservationId userId =>
    ∀ reservation ∈ database.findOwned reservationId userId,
      reservation.status ∉ [.expired, .failed] ∧
        (reservation.status = .releasing → reservation.releaseTargetStatus = some .cancelled)
  | _ => True

instance (database : Database) (request : Request) : Decidable (request.keepsLifecycle database) :=
  match request with
  | .confirm _ _ => inferInstanceAs (Decidable (∀ reservation ∈ database.findOwned _ _, _))
  | .cancel _ _ => inferInstanceAs (Decidable (∀ reservation ∈ database.findOwned _ _, _))
  | .create _ _ _ => isTrue trivial
  | .expireBatch _ => isTrue trivial
  | .reconcileBatch _ _ _ => isTrue trivial
  | .setLevel _ _ _ _ _ => isTrue trivial
  | .removeLevel _ _ => isTrue trivial

/-! ## Walks keep to the graph -/

/-- Only a releasing reservation has a target. -/
def Aggregate.Untargeted (aggregate : Aggregate) : Prop :=
  aggregate.reservation.status ≠ .releasing → aggregate.reservation.releaseTargetStatus = none

section Walks
variable {event : Event} {database : Database} {walk : Walk} {before after : Aggregate}

/-- A confirming walk over a pending or confirming reservation. -/
theorem Aggregate.Confirmed.next {environment : Environment} {context : ProviderOperationContext}
    (h : before.Confirmed environment context after)
    (hs : before.reservation.status = .pending ∨ before.reservation.status = .confirming)
    (ht : before.reservation.releaseTargetStatus = none) :
    after.reservation.phase ∈ before.reservation.phase.next := by
  have ht' : after.reservation.releaseTargetStatus = none := h.releaseTargetStatus.trans ht
  unfold ReservationModel.phase
  rw [ht, ht']
  rcases h.cases with ⟨-, hs'⟩ | ⟨-, hs'⟩ | ⟨-, hs'⟩
  all_goals
    rw [hs']
    rcases hs with hs | hs
    · rw [hs]
      decide
    · rw [hs]
      decide

/-- A releasing walk over a pending reservation, or one that resumes a release. -/
theorem Aggregate.Released.next {environment : Environment} {context : ProviderOperationContext}
    {terminalStatus : ReservationStatusModel}
    (h : before.Released environment context terminalStatus after)
    (hs : before.reservation.phase = (.pending, none) ∧ terminalStatus ∈ [.cancelled, .expired] ∨
      before.reservation.phase = (.releasing, some terminalStatus)) :
    after.reservation.phase ∈ before.reservation.phase.next := by
  have hafter : after.reservation.phase = (.releasing, some terminalStatus) ∨
      after.reservation.phase = (terminalStatus, none) := by
    unfold ReservationModel.phase
    rcases h.cases with ⟨-, hs', ht'⟩ | ⟨-, hs', ht'⟩
    · exact Or.inl (by rw [hs', ht'])
    · exact Or.inr (by rw [hs', ht'])
  rcases hs with ⟨hp, hterminal⟩ | hp
  · rw [hp]
    have hmem : terminalStatus = .cancelled ∨ terminalStatus = .expired := by simpa using hterminal
    rcases hmem with rfl | rfl
    all_goals
      rcases hafter with ha | ha
      · rw [ha]
        decide
      · rw [ha]
        decide
  · rw [hp]
    rcases hafter with ha | ha
    · rw [ha]
      exact List.mem_cons_self
    · rw [ha]
      exact List.mem_cons_of_mem _ List.mem_cons_self

/-- The walks of a request that keeps to the graph keep to the graph. -/
theorem Request.keepsLifecycle.next (hok : event.request.keepsLifecycle database)
    (hwalk : walk ∈ event.walks database) (hreservation : before.reservation = walk.reservation)
    (hsound : before.Sound) (htarget : before.Untargeted)
    (happlies : walk.pass.Applies event.environment before after) :
    after.reservation.phase ∈ before.reservation.phase.next := by
  obtain ⟨hoccasion, hstored⟩ := event.occasion hwalk
  have hdomain : before.reservation.status ≠ .reserving ∧ before.reservation.status ≠ .active := by
    simpa using hsound.status
  unfold Aggregate.Untargeted at htarget
  cases hoccasion with
  | confirm reservation hrequest hconfirmed hcancelled =>
    rw [hrequest] at hok
    have hnot := hok reservation (Database.findOwned_self hstored)
    have hreservation : before.reservation = reservation := hreservation
    rw [hreservation] at hdomain htarget
    have hs : reservation.status = .pending ∨ reservation.status = .confirming := by
      cases hst : reservation.status <;> simp_all
    refine Aggregate.Confirmed.next happlies (hreservation ▸ hs) ?_
    rw [hreservation]
    refine htarget ?_
    rcases hs with hs | hs <;> rw [hs] <;> decide
  | cancel reservation hrequest hcancelled hconfirmed hconfirming =>
    rw [hrequest] at hok
    obtain ⟨hnot, hreleasing⟩ := hok reservation (Database.findOwned_self hstored)
    have hreservation : before.reservation = reservation := hreservation
    rw [hreservation] at hdomain htarget
    have hs : reservation.status = .pending ∨ reservation.status = .releasing := by
      cases hst : reservation.status <;> simp_all
    refine Aggregate.Released.next happlies ?_
    rw [hreservation]
    unfold ReservationModel.phase
    rcases hs with hs | hs
    · rw [hs, htarget (by rw [hs]; decide)]
      exact Or.inl ⟨rfl, by decide⟩
    · rw [hs, hreleasing hs]
      exact Or.inr rfl
  | expire reservation limit hrequest hpending =>
    have hreservation : before.reservation = reservation := hreservation
    rw [hreservation] at htarget
    refine Aggregate.Released.next happlies ?_
    rw [hreservation]
    unfold ReservationModel.phase
    rw [hpending, htarget (by rw [hpending]; decide)]
    exact Or.inl ⟨rfl, by decide⟩
  | resumeRelease reservation limit maxAttempts retryBaseDelay terminalStatus hrequest hreleasing
      hsome hterminal =>
    have hreservation : before.reservation = reservation := hreservation
    refine Aggregate.Released.next happlies (Or.inr ?_)
    rw [hreservation]
    unfold ReservationModel.phase
    rw [hreleasing, hsome]
  | resumeConfirm reservation limit maxAttempts retryBaseDelay hrequest hconfirming =>
    have hreservation : before.reservation = reservation := hreservation
    rw [hreservation] at htarget
    refine Aggregate.Confirmed.next happlies (Or.inr (hreservation ▸ hconfirming)) ?_
    rw [hreservation]
    exact htarget (by rw [hconfirming]; decide)

end Walks

theorem Aggregate.Created.first {environment : Environment} {reservation : Reservation}
    {exchanges : List Exchange} {held : Bool} {after : Aggregate} {draft : ReservationDraft}
    (hstart : Reservation.start draft = .ok reservation)
    (h : Aggregate.Created environment reservation exchanges held after) :
    after.reservation.phase ∈ Phase.first := by
  unfold ReservationModel.phase
  cases h with
  | held _ h =>
    rw [h.status, h.releaseTargetStatus, (Reservation.start_ok hstart).2.2.2.2.2.1,
      (Reservation.start_ok hstart).2.2.2.2.2.2]
    decide
  | compensated before _ done hdone h hr =>
    rcases hr.cases with ⟨-, hs, ht⟩ | ⟨-, hs, ht⟩
    · rw [hs, ht]
      decide
    · rw [hs, ht]
      decide

/-- Where the graph leads, only releasing reservations have a target. -/
theorem Phase.untargeted_of_next {p q : Phase} (h : q ∈ p.next) (hq : q.1 ≠ .releasing) : q.2 = none := by
  revert hq
  unfold next at h
  split at h
  · revert h q
    decide
  · revert h q
    decide
  · intro hq
    rcases List.mem_cons.mp h with rfl | h
    · exact absurd rfl hq
    · rw [List.mem_singleton.mp h]
  · exact absurd h List.not_mem_nil

theorem Phase.untargeted_of_first : ∀ {q : Phase}, q ∈ first → q.1 ≠ .releasing → q.2 = none := by
  decide

/-! ## Runs -/

namespace System
variable {sha256 : String → String}

theorem maintains_untargeted :
    Maintains sha256 (fun database event => event.request.keepsLifecycle database)
      Aggregate.Untargeted where
  created _ _ hstart hcreated := Phase.untargeted_of_first (hcreated.first hstart)
  walked hok hwalk hreservation hsound hb htarget happlies _ :=
    Phase.untargeted_of_next (hok.next hwalk hreservation (hsound.aggregates _ _ hb) htarget happlies)

/-- Requests addressed to reservations that the graph lets them move keep every reservation on the
lifecycle graph, in every run. -/
theorem run_lifecycle {database : Database} {events : List Event} {event : Event}
    (hinit : database.Initial)
    (hadmissible : Runs.Admissible (step sha256)
      (fun database event => event.request.keepsLifecycle database) database (events ++ [event])) :
    Lifecycle (run sha256 database events) (run sha256 database (events ++ [event])) := by
  obtain ⟨hevents, hok, -⟩ := Runs.Admissible.append_iff.mp hadmissible
  have hsound := run_sound sha256 hinit events
  refine ⟨fun r => ?_⟩
  have hchange := (step_transition sha256 hsound event).changes r
  have hstep : run sha256 database (events ++ [event]) =
      step sha256 (run sha256 database events) event := Runs.run_append _ _ _ _
  rw [hstep, ← Database.aggregate?_reservation, ← Database.aggregate?_reservation]
  generalize hb : (run sha256 database events).aggregate? r = before? at hchange ⊢
  generalize (step sha256 (run sha256 database events) event).aggregate? r = after? at hchange ⊢
  cases hchange with
  | kept => exact .refl _
  | created userId items idempotencyKey reservation held after hrequest hstart hid hcreated =>
    exact hcreated.first hstart
  | walked walk before after hwalk hreservation hid happlies hanswered =>
    exact Or.inr (hok.next hwalk hreservation (hsound.aggregates r before hb)
      (maintains_untargeted.run hinit hevents r before hb) happlies)

/-- Creating and then confirming keeps to the graph. -/
theorem run_lifecycle_create_confirm :
    Lifecycle (run Deployment.sha256 Deployment.database
        [Deployment.create 1000 100 0 [Deployment.line 1 10 2] "a"])
      (run Deployment.sha256 Deployment.database
        ([Deployment.create 1000 100 0 [Deployment.line 1 10 2] "a"] ++ [Deployment.confirm 1100 100 10])) :=
  run_lifecycle Deployment.initial (by decide +kernel)

/-- An expired reservation can be cancelled. -/
theorem cancel_moves_expired :
    ¬ ∀ (sha256 : String → String) (database : Database) (events : List Event) (event : Event),
      database.Initial →
        Lifecycle (run sha256 database events) (run sha256 database (events ++ [event])) := by
  intro h
  refine absurd ((h Deployment.sha256 Deployment.database
    [Deployment.create 1000 100 0 [Deployment.line 1 10 2] "a", Deployment.expire 1000]
    (Deployment.cancel 1100 100 1001) Deployment.initial).moves 100) ?_
  decide +kernel

end System
end InventoryReservation
