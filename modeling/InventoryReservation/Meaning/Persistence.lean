import InventoryReservation.Meaning.Reachable

/-! # What reservations keep

Whatever requests follow, a stored reservation keeps its identity, its owner, its lifetime and its items. It
never becomes pending again, and once confirmed or cancelled it does not change at all.
-/

namespace InventoryReservation
set_option autoImplicit false

open Relational

/-- What a later state of a reservation keeps of an earlier one. -/
structure Aggregate.Persists (before after : Aggregate) : Prop where
  request : before.reservation.SameRequest after.reservation
  items : after.items = before.items
  final : before.reservation.status = .confirmed ∨ before.reservation.status = .cancelled → after = before
  pending : after.reservation.status = .pending → after = before

namespace Aggregate.Persists
variable {a b c : Aggregate}

theorem refl (aggregate : Aggregate) : aggregate.Persists aggregate :=
  ⟨.refl _, rfl, fun _ => rfl, fun _ => rfl⟩

theorem trans (h : a.Persists b) (h' : b.Persists c) : a.Persists c where
  request := h.request.trans h'.request
  items := h'.items.trans h.items
  final hfinal := by
    have hb := h.final hfinal
    rw [← hb] at hfinal
    exact (h'.final hfinal).trans hb
  pending hpending := by
    have hc := h'.pending hpending
    rw [hc] at hpending
    exact hc.trans (h.pending hpending)

end Aggregate.Persists

/-- No walk starts from a confirmed or cancelled reservation. -/
theorem Event.not_final {event : Event} {database : Database} {walk : Walk} (hwalk : walk ∈ event.walks database) :
    walk.reservation.status ≠ .confirmed ∧ walk.reservation.status ≠ .cancelled := by
  cases (event.occasion hwalk).1 with
  | confirm reservation hrequest hconfirmed hcancelled => exact ⟨hconfirmed, hcancelled⟩
  | cancel reservation hrequest hcancelled hconfirmed hconfirming => exact ⟨hconfirmed, hcancelled⟩
  | expire reservation limit hrequest hpending =>
    rw [hpending]
    decide
  | resumeRelease reservation limit maxAttempts retryBaseDelay terminalStatus hrequest hreleasing htarget
      hterminal =>
    rw [hreleasing]
    decide
  | resumeConfirm reservation limit maxAttempts retryBaseDelay hrequest hconfirming =>
    rw [hconfirming]
    decide

namespace System
variable (sha256 : String → String) {database : Database} {r : Uuid} {before : Aggregate}

theorem step_persists (hsound : database.Sound) (event : Event) (hb : database.aggregate? r = some before) :
    ∃ after, (step sha256 database event).aggregate? r = some after ∧ before.Persists after := by
  have hchange := (step_transition sha256 hsound event).changes r
  rw [hb] at hchange
  generalize (step sha256 database event).aggregate? r = after? at hchange
  cases hchange with
  | kept => exact ⟨before, rfl, .refl before⟩
  | walked walk before after hwalk hreservation hid happlies hanswered =>
    obtain ⟨hconfirmed, hcancelled⟩ := Event.not_final hwalk
    refine ⟨after, rfl, happlies.request, happlies.items, fun hfinal => ?_, fun hpending => ?_⟩
    · rw [hreservation] at hfinal
      exact (hfinal.elim hconfirmed hcancelled).elim
    · exact absurd hpending (Walk.not_pending hwalk happlies)

/-- A reservation persists through any further run. -/
theorem run_persists (hsound : database.Sound) (events : List Event)
    (hb : database.aggregate? r = some before) :
    ∃ after, (run sha256 database events).aggregate? r = some after ∧ before.Persists after := by
  induction events generalizing database before with
  | nil => exact ⟨before, hb, .refl before⟩
  | cons event events ih =>
    obtain ⟨between, hbetween, hpersists⟩ := step_persists sha256 hsound event hb
    obtain ⟨after, hafter, hpersists'⟩ := ih (step_sound sha256 hsound event) hbetween
    exact ⟨after, hafter, hpersists.trans hpersists'⟩

end System
end InventoryReservation
