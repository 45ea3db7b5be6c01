import InventoryReservation.Concurrency.OverlappingCalls
import Mathlib.Tactic.Linarith

/-! # The recovery window of an open circuit

A circuit that has opened turns calls away for its recovery timeout, as long as no call ends conclusively
inside that time. One that does, having gone out before the circuit opened, closes it at once.
-/

namespace InventoryReservation
set_option autoImplicit false

namespace Circuits
variable {ι γ : Type} [DecidableEq ι]

/-- This completion leaves the circuit of the operation open since now, with the failures it takes. -/
structure Opens (breaker : CircuitBreaker) (completionOf : ProviderOperation → γ → Completion) (s : Circuits ι)
    (operation : ProviderOperation) (call : ι) (result : γ) (now : Seconds) : Prop where
  flight : ∃ flight ∈ s.calls call, flight.operation = operation
  failures : breaker.failureThreshold ≤
    ((s.complete breaker completionOf call result now).states operation).failureCount
  openedAt : ((s.complete breaker completionOf call result now).states operation).openedAt = some now

/-- Whenever a completion of the run has opened the circuit of the operation, no call made next is
forwarded before the recovery timeout has passed. -/
def StaysShut (breaker : CircuitBreaker) (completionOf : ProviderOperation → γ → Completion) (s : Circuits ι)
    (operation : ProviderOperation) (moves : List (CallMove ι γ)) : Prop :=
  ∀ before call result openedAt later, moves = before ++ .complete call result openedAt :: later →
    Opens breaker completionOf (s.run breaker completionOf before) operation call result openedAt →
    ∀ now, (s.run breaker completionOf moves).clock ≤ now → now < openedAt + breaker.recoveryTimeout →
      ¬ (s.run breaker completionOf moves).Forwards breaker operation now

/-- The clock does not go back. -/
def Timely (s : Circuits ι) (move : CallMove ι γ) : Prop := s.clock ≤ move.now

/-- No call of the operation ends conclusively while its circuit is open and has been for less than the
recovery timeout. -/
def SparesWindow (breaker : CircuitBreaker) (completionOf : ProviderOperation → γ → Completion)
    (operation : ProviderOperation) (s : Circuits ι) : CallMove ι γ → Prop
  | .dispatch _ _ _ => True
  | .complete call result now =>
    ∀ flight ∈ s.calls call, flight.operation = operation → completionOf operation result = .conclusive →
      ∀ openedAt ∈ (s.states operation).openedAt, openedAt + breaker.recoveryTimeout ≤ now

instance (s : Circuits ι) (move : CallMove ι γ) : Decidable (s.Timely move) :=
  inferInstanceAs (Decidable (s.clock ≤ move.now))

instance (breaker : CircuitBreaker) (completionOf : ProviderOperation → γ → Completion)
    (operation : ProviderOperation) (s : Circuits ι) :
    ∀ move : CallMove ι γ, Decidable (SparesWindow breaker completionOf operation s move)
  | .dispatch _ _ _ => isTrue trivial
  | .complete call result now =>
    inferInstanceAs (Decidable (∀ flight ∈ s.calls call, flight.operation = operation →
      completionOf operation result = .conclusive →
        ∀ openedAt ∈ (s.states operation).openedAt, openedAt + breaker.recoveryTimeout ≤ now))

variable {breaker : CircuitBreaker} {completionOf : ProviderOperation → γ → Completion} {s : Circuits ι}
  {operation : ProviderOperation} {since : Seconds}

/-- The circuit is open since this time or a later one, unless the recovery timeout after it has passed. -/
structure Shut (breaker : CircuitBreaker) (operation : ProviderOperation) (since : Seconds) (s : Circuits ι) :
    Prop where
  started : since ≤ s.clock
  shut : s.clock < since + breaker.recoveryTimeout → ∃ openedAt ∈ (s.states operation).openedAt, since ≤ openedAt

omit [DecidableEq ι] in
theorem Shut.turns_away (h : s.Shut breaker operation since) {now : Seconds} (hclock : s.clock ≤ now)
    (hwindow : now < since + breaker.recoveryTimeout) : ¬ s.Forwards breaker operation now := by
  obtain ⟨openedAt, ho, hsince⟩ := h.shut (lt_of_le_of_lt hclock hwindow)
  have hopened : (s.states operation).openedAt = some openedAt := ho
  have hyoung : now - openedAt < breaker.recoveryTimeout := by linarith
  unfold Forwards CircuitBreaker.dispatch
  rw [hopened]
  dsimp only
  rw [if_pos hyoung]
  exact Bool.false_ne_true

theorem Shut.step (h : s.Shut breaker operation since) {move : CallMove ι γ} (htimely : s.Timely move)
    (hspares : SparesWindow breaker completionOf operation s move) :
    (s.step breaker completionOf move).Shut breaker operation since := by
  generalize hs' : s.step breaker completionOf move = s'
  have hstepped : Stepped breaker completionOf s move s' := hs' ▸ stepped breaker completionOf s move
  clear hs'
  have hclock : s'.clock = move.now := hstepped.clock
  refine ⟨?_, fun hwindow => ?_⟩
  · rw [hclock]
    exact le_trans h.started htimely
  · rw [hclock] at hwindow
    have hopen := h.shut (lt_of_le_of_lt htimely hwindow)
    cases hstepped with
    | idle => exact hopen
    | dispatched call operation' now isProbe state hfree hdispatch =>
      dsimp only
      by_cases ho : operation = operation'
      · subst ho
        rw [Function.update_self, CircuitBreaker.dispatch_openedAt hdispatch]
        exact hopen
      · rw [Function.update_of_ne ho]
        exact hopen
    | completed call result now flight hcall =>
      dsimp only
      by_cases ho : operation = flight.operation
      · rw [← ho, Function.update_self, CircuitBreaker.complete_openedAt]
        unfold CircuitBreaker.recordCompletion
        have hlater : since ≤ now := le_trans h.started htimely
        have hfailed : ∃ openedAt ∈ (breaker.recordFailure (s.states operation) now).openedAt, since ≤ openedAt := by
          unfold CircuitBreaker.recordFailure
          dsimp only
          split
          · exact ⟨now, rfl, hlater⟩
          · exact hopen
        cases hc : completionOf operation result with
        | callFailed => exact hfailed
        | unknown => exact hfailed
        | raised => exact hopen
        | conclusive =>
          obtain ⟨openedAt, hopened, hsince⟩ := hopen
          have hpassed := hspares flight hcall ho.symm hc openedAt hopened
          have hnow : now < since + breaker.recoveryTimeout := hwindow
          linarith
      · rw [Function.update_of_ne ho]
        exact hopen

theorem run_shut {before later : List (CallMove ι γ)}
    (h : (s.run breaker completionOf before).Shut breaker operation since)
    (hlater : Runs.Admissible (step breaker completionOf)
      (fun s move => s.Timely move ∧ SparesWindow breaker completionOf operation s move)
      (Runs.run (step breaker completionOf) s before) later) :
    (s.run breaker completionOf (before ++ later)).Shut breaker operation since := by
  have hstep : ∀ (s : Circuits ι) (move : CallMove ι γ), s.Shut breaker operation since →
      s.Timely move ∧ SparesWindow breaker completionOf operation s move →
      (s.step breaker completionOf move).Shut breaker operation since :=
    fun _ _ h hok => h.step hok.1 hok.2
  unfold Circuits.run at h ⊢
  rw [Runs.run_append]
  exact Runs.run_invariant hstep h hlater

/-- While no call ends conclusively inside a recovery window, an open circuit forwards nothing before
its window is over, in every interleaving of calls. -/
theorem run_stays_shut {clock : Seconds} {moves : List (CallMove ι γ)}
    (hmoves : Runs.Admissible (step breaker completionOf)
      (fun s move => s.Timely move ∧ SparesWindow breaker completionOf operation s move) (start ι clock) moves) :
    (start ι clock).StaysShut breaker completionOf operation moves := by
  rintro before call result openedAt later rfl hopens now hclock hwindow
  have hshut : ((start ι clock).run breaker completionOf (before ++ [.complete call result openedAt])).Shut breaker
      operation openedAt := by
    have hlast : (start ι clock).run breaker completionOf (before ++ [.complete call result openedAt]) =
        ((start ι clock).run breaker completionOf before).step breaker completionOf
          (.complete call result openedAt) := by
      unfold run
      rw [Runs.run_append, Runs.run_cons, Runs.run_nil]
    rw [hlast]
    refine ⟨?_, fun _ => ⟨openedAt, hopens.openedAt, le_rfl⟩⟩
    rw [(stepped breaker completionOf _ (.complete call result openedAt)).clock]
    exact le_rfl
  have hsplit : before ++ .complete call result openedAt :: later =
      (before ++ [.complete call result openedAt]) ++ later := by simp
  rw [hsplit] at hclock hmoves ⊢
  exact (run_shut hshut (Runs.Admissible.append_iff.mp hmoves).2).turns_away hclock hwindow

/-- Two failures open a hold circuit; a call that fails later keeps it open. -/
theorem failing_stays_shut : (start ℕ 0).StaysShut ⟨2, 30⟩ (fun _ completion : _ => completion) .hold
    [.dispatch 0 .hold 0, .dispatch 1 .hold 0, .dispatch 2 .hold 1, .complete 0 .callFailed 2, .complete 1 .unknown 3,
      .complete 2 .callFailed 4, .dispatch 3 .hold 20] :=
  run_stays_shut (by decide +kernel)

/-- A call that went out before the circuit opened succeeds inside the window, and the next call goes
through. -/
theorem late_success_reopens : ¬ ∀ (breaker : CircuitBreaker) (operation : ProviderOperation)
    (moves : List (CallMove ℕ Completion)),
    Runs.Admissible (step breaker fun _ completion => completion) Timely (start ℕ 0) moves →
      (start ℕ 0).StaysShut breaker (fun _ completion => completion) operation moves := by
  intro h
  have hshut := h ⟨2, 30⟩ .hold [.dispatch 0 .hold 0, .dispatch 1 .hold 0, .dispatch 2 .hold 0,
    .complete 0 .callFailed 1, .complete 1 .callFailed 1, .complete 2 .conclusive 2] (by decide +kernel)
  have hopens : ((start ℕ 0).run ⟨2, 30⟩ (fun _ completion : _ => completion)
      [.dispatch 0 .hold 0, .dispatch 1 .hold 0, .dispatch 2 .hold 0, .complete 0 .callFailed 1]).Opens ⟨2, 30⟩
        (fun _ completion : _ => completion) .hold 1 .callFailed 1 :=
    ⟨by decide +kernel, by decide +kernel, by decide +kernel⟩
  exact hshut _ 1 .callFailed 1 [.complete 2 .conclusive 2] rfl hopens 3 (by decide +kernel) (by decide +kernel)
    (by decide +kernel)

end Circuits
end InventoryReservation
