import InventoryReservation.Concurrency.OverlappingCalls
import InventoryReservation.Repository.HttpProvider

/-! # What heals a circuit

A server error or a timeout is counted and opens the circuit in the end, whichever operation it came from,
except that a stock request that times out is taken for a conclusive answer and heals its circuit.
-/

namespace InventoryReservation
set_option autoImplicit false

/-- The count of failures goes back to zero, or the circuit closes. -/
def CircuitState.Heals (state state' : CircuitState) : Prop :=
  (state.failureCount ≠ 0 ∧ state'.failureCount = 0) ∨ (state.openedAt.isSome ∧ state'.openedAt = none)

/-- After this many failures, and with nothing that would heal the circuit. -/
structure CircuitState.Strained (breaker : CircuitBreaker) (state : CircuitState) (failures : ℕ)
    (state' : CircuitState) : Prop where
  counted : state'.failureCount = state.failureCount + failures
  stays : state.openedAt.isSome → state'.openedAt.isSome
  opens : 0 < failures → breaker.failureThreshold ≤ state'.failureCount → state'.openedAt.isSome

namespace CircuitState.Strained
variable {breaker : CircuitBreaker} {state state' state'' : CircuitState} {m n : ℕ}

theorem of_eq (hcount : state'.failureCount = state.failureCount) (hopened : state'.openedAt = state.openedAt) :
    Strained breaker state 0 state' :=
  ⟨hcount, fun h => hopened ▸ h, fun h => absurd h (Nat.lt_irrefl 0)⟩

theorem trans (h : Strained breaker state m state') (h' : Strained breaker state' n state'') :
    Strained breaker state (m + n) state'' where
  counted := by rw [h'.counted, h.counted, Nat.add_assoc]
  stays hopen := h'.stays (h.stays hopen)
  opens hpos hthreshold := by
    by_cases hn : 0 < n
    · exact h'.opens hn hthreshold
    · have hzero : n = 0 := by omega
      have hcount : state''.failureCount = state'.failureCount := by
        rw [h'.counted, hzero, Nat.add_zero]
      rw [hcount] at hthreshold
      exact h'.stays (h.opens (by omega) hthreshold)

theorem not_heals (h : Strained breaker state m state') : ¬ state.Heals state' := by
  rintro (⟨hcount, hzero⟩ | ⟨hopen, hclosed⟩)
  · have hadd := h.counted
    omega
  · have hstays := h.stays hopen
    rw [hclosed] at hstays
    cases hstays

end CircuitState.Strained

/-- A call that fails strains its circuit. -/
theorem CircuitBreaker.complete_strained {breaker : CircuitBreaker} {completion : Completion}
    (h : completion = .callFailed ∨ completion = .unknown) (state : CircuitState) (isProbe : Bool) (now : Seconds) :
    CircuitState.Strained breaker state 1 (breaker.complete state isProbe completion now) := by
  have hfailed : breaker.recordCompletion state completion now = breaker.recordFailure state now := by
    rcases h with rfl | rfl <;> rfl
  constructor
  · rw [complete_failureCount, hfailed]
    rfl
  · intro hopen
    rw [complete_openedAt, hfailed]
    unfold recordFailure
    dsimp only
    split
    · rfl
    · exact hopen
  · intro _ hthreshold
    rw [complete_failureCount, hfailed] at hthreshold
    have hreached : breaker.failureThreshold ≤ ((state.failureCount + 1 : ℕ) : ℤ) := hthreshold
    rw [complete_openedAt, hfailed]
    unfold recordFailure
    dsimp only
    rw [if_pos hreached]
    rfl

namespace Circuits
variable {ι β : Type} [DecidableEq ι]

/-- No exchange that timed out or brought a server error heals the circuit of the operation, and a row of
them as long as the failure threshold leaves it open. -/
structure OnlyAnswersHeal (breaker : CircuitBreaker) (provider : HttpInventoryProvider β) (s : Circuits ι)
    (operation : ProviderOperation) (moves : List (CallMove ι (HttpExchange β))) : Prop where
  spares : ∀ before call exchange now later, moves = before ++ .complete call exchange now :: later →
    exchange.isFailure = true → (∃ flight ∈ (s.run breaker provider.completion before).calls call,
      flight.operation = operation) →
    ¬ ((s.run breaker provider.completion before).states operation).Heals
      (((s.run breaker provider.completion before).complete breaker provider.completion call exchange now).states
        operation)
  opens : ∀ before row later, moves = before ++ row ++ later →
    let failures := Runs.trace (step breaker provider.completion) (results operation)
      (s.run breaker provider.completion before) row
    (∀ exchange ∈ failures, exchange.isFailure = true) → failures ≠ [] →
    breaker.failureThreshold ≤ failures.length →
    ((s.run breaker provider.completion (before ++ row)).states operation).openedAt.isSome

/-- No stock request times out. -/
def AnswersStockRequests (s : Circuits ι) : CallMove ι (HttpExchange β) → Prop
  | .dispatch _ _ _ => True
  | .complete call exchange _ =>
    ∀ flight ∈ s.calls call, flight.operation = .availability → exchange.isTimeout = false

instance (s : Circuits ι) : ∀ move : CallMove ι (HttpExchange β), Decidable (s.AnswersStockRequests move)
  | .dispatch _ _ _ => isTrue trivial
  | .complete call exchange _ =>
    inferInstanceAs (Decidable (∀ flight ∈ s.calls call, flight.operation = .availability →
      exchange.isTimeout = false))

variable {breaker : CircuitBreaker} {provider : HttpInventoryProvider β} {s : Circuits ι}
  {operation : ProviderOperation}

/-- One step strains the circuit by the exchanges it ends, where all of them fail. -/
theorem step_strained (breaker : CircuitBreaker) (provider : HttpInventoryProvider β)
    {move : CallMove ι (HttpExchange β)} (hanswers : s.AnswersStockRequests move)
    (hfailures : ∀ exchange ∈ results operation s move, exchange.isFailure = true) :
    CircuitState.Strained breaker (s.states operation) (results operation s move).length
      ((s.step breaker provider.completion move).states operation) := by
  generalize hs' : s.step breaker provider.completion move = s'
  have hstepped : Stepped breaker provider.completion s move s' := hs' ▸ stepped breaker provider.completion s move
  cases hstepped with
  | idle =>
    have hnone : results operation s move = [] := by
      cases move with
      | dispatch call operation' now => rfl
      | complete call exchange now =>
        cases hcall : s.calls call with
        | none => simp [results, hcall]
        | some flight =>
          have hcalls := congrArg (fun s : Circuits ι => s.calls call) hs'
          simp [step, complete, hcall] at hcalls
    rw [hnone]
    exact .of_eq rfl rfl
  | dispatched call operation' now isProbe state hfree hdispatch =>
    have hnone : results operation s (CallMove.dispatch (γ := HttpExchange β) call operation' now) = [] := rfl
    rw [hnone]
    dsimp only
    by_cases ho : operation = operation'
    · subst ho
      rw [Function.update_self]
      exact .of_eq (CircuitBreaker.dispatch_failureCount hdispatch) (CircuitBreaker.dispatch_openedAt hdispatch)
    · rw [Function.update_of_ne ho]
      exact .of_eq rfl rfl
  | completed call exchange now flight hcall =>
    dsimp only
    by_cases ho : flight.operation = operation
    · have hone : results operation s (.complete call exchange now) = [exchange] := by
        simp [results, hcall, ho]
      rw [hone] at hfailures ⊢
      rw [← ho, Function.update_self]
      refine CircuitBreaker.complete_strained ?_ _ _ _
      exact HttpInventoryProvider.completion_of_isFailure (hfailures exchange (List.mem_singleton_self exchange))
        (hanswers flight hcall)
    · have hnone : results operation s (.complete call exchange now) = [] := by
        simp [results, hcall, ho]
      rw [hnone, Function.update_of_ne (Ne.symm ho)]
      exact .of_eq rfl rfl

/-- A run whose exchanges of the operation all fail strains its circuit by their number. -/
theorem run_strained {moves : List (CallMove ι (HttpExchange β))}
    (hmoves : Runs.Admissible (step breaker provider.completion) AnswersStockRequests s moves)
    (hfailures : ∀ exchange ∈ Runs.trace (step breaker provider.completion) (results operation) s moves,
      exchange.isFailure = true) :
    CircuitState.Strained breaker (s.states operation)
      (Runs.trace (step breaker provider.completion) (results operation) s moves).length
      ((s.run breaker provider.completion moves).states operation) := by
  induction moves generalizing s with
  | nil => exact .of_eq rfl rfl
  | cons move moves ih =>
    unfold Runs.trace at hfailures ⊢
    rw [List.length_append]
    have hhead := step_strained breaker provider hmoves.1 fun exchange hmem =>
      hfailures exchange (List.mem_append_left _ hmem)
    exact hhead.trans (ih hmoves.2 fun exchange hmem => hfailures exchange (List.mem_append_right _ hmem))

/-- While every stock request is answered in time, only conclusive answers heal a circuit, in every
interleaving of calls. -/
theorem run_only_answers_heal {clock : Seconds} {moves : List (CallMove ι (HttpExchange β))}
    (hmoves : Runs.Admissible (step breaker provider.completion) AnswersStockRequests (start ι clock) moves) :
    (start ι clock).OnlyAnswersHeal breaker provider operation moves := by
  constructor
  · rintro before call exchange now later rfl hfailure ⟨flight, hcall, hoperation⟩
    have hstep : ((start ι clock).run breaker provider.completion before).AnswersStockRequests
        (.complete call exchange now) := (Runs.Admissible.append_iff.mp hmoves).2.1
    generalize (start ι clock).run breaker provider.completion before = s at hcall hstep
    have hresults : results operation s (.complete call exchange now) = [exchange] := by
      have hflight : s.calls call = some flight := hcall
      simp [results, hflight, hoperation]
    have hstrained : CircuitState.Strained breaker (s.states operation) _ _ := step_strained breaker provider hstep (by
      intro exchange' hmem
      rw [hresults, List.mem_singleton] at hmem
      rwa [hmem])
    exact hstrained.not_heals
  · rintro before row later rfl failures hfailures hne hthreshold
    have hrow : Runs.Admissible (step breaker provider.completion) AnswersStockRequests
        ((start ι clock).run breaker provider.completion before) row :=
      (Runs.Admissible.append_iff.mp (Runs.Admissible.append_iff.mp hmoves).1).2
    have hrun : (start ι clock).run breaker provider.completion (before ++ row) =
        ((start ι clock).run breaker provider.completion before).run breaker provider.completion row :=
      Runs.run_append _ _ _ _
    rw [hrun]
    have hstrained : CircuitState.Strained breaker _ failures.length _ := run_strained hrow hfailures
    refine hstrained.opens (List.length_pos_iff.mpr hne) ?_
    rw [hstrained.counted]
    push_cast
    omega

/-- A stock circuit that two server errors have opened stays open over a failed probe. -/
theorem failing_stock_opens : (start ℕ 0).OnlyAnswersHeal ⟨2, 30⟩
    ⟨fun _ => .invalid, fun _ => .invalid, 60000000⟩ .availability
    [.dispatch 0 .availability 0, .complete 0 (.response 503 "" 0) 1, .dispatch 1 .availability 1,
      .complete 1 (.response 500 "" 0) 2, .dispatch 2 .availability 40, .complete 2 (.response 502 "" 0) 41] :=
  run_only_answers_heal (by decide +kernel)

/-- A stock request that times out after a server error sets the count back, and the circuit does not
open. -/
theorem stock_timeout_heals : ¬ ∀ (breaker : CircuitBreaker) (provider : HttpInventoryProvider String)
    (operation : ProviderOperation) (moves : List (CallMove ℕ (HttpExchange String))),
    (start ℕ 0).OnlyAnswersHeal breaker provider operation moves := by
  intro h
  have hspares := (h ⟨2, 30⟩ ⟨fun _ => .invalid, fun _ => .invalid, 60000000⟩ .availability
    [.dispatch 0 .availability 0, .complete 0 (.response 503 "" 0) 1, .dispatch 1 .availability 1,
      .complete 1 .timedOut 2]).spares
  refine hspares
    [.dispatch 0 .availability 0, .complete 0 (.response 503 "" 0) 1, .dispatch 1 .availability 1] 1 .timedOut
    2 [] rfl rfl ⟨⟨.availability, false⟩, by decide +kernel, rfl⟩ (Or.inl ?_)
  decide +kernel

end Circuits
end InventoryReservation
