import InventoryReservation.Repository.HttpProvider

/-! # Which exchanges are classified

A call that goes through the breaker ends in an attempt, and counts where the client or the server failed,
for some exchanges and not for others. Each operation has its own list of what it handles.
-/

namespace InventoryReservation
set_option autoImplicit false

namespace HttpInventoryProvider
variable {β : Type}

/-- An accepted hold with a body that cannot be read. -/
def unreadableHold (provider : HttpInventoryProvider β) : HttpExchange β → Prop
  | .response status body _ => isSuccess status = true ∧ ∀ reference, provider.holdResponse body ≠ .valid reference
  | _ => False

/-- The caller gets an attempt, the circuit in this state counts what failed, and a hold that was accepted
with a body that cannot be read is unknown. -/
structure Classified (provider : HttpInventoryProvider β) (breaker : CircuitBreaker) (state : CircuitState)
    (isProbe : Bool) (now : Seconds) (operation : ProviderOperation) (exchange : HttpExchange β) : Prop where
  answers : provider.answers operation exchange = true
  counts : exchange.isTransportFailure = true →
    (breaker.complete state isProbe (provider.completion operation exchange) now).failureCount =
      state.failureCount + 1
  unreadable : operation = .hold → provider.unreadableHold exchange →
    BreakerOperation.hold.answer (provider.hold exchange) = some ⟨.unknown, none⟩

/-- The responses an operation has an answer for. -/
def reads (provider : HttpInventoryProvider β) (status : ℕ) (body : β) : ProviderOperation → Prop
  | .availability => isSuccess status = true ∧ provider.availabilityResponse body ≠ .raised
  | .hold => status = 409 ∨ isSuccess status = true ∧ ∃ reference, provider.holdResponse body = .valid reference
  | .confirm => status = 404 ∨ status = 409 ∨ isSuccess status = true
  | .release => status = 404 ∨ isSuccess status = true

/-- Server errors, timeouts of the operations that change something, and the responses an operation reads. -/
def handles (provider : HttpInventoryProvider β) (operation : ProviderOperation) : HttpExchange β → Prop
  | .unsent => True
  | .timedOut => operation ≠ .availability
  | .transportError => False
  | .response status body _ => isServerError status = true ∨ provider.reads status body operation

variable {provider : HttpInventoryProvider β} {breaker : CircuitBreaker} {state : CircuitState} {isProbe : Bool}
  {now : Seconds} {operation : ProviderOperation}

/-- A response that is no server error is answered exactly if the operation reads it. -/
theorem answers_response_iff {status : ℕ} {body : β} {clock : Instant} (hserver : isServerError status = false) :
    provider.answers operation (.response status body clock) = true ↔ provider.reads status body operation := by
  cases operation with
  | availability =>
    unfold answers reads availability HttpExchange.classify BreakerOperation.answer
    dsimp only
    rw [hserver, if_neg Bool.false_ne_true]
    by_cases hsuccess : isSuccess status = true
    · rw [if_pos hsuccess]
      cases hbody : provider.availabilityResponse body with
      | raised => simp
      | invalid => simp [hsuccess]
      | valid payload =>
        dsimp only
        by_cases hzone : (!payload.hasTimezone) = true
        · rw [if_pos hzone]
          simp [hsuccess]
        · rw [if_neg hzone]
          by_cases hstale : provider.availabilityMaxAge < clock - payload.observedAt
          · rw [if_pos hstale]
            simp [hsuccess]
          · rw [if_neg hstale]
            simp [hsuccess]
    · rw [if_neg hsuccess]
      simp [hsuccess]
  | hold =>
    unfold answers reads hold HttpExchange.classify BreakerOperation.answer
    dsimp only
    by_cases hconflict : status = 409
    · simp [hconflict]
    · rw [if_neg hconflict]
      dsimp only
      rw [hserver, if_neg Bool.false_ne_true]
      by_cases hsuccess : isSuccess status = true
      · rw [if_pos hsuccess]
        cases hbody : provider.holdResponse body with
        | raised => simp [hconflict]
        | invalid => simp [hconflict]
        | valid reference => simp [hsuccess]
      · rw [if_neg hsuccess]
        simp [hconflict, hsuccess]
  | confirm =>
    unfold answers reads confirm HttpExchange.classify BreakerOperation.answer
    dsimp only
    by_cases hrejected : status = 404 ∨ status = 409
    · rw [if_pos hrejected]
      simp [← or_assoc, hrejected]
    · rw [if_neg hrejected]
      dsimp only
      rw [hserver, if_neg Bool.false_ne_true, ← or_assoc]
      by_cases hsuccess : isSuccess status = true
      · simp [hsuccess]
      · simp [hrejected, hsuccess]
  | release =>
    unfold answers reads release HttpExchange.classify BreakerOperation.answer
    dsimp only
    by_cases hmissing : status = 404
    · simp [hmissing]
    · rw [if_neg hmissing]
      dsimp only
      rw [hserver, if_neg Bool.false_ne_true]
      by_cases hsuccess : isSuccess status = true
      · simp [hsuccess]
      · simp [hmissing, hsuccess]

/-- A call that counts as failed, or whose outcome is unknown, adds one to the count. -/
theorem failureCount_of_failed {completion : Completion} (h : completion = .callFailed ∨ completion = .unknown) :
    (breaker.complete state isProbe completion now).failureCount = state.failureCount + 1 := by
  rw [CircuitBreaker.complete_failureCount]
  rcases h with rfl | rfl <;> rfl

/-- An exchange is classified as it should be if the operation handles it, and only then, whatever the state
of the circuit. -/
theorem classified_iff (provider : HttpInventoryProvider β) (breaker : CircuitBreaker) (state : CircuitState)
    (isProbe : Bool) (now : Seconds) (operation : ProviderOperation) (exchange : HttpExchange β) :
    provider.Classified breaker state isProbe now operation exchange ↔ provider.handles operation exchange := by
  cases exchange with
  | unsent =>
    have hanswers : provider.answers operation .unsent = true := by cases operation <;> rfl
    exact ⟨fun _ => trivial, fun _ => ⟨hanswers, nofun, fun _ => False.elim⟩⟩
  | timedOut =>
    have hanswers : provider.answers operation .timedOut = true := by cases operation <;> rfl
    unfold handles
    constructor
    · rintro h rfl
      have hcounted := h.counts rfl
      rw [completion_timedOut, if_pos rfl, CircuitBreaker.complete_failureCount] at hcounted
      exact absurd hcounted.symm (Nat.succ_ne_zero _)
    · intro hchanging
      refine ⟨hanswers, fun _ => failureCount_of_failed (Or.inr ?_), fun _ => False.elim⟩
      rw [completion_timedOut, if_neg hchanging]
  | transportError =>
    have hraised : provider.answers operation .transportError = false := by cases operation <;> rfl
    refine ⟨fun h => ?_, False.elim⟩
    have hanswers := h.answers
    rw [hraised] at hanswers
    cases hanswers
  | response status body clock =>
    unfold handles
    cases hserver : isServerError status with
    | true =>
      have hcompletion : provider.completion operation (.response status body clock) = .callFailed :=
        completion_serverError body clock hserver operation
      refine ⟨fun _ => Or.inl hserver, fun _ => ⟨answers_iff.mpr ?_,
        fun _ => failureCount_of_failed (Or.inl hcompletion), fun _ h => ?_⟩⟩
      · rw [hcompletion]
        exact Completion.noConfusion
      · have hsuccess : 200 ≤ status ∧ status ≤ 299 := by simpa [isSuccess] using h.1
        have hrange : 500 ≤ status ∧ status ≤ 599 := by simpa [isServerError] using hserver
        omega
    | false =>
      refine ⟨fun h => Or.inr ((answers_response_iff hserver).mp h.answers), fun h => ?_⟩
      have hreads : provider.reads status body operation := h.resolve_left (by simp [hserver])
      have hanswers : provider.answers operation (.response status body clock) = true :=
        (answers_response_iff hserver).mpr hreads
      refine ⟨hanswers, fun hfailure => ?_, fun hhold hunreadable => ?_⟩
      · have hfailed : isServerError status = true := hfailure
        rw [hserver] at hfailed
        cases hfailed
      · subst hhold
        have hsuccess : 200 ≤ status ∧ status ≤ 299 := by simpa [isSuccess] using hunreadable.1
        rcases hreads with hconflict | ⟨-, reference, hvalid⟩
        · omega
        · exact absurd hvalid (hunreadable.2 reference)

/-- A hold is accepted with an empty body: the call raises. -/
theorem unreadable_hold_raises : ¬ ∀ (provider : HttpInventoryProvider String) (breaker : CircuitBreaker)
    (state : CircuitState) (isProbe : Bool) (now : Seconds) (operation : ProviderOperation)
    (exchange : HttpExchange String), provider.Classified breaker state isProbe now operation exchange := by
  intro h
  have hanswers := (h ⟨fun _ => .invalid, fun _ => .invalid, 60000000⟩ ⟨3, 30⟩ .initial false 1 .hold
    (.response 201 "" 0)).answers
  cases hanswers

end HttpInventoryProvider
end InventoryReservation
