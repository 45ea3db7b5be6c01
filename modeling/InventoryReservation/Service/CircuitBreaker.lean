import InventoryReservation.Service.Provider
import Mathlib.Algebra.Order.Field.Rat

/-! # Circuit breaker

A `CircuitBreakerProvider` keeps one circuit per operation. `_execute` is cut at its `await`: what it does
before the provider is called, whether it calls at all, and what it does when the call ends, in whatever
way. Other calls may run in between, so the two parts find different states.
-/

namespace InventoryReservation
set_option autoImplicit false

/-- What `monotonic()` counts. -/
abbrev Seconds := ℚ

inductive ProviderOperation where
  | availability
  | hold
  | confirm
  | release
  deriving DecidableEq, Repr

/-- `_CircuitState`. -/
structure CircuitState where
  failureCount : ℕ
  openedAt : Option Seconds
  probeInFlight : Bool
  deriving DecidableEq

def CircuitState.initial : CircuitState := ⟨0, none, false⟩

/-- The settings of a breaker. -/
structure CircuitBreaker where
  failureThreshold : ℤ
  recoveryTimeout : Seconds

/-- How an awaited call ends: with an attempt, with `ProviderCallFailedError`, or with any other
exception, cancellation included. -/
inductive OperationResult (α : Type) where
  | returned (attempt : α)
  | callFailed
  | raised
  deriving DecidableEq

/-- What the breaker makes of it. -/
inductive Completion where
  | conclusive
  | unknown
  | callFailed
  | raised
  deriving DecidableEq, Repr

def OperationResult.completion {α : Type} (isUnknown : α → Bool) : OperationResult α → Completion
  | returned attempt => if isUnknown attempt then .unknown else .conclusive
  | callFailed => .callFailed
  | raised => .raised

namespace CircuitBreaker
variable (breaker : CircuitBreaker)

/-- The first part of `_execute`: whether the call goes through as a probe or not, and the state the call
leaves; nothing where it is turned away. -/
def dispatch (state : CircuitState) (now : Seconds) : Option (Bool × CircuitState) :=
  match state.openedAt with
  | none => some (false, state)
  | some openedAt =>
    if now - openedAt < breaker.recoveryTimeout then none
    else if state.probeInFlight then none
    else some (true, { state with probeInFlight := true })

def recordFailure (state : CircuitState) (now : Seconds) : CircuitState :=
  let failureCount := state.failureCount + 1
  { state with
    failureCount
    openedAt := if breaker.failureThreshold ≤ failureCount then some now else state.openedAt }

def recordCompletion (state : CircuitState) (completion : Completion) (now : Seconds) : CircuitState :=
  match completion with
  | .callFailed => breaker.recordFailure state now
  | .unknown => breaker.recordFailure state now
  | .conclusive => { state with failureCount := 0, openedAt := none }
  | .raised => state

/-- The second part of `_execute`, its `finally` included. -/
def complete (state : CircuitState) (isProbe : Bool) (completion : Completion) (now : Seconds) :
    CircuitState :=
  let state := breaker.recordCompletion state completion now
  if isProbe then { state with probeInFlight := false } else state

end CircuitBreaker

/-! ## Operations -/

/-- What an operation passes to `_execute`. -/
structure BreakerOperation (α : Type) where
  operation : ProviderOperation
  temporarilyUnavailable : α
  isUnknown : α → Bool

namespace BreakerOperation

def availability : BreakerOperation ProviderAvailabilityAttempt where
  operation := .availability
  temporarilyUnavailable := ⟨.temporarilyUnavailable, none, none⟩
  isUnknown _ := false

def hold : BreakerOperation ProviderHoldAttempt where
  operation := .hold
  temporarilyUnavailable := ⟨.temporarilyUnavailable, none⟩
  isUnknown attempt := attempt.outcome = .unknown

def confirm : BreakerOperation ProviderConfirmOutcome where
  operation := .confirm
  temporarilyUnavailable := .temporarilyUnavailable
  isUnknown outcome := outcome = .unknown

def release : BreakerOperation ProviderReleaseOutcome where
  operation := .release
  temporarilyUnavailable := .temporarilyUnavailable
  isUnknown outcome := outcome = .unknown

variable {α : Type}

/-- What the caller of a call that went through gets: an attempt, or nothing where it raises. -/
def answer (operation : BreakerOperation α) : OperationResult α → Option α
  | .returned attempt => some attempt
  | .callFailed => some operation.temporarilyUnavailable
  | .raised => none

def completion (operation : BreakerOperation α) (result : OperationResult α) : Completion :=
  result.completion operation.isUnknown

end BreakerOperation

/-! ## What the parts do to a circuit -/

namespace CircuitBreaker
variable {breaker : CircuitBreaker} {state state' : CircuitState} {now : Seconds} {isProbe : Bool}
  {completion : Completion}

/-- Admission touches nothing but the probe flag, and lets a call through as a probe only while none is
marked. -/
theorem dispatch_cases (h : breaker.dispatch state now = some (isProbe, state')) :
    (state.openedAt = none ∧ isProbe = false ∧ state' = state) ∨
      (isProbe = true ∧ state.probeInFlight = false ∧ state' = { state with probeInFlight := true } ∧
        ∃ openedAt, state.openedAt = some openedAt ∧ breaker.recoveryTimeout ≤ now - openedAt) := by
  unfold dispatch at h
  cases ho : state.openedAt with
  | none =>
    rw [ho] at h
    cases h
    exact Or.inl ⟨rfl, rfl, rfl⟩
  | some openedAt =>
    rw [ho] at h
    dsimp only at h
    split at h
    · cases h
    · next hrecovered =>
      split at h
      · cases h
      · next hflag =>
        cases h
        exact Or.inr ⟨rfl, by simpa using hflag, rfl, openedAt, rfl, not_lt.mp hrecovered⟩

theorem dispatch_openedAt (h : breaker.dispatch state now = some (isProbe, state')) :
    state'.openedAt = state.openedAt := by
  rcases dispatch_cases h with ⟨-, -, rfl⟩ | ⟨-, -, rfl, -⟩ <;> rfl

theorem dispatch_failureCount (h : breaker.dispatch state now = some (isProbe, state')) :
    state'.failureCount = state.failureCount := by
  rcases dispatch_cases h with ⟨-, -, rfl⟩ | ⟨-, -, rfl, -⟩ <;> rfl

/-- A call goes through once the recovery window is over and no probe is marked. -/
theorem dispatch_isSome (hprobe : state.probeInFlight = false)
    (hrecovered : ∀ openedAt ∈ state.openedAt, breaker.recoveryTimeout ≤ now - openedAt) :
    (breaker.dispatch state now).isSome := by
  unfold dispatch
  cases ho : state.openedAt with
  | none => rfl
  | some openedAt =>
    dsimp only
    rw [if_neg (not_lt.mpr (hrecovered openedAt ho)), hprobe, if_neg Bool.false_ne_true]
    rfl

@[simp] theorem complete_probeInFlight :
    (breaker.complete state isProbe completion now).probeInFlight = (state.probeInFlight && !isProbe) := by
  unfold complete recordCompletion recordFailure
  cases completion <;> cases isProbe <;> simp

@[simp] theorem complete_failureCount :
    (breaker.complete state isProbe completion now).failureCount =
      (breaker.recordCompletion state completion now).failureCount := by
  unfold complete
  cases isProbe <;> rfl

@[simp] theorem complete_openedAt :
    (breaker.complete state isProbe completion now).openedAt =
      (breaker.recordCompletion state completion now).openedAt := by
  unfold complete
  cases isProbe <;> rfl

end CircuitBreaker
end InventoryReservation
