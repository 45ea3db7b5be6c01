import InventoryReservation.Foundations.Runs
import InventoryReservation.Service.CircuitBreaker
import Mathlib.Logic.Function.Basic

/-! # Overlapping calls through one circuit breaker

Any number of calls through one breaker are under way at the same time: each is admitted in one step and
completes in a later one, and the steps of different calls come in any order. How a call ends is taken
from a result of any type, of which the breaker sees a `Completion`.
-/

namespace InventoryReservation
set_option autoImplicit false

/-- A call that the provider is working on. -/
structure Flight where
  operation : ProviderOperation
  isProbe : Bool
  deriving DecidableEq

/-- The circuits of a breaker, its calls under way, and the clock when it was last read. -/
structure Circuits (ι : Type) where
  states : ProviderOperation → CircuitState
  calls : ι → Option Flight
  clock : Seconds

inductive CallMove (ι γ : Type) where
  | dispatch (call : ι) (operation : ProviderOperation) (now : Seconds)
  | complete (call : ι) (result : γ) (now : Seconds)

def CallMove.now {ι γ : Type} : CallMove ι γ → Seconds
  | dispatch _ _ now => now
  | complete _ _ now => now

namespace Circuits
variable {ι γ : Type}

def start (ι : Type) (clock : Seconds) : Circuits ι := ⟨fun _ => .initial, fun _ => none, clock⟩

section Steps
variable [DecidableEq ι] (breaker : CircuitBreaker) (completionOf : ProviderOperation → γ → Completion)

/-- Start a new call; one that is turned away is over. -/
def dispatch (s : Circuits ι) (call : ι) (operation : ProviderOperation) (now : Seconds) : Circuits ι :=
  match s.calls call, breaker.dispatch (s.states operation) now with
  | none, some (isProbe, state) =>
    { states := Function.update s.states operation state
      calls := Function.update s.calls call (some ⟨operation, isProbe⟩)
      clock := now }
  | _, _ => { s with clock := now }

/-- End a call that is under way. -/
def complete (s : Circuits ι) (call : ι) (result : γ) (now : Seconds) : Circuits ι :=
  match s.calls call with
  | none => { s with clock := now }
  | some flight =>
    { states := Function.update s.states flight.operation
        (breaker.complete (s.states flight.operation) flight.isProbe
          (completionOf flight.operation result) now)
      calls := Function.update s.calls call none
      clock := now }

def step (s : Circuits ι) : CallMove ι γ → Circuits ι
  | .dispatch call operation now => s.dispatch breaker call operation now
  | .complete call result now => s.complete breaker completionOf call result now

abbrev run (s : Circuits ι) (moves : List (CallMove ι γ)) : Circuits ι :=
  Runs.run (step breaker completionOf) s moves

end Steps

/-- The result with which the step ends a call of the operation, if it does. -/
def results [DecidableEq ι] (operation : ProviderOperation) (s : Circuits ι) : CallMove ι γ → List γ
  | .dispatch _ _ _ => []
  | .complete call result _ =>
    match s.calls call with
    | none => []
    | some flight => if flight.operation = operation then [result] else []

/-- A call of the operation at this time is forwarded to the provider. -/
def Forwards (breaker : CircuitBreaker) (s : Circuits ι) (operation : ProviderOperation) (now : Seconds) :
    Prop :=
  (breaker.dispatch (s.states operation) now).isSome

instance (breaker : CircuitBreaker) (s : Circuits ι) (operation : ProviderOperation) (now : Seconds) :
    Decidable (s.Forwards breaker operation now) :=
  inferInstanceAs (Decidable ((breaker.dispatch (s.states operation) now).isSome = true))

/-! ## What a step can do -/

variable [DecidableEq ι] {breaker : CircuitBreaker} {completionOf : ProviderOperation → γ → Completion}
  {s : Circuits ι}

/-- A step lets a new call through, completes one that is under way, or only reads the clock. -/
inductive Stepped (breaker : CircuitBreaker) (completionOf : ProviderOperation → γ → Completion)
    (s : Circuits ι) : CallMove ι γ → Circuits ι → Prop
  | idle (move : CallMove ι γ) : Stepped breaker completionOf s move { s with clock := move.now }
  | dispatched (call : ι) (operation : ProviderOperation) (now : Seconds) (isProbe : Bool)
      (state : CircuitState) (hfree : s.calls call = none)
      (hdispatch : breaker.dispatch (s.states operation) now = some (isProbe, state)) :
      Stepped breaker completionOf s (.dispatch call operation now)
        { states := Function.update s.states operation state
          calls := Function.update s.calls call (some ⟨operation, isProbe⟩)
          clock := now }
  | completed (call : ι) (result : γ) (now : Seconds) (flight : Flight)
      (hcall : s.calls call = some flight) :
      Stepped breaker completionOf s (.complete call result now)
        { states := Function.update s.states flight.operation
            (breaker.complete (s.states flight.operation) flight.isProbe
              (completionOf flight.operation result) now)
          calls := Function.update s.calls call none
          clock := now }

theorem stepped (breaker : CircuitBreaker) (completionOf : ProviderOperation → γ → Completion) (s : Circuits ι)
    (move : CallMove ι γ) : Stepped breaker completionOf s move (s.step breaker completionOf move) := by
  cases move with
  | dispatch call operation now =>
    unfold step dispatch
    dsimp only
    cases hcall : s.calls call with
    | some flight => exact .idle (.dispatch call operation now)
    | none =>
      cases hdispatch : breaker.dispatch (s.states operation) now with
      | none => exact .idle (.dispatch call operation now)
      | some dispatched => exact .dispatched call operation now dispatched.1 dispatched.2 hcall hdispatch
  | complete call result now =>
    unfold step complete
    dsimp only
    cases hcall : s.calls call with
    | none => exact .idle (.complete call result now)
    | some flight => exact .completed call result now flight hcall

theorem Stepped.clock {move : CallMove ι γ} {s' : Circuits ι} (h : Stepped breaker completionOf s move s') :
    s'.clock = move.now := by
  cases h with
  | idle => rfl
  | dispatched => rfl
  | completed => rfl

end Circuits
end InventoryReservation
