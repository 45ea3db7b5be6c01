import InventoryReservation.Service.CircuitBreaker

/-! # HTTP provider adapter

How `HttpInventoryProvider` classifies what comes back for its requests, and what the circuit breaker around
it makes of that. What a body says is pydantic's and the JSON decoder's business, so the two response schemas
are parameters.
-/

namespace InventoryReservation
set_option autoImplicit false

/-- What becomes of a request: `_request_headers` fails, so that nothing is sent; no answer comes in time;
the client fails in another way, before sending or after; or a response comes, with its status code and its
body, read at this time. -/
inductive HttpExchange (β : Type) where
  | unsent
  | timedOut
  | transportError
  | response (status : ℕ) (body : β) (clock : Instant)

/-- What `model_validate(response.json())` comes to: a value, a `ValidationError` or another `ValueError`, or
any other exception. -/
inductive Parsed (α : Type) where
  | valid (value : α)
  | invalid
  | raised
  deriving DecidableEq

/-- `_AvailabilityResponse`. -/
structure AvailabilityResponse where
  availableQuantity : ℕ
  observedAt : Instant
  hasTimezone : Bool
  deriving DecidableEq

def isServerError (status : ℕ) : Bool := 500 ≤ status && status ≤ 599

def isSuccess (status : ℕ) : Bool := 200 ≤ status && status ≤ 299

namespace HttpExchange
variable {α β : Type}

/-- The common shape of the four operations: what a timeout means, which status codes are an answer of
their own, and what is read from the body of an accepted request. Any other code is a
`ProviderCallFailedError`, or an `HTTPStatusError` of `raise_for_status`. -/
def classify (timeout : α) (verdict : ℕ → Option α) (accepted : β → Instant → OperationResult α) :
    HttpExchange β → OperationResult α
  | unsent => .callFailed
  | timedOut => .returned timeout
  | transportError => .raised
  | response status body clock =>
    match verdict status with
    | some attempt => .returned attempt
    | none =>
      if isServerError status then .callFailed
      else if isSuccess status then accepted body clock
      else .raised

/-- The exchange timed out or brought a server error. -/
def isFailure : HttpExchange β → Bool
  | unsent => false
  | timedOut => true
  | transportError => false
  | response status _ _ => isServerError status

def isTimeout : HttpExchange β → Bool
  | timedOut => true
  | _ => false

/-- The client or the server failed. -/
def isTransportFailure : HttpExchange β → Bool
  | transportError => true
  | exchange => exchange.isFailure

theorem classify_serverError {timeout : α} {verdict : ℕ → Option α} {accepted : β → Instant → OperationResult α}
    {status : ℕ} {body : β} {clock : Instant} (hverdict : verdict status = none)
    (hserver : isServerError status = true) :
    classify timeout verdict accepted (.response status body clock) = .callFailed := by
  unfold classify
  dsimp only
  rw [hverdict, hserver]
  rfl

end HttpExchange

/-- The adapter: the schemas of its response bodies, and how old a stock level may be. -/
structure HttpInventoryProvider (β : Type) where
  holdResponse : β → Parsed String
  availabilityResponse : β → Parsed AvailabilityResponse
  availabilityMaxAge : Duration

namespace HttpInventoryProvider
variable {β : Type} (provider : HttpInventoryProvider β)

def availability : HttpExchange β → OperationResult ProviderAvailabilityAttempt :=
  HttpExchange.classify ⟨.temporarilyUnavailable, none, none⟩ (fun _ => none) fun body clock =>
    match provider.availabilityResponse body with
    | .raised => .raised
    | .invalid => .callFailed
    | .valid payload =>
      if !payload.hasTimezone then .callFailed
      else if provider.availabilityMaxAge < clock - payload.observedAt then
        .returned ⟨.stale, some payload.availableQuantity, some payload.observedAt⟩
      else .returned ⟨.fresh, some payload.availableQuantity, some payload.observedAt⟩

def hold : HttpExchange β → OperationResult ProviderHoldAttempt :=
  HttpExchange.classify ⟨.unknown, none⟩ (fun status => if status = 409 then some ⟨.outOfStock, none⟩ else none)
    fun body _ =>
      match provider.holdResponse body with
      | .valid reference => .returned ⟨.held, some reference⟩
      | .invalid => .raised
      | .raised => .raised

def confirm : HttpExchange β → OperationResult ProviderConfirmOutcome :=
  HttpExchange.classify .unknown (fun status => if status = 404 ∨ status = 409 then some .rejected else none)
    fun _ _ => .returned .confirmed

def release : HttpExchange β → OperationResult ProviderReleaseOutcome :=
  HttpExchange.classify .unknown (fun status => if status = 404 then some .released else none)
    fun _ _ => .returned .released

/-- What the circuit breaker makes of an exchange. -/
def completion : ProviderOperation → HttpExchange β → Completion
  | .availability, exchange => BreakerOperation.availability.completion (provider.availability exchange)
  | .hold, exchange => BreakerOperation.hold.completion (provider.hold exchange)
  | .confirm, exchange => BreakerOperation.confirm.completion (confirm exchange)
  | .release, exchange => BreakerOperation.release.completion (release exchange)

/-- The caller gets an attempt, not an exception. -/
def answers : ProviderOperation → HttpExchange β → Bool
  | .availability, exchange => (BreakerOperation.availability.answer (provider.availability exchange)).isSome
  | .hold, exchange => (BreakerOperation.hold.answer (provider.hold exchange)).isSome
  | .confirm, exchange => (BreakerOperation.confirm.answer (confirm exchange)).isSome
  | .release, exchange => (BreakerOperation.release.answer (release exchange)).isSome

/-! ## What callers see -/

variable {provider} {exchange : HttpExchange β}

/-- Every operation counts a server error as a failed call. -/
theorem completion_serverError {status : ℕ} (body : β) (clock : Instant) (h : isServerError status = true)
    (operation : ProviderOperation) :
    provider.completion operation (.response status body clock) = .callFailed := by
  have hrange : 500 ≤ status ∧ status ≤ 599 := by simpa [isServerError] using h
  have hconflict : status ≠ 409 := by omega
  have hmissing : status ≠ 404 := by omega
  cases operation with
  | availability =>
    have hfailed : provider.availability (.response status body clock) = .callFailed :=
      HttpExchange.classify_serverError rfl h
    exact congrArg BreakerOperation.availability.completion hfailed
  | hold =>
    have hfailed : provider.hold (.response status body clock) = .callFailed :=
      HttpExchange.classify_serverError (if_neg hconflict) h
    exact congrArg BreakerOperation.hold.completion hfailed
  | confirm =>
    have hfailed : confirm (.response status body clock) = .callFailed :=
      HttpExchange.classify_serverError (if_neg fun hc => hc.elim hmissing hconflict) h
    exact congrArg BreakerOperation.confirm.completion hfailed
  | release =>
    have hfailed : release (.response status body clock) = .callFailed :=
      HttpExchange.classify_serverError (if_neg hmissing) h
    exact congrArg BreakerOperation.release.completion hfailed

/-- A timeout is an unknown outcome, but a conclusive one where a stock level was asked for. -/
theorem completion_timedOut (operation : ProviderOperation) :
    provider.completion operation .timedOut = if operation = .availability then .conclusive else .unknown := by
  cases operation <;> rfl

/-- Timeouts of the three changing operations and all server errors count as failures. -/
theorem completion_of_isFailure {operation : ProviderOperation} (hfailure : exchange.isFailure = true)
    (htimeout : operation = .availability → exchange.isTimeout = false) :
    provider.completion operation exchange = .callFailed ∨ provider.completion operation exchange = .unknown := by
  cases exchange with
  | unsent => cases hfailure
  | transportError => cases hfailure
  | timedOut =>
    have hchanging : operation ≠ .availability := fun h => Bool.noConfusion (htimeout h)
    rw [completion_timedOut, if_neg hchanging]
    exact Or.inr rfl
  | response status body clock => exact Or.inl (completion_serverError body clock hfailure operation)

/-- A call raises exactly when the breaker counts it as neither. -/
theorem answers_iff {operation : ProviderOperation} :
    provider.answers operation exchange = true ↔ provider.completion operation exchange ≠ .raised := by
  have hresult : ∀ {α : Type} (operation : BreakerOperation α) (result : OperationResult α),
      (operation.answer result).isSome = true ↔ operation.completion result ≠ .raised := by
    intro α operation result
    unfold BreakerOperation.answer BreakerOperation.completion OperationResult.completion
    cases result with
    | returned attempt =>
      dsimp only
      split <;> simp
    | callFailed => simp
    | raised => simp
  cases operation with
  | availability => exact hresult _ _
  | hold => exact hresult _ _
  | confirm => exact hresult _ _
  | release => exact hresult _ _

/-- A stock level that reaches the router carries a quantity and a time, as `AvailabilityReply` has it. -/
theorem availability_reply (exchange : HttpExchange β) : ∃ reply : AvailabilityReply,
    reply.attempt = BreakerOperation.availability.answer (provider.availability exchange) := by
  have hfailed : AvailabilityReply.attempt .temporarilyUnavailable =
      BreakerOperation.availability.answer .callFailed := rfl
  unfold availability HttpExchange.classify
  cases exchange with
  | unsent => exact ⟨.temporarilyUnavailable, rfl⟩
  | timedOut => exact ⟨.temporarilyUnavailable, rfl⟩
  | transportError => exact ⟨.raised, rfl⟩
  | response status body clock =>
    dsimp only
    split
    · exact ⟨_, hfailed⟩
    · split
      · cases provider.availabilityResponse body with
        | raised => exact ⟨.raised, rfl⟩
        | invalid => exact ⟨_, hfailed⟩
        | valid payload =>
          dsimp only
          split
          · exact ⟨_, hfailed⟩
          · split
            · exact ⟨.stale payload.availableQuantity payload.observedAt, rfl⟩
            · exact ⟨.fresh payload.availableQuantity payload.observedAt, rfl⟩
      · exact ⟨.raised, rfl⟩

/-- A granted hold that reaches the router carries a reference, as `HoldReply` has it. -/
theorem hold_reply (exchange : HttpExchange β) : ∃ reply : HoldReply,
    reply.attempt = BreakerOperation.hold.answer (provider.hold exchange) := by
  unfold hold HttpExchange.classify
  cases exchange with
  | unsent => exact ⟨.temporarilyUnavailable, rfl⟩
  | timedOut => exact ⟨.unknown, rfl⟩
  | transportError => exact ⟨.raised, rfl⟩
  | response status body clock =>
    dsimp only
    by_cases hconflict : status = 409
    · rw [if_pos hconflict]
      exact ⟨.outOfStock, rfl⟩
    · rw [if_neg hconflict]
      dsimp only
      split
      · exact ⟨.temporarilyUnavailable, rfl⟩
      · split
        · cases provider.holdResponse body with
          | valid reference => exact ⟨.held reference, rfl⟩
          | invalid => exact ⟨.raised, rfl⟩
          | raised => exact ⟨.raised, rfl⟩
        · exact ⟨.raised, rfl⟩

end HttpInventoryProvider
end InventoryReservation
