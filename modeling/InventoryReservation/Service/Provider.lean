import InventoryReservation.Service.Values

/-! # Provider port

What the service layer knows of an inventory provider: outcomes, commands, attempts, and the keys
that make its operations idempotent. The `*Reply` types are what an adapter handed out by the
provider registry (an HTTP adapter behind a circuit breaker) gives back for one call: a classified
attempt, or an exception that neither the adapter nor the breaker classifies.
-/

namespace InventoryReservation
set_option autoImplicit false

inductive ProviderHoldOutcome where
  | held
  | outOfStock
  | temporarilyUnavailable
  | unknown
  deriving DecidableEq, Repr

inductive ProviderConfirmOutcome where
  | confirmed
  | rejected
  | temporarilyUnavailable
  | unknown
  deriving DecidableEq, Repr

inductive ProviderReleaseOutcome where
  | released
  | temporarilyUnavailable
  | unknown
  deriving DecidableEq, Repr

inductive ProviderAvailabilityOutcome where
  | fresh
  | stale
  | temporarilyUnavailable
  deriving DecidableEq, Repr

def ProviderConfirmOutcome.value : ProviderConfirmOutcome → String
  | confirmed => "confirmed"
  | rejected => "rejected"
  | temporarilyUnavailable => "temporarily_unavailable"
  | unknown => "unknown"

def ProviderReleaseOutcome.value : ProviderReleaseOutcome → String
  | released => "released"
  | temporarilyUnavailable => "temporarily_unavailable"
  | unknown => "unknown"

/-- The deterministic idempotency keys sent to providers. Each is a format string over identifiers
of one printed length, so two keys are one text only if they are the same constructor applied to the
same identifiers. -/
inductive ProviderKey where
  | hold (reservationId productId providerId : Uuid)
  | confirm (reservationId allocationId : Uuid)
  | release (reservationId allocationId : Uuid)
  deriving DecidableEq, Repr

/-- The text of a key. -/
def ProviderKey.text : ProviderKey → String
  | hold r p v => "reservation:" ++ r.str ++ ":product:" ++ p.str ++ ":provider:" ++ v.str ++ ":hold"
  | confirm r a => "reservation:" ++ r.str ++ ":allocation:" ++ a.str ++ ":confirm"
  | release r a => "reservation:" ++ r.str ++ ":allocation:" ++ a.str ++ ":release"

structure AvailabilityCommand where
  productId : Uuid
  deriving DecidableEq

structure HoldCommand where
  productId : Uuid
  quantity : ℤ
  idempotencyKey : ProviderKey
  deriving DecidableEq

/-- The common shape of `ConfirmCommand` and `ReleaseCommand`. -/
structure OperationCommand where
  holdReference : String
  idempotencyKey : ProviderKey
  deriving DecidableEq

abbrev ConfirmCommand := OperationCommand
abbrev ReleaseCommand := OperationCommand

structure ProviderAvailabilityAttempt where
  outcome : ProviderAvailabilityOutcome
  availableQuantity : Option ℤ
  observedAt : Option Instant
  deriving DecidableEq

structure ProviderHoldAttempt where
  outcome : ProviderHoldOutcome
  reference : Option String
  deriving DecidableEq

structure ProviderHold where
  providerId : Uuid
  reference : Option String
  deriving DecidableEq

/-! ## Replies of registered adapters -/

/-- An availability answer. The response schema only accepts non-negative quantities and a
timestamp. -/
inductive AvailabilityReply where
  | fresh (availableQuantity : ℕ) (observedAt : Instant)
  | stale (availableQuantity : ℕ) (observedAt : Instant)
  | temporarilyUnavailable
  | raised
  deriving DecidableEq

/-- A hold answer. A granted hold always carries the reference of the response body. -/
inductive HoldReply where
  | held (reference : String)
  | outOfStock
  | temporarilyUnavailable
  | unknown
  | raised
  deriving DecidableEq

/-- A confirm or release answer with its outcome. -/
inductive OperationReply (ω : Type) where
  | attempt (outcome : ω)
  | raised
  deriving DecidableEq

abbrev ConfirmReply := OperationReply ProviderConfirmOutcome
abbrev ReleaseReply := OperationReply ProviderReleaseOutcome

def AvailabilityReply.attempt : AvailabilityReply → Option ProviderAvailabilityAttempt
  | fresh quantity observedAt => some ⟨.fresh, some quantity, some observedAt⟩
  | stale quantity observedAt => some ⟨.stale, some quantity, some observedAt⟩
  | temporarilyUnavailable => some ⟨.temporarilyUnavailable, none, none⟩
  | raised => none

def HoldReply.attempt : HoldReply → Option ProviderHoldAttempt
  | held reference => some ⟨.held, some reference⟩
  | outOfStock => some ⟨.outOfStock, none⟩
  | temporarilyUnavailable => some ⟨.temporarilyUnavailable, none⟩
  | unknown => some ⟨.unknown, none⟩
  | raised => none

/-- One call of a registered adapter, with what came back. -/
inductive Exchange where
  | availability (providerId : Uuid) (command : AvailabilityCommand) (reply : AvailabilityReply)
  | hold (providerId : Uuid) (command : HoldCommand) (reply : HoldReply)
  | confirm (providerId : Uuid) (command : ConfirmCommand) (reply : ConfirmReply)
  | release (providerId : Uuid) (command : ReleaseCommand) (reply : ReleaseReply)
  deriving DecidableEq

end InventoryReservation
