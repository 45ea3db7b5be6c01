import InventoryReservation.Service.Reservation

/-! # Provider router

Hold-capable providers are tried in the order the caller gives, in whatever monad the providers act.
-/

namespace InventoryReservation
set_option autoImplicit false

structure HoldProvider (M : Type → Type) where
  providerId : Uuid
  availability : AvailabilityCommand → M ProviderAvailabilityAttempt
  hold : HoldCommand → M ProviderHoldAttempt

structure ProviderRouter (M : Type → Type) where
  providers : List (HoldProvider M)
  availabilityProviderIds : List Uuid
  availabilityObserver : Option (Uuid → ProviderAvailabilityAttempt → M Unit)

namespace ProviderRouter
variable {M : Type → Type} [Monad M] [MonadExceptOf Failure M]

/-- The two `continue` branches of the loop: the attempt rules the provider out. -/
def skips (attempt : ProviderAvailabilityAttempt) (quantity : ℤ) : Bool :=
  attempt.outcome = .temporarilyUnavailable ∨
    (attempt.outcome = .fresh ∧ ∃ available ∈ attempt.availableQuantity, available < quantity)

/-- Ask the provider for its stock when it is listed, tell the observer, and say whether the
provider is passed over. -/
def checkAvailability (router : ProviderRouter M) (provider : HoldProvider M) (command : HoldCommand) :
    M Bool :=
  if provider.providerId ∈ router.availabilityProviderIds then do
    let availability ← provider.availability ⟨command.productId⟩
    match router.availabilityObserver with
    | some observe => observe provider.providerId availability
    | none => pure ()
    pure (skips availability command.quantity)
  else pure false

/-- The loop of `hold` over the providers not yet tried. -/
def holdAmong (router : ProviderRouter M) (command : HoldCommand) :
    List (HoldProvider M) → M (Option ProviderHold)
  | [] => pure none
  | provider :: rest => do
    let skipped ← router.checkAvailability provider command
    if skipped then router.holdAmong command rest
    else do
      let attempt ← provider.hold command
      match attempt.outcome with
      | .held => pure (some ⟨provider.providerId, attempt.reference⟩)
      | .unknown => throw (Failure.unknownProviderOutcome provider.providerId command.idempotencyKey)
      | .outOfStock => router.holdAmong command rest
      | .temporarilyUnavailable => router.holdAmong command rest

def hold (router : ProviderRouter M) (command : HoldCommand) : M (Option ProviderHold) :=
  router.holdAmong command router.providers

end ProviderRouter
end InventoryReservation
