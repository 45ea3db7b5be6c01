import InventoryReservation.Concurrency.OverlappingCalls
import InventoryReservation.Service.Values

/-! # The registry of external providers

`ProviderRegistry.get_external` keeps one adapter for each provider, each with a circuit breaker of its own,
and hands out the one it has as long as it is asked for with the settings that one was built with. An adapter
that has been replaced may still be in use: a transaction holds on to what it was given. So all adapters ever
built are kept here, an adapter being its place among them, and calls through any of them come in any order.
-/

namespace InventoryReservation
set_option autoImplicit false

/-- A `CircuitBreakerProvider` around the HTTP adapter of a provider. The settings stand for
`_ExternalProviderSettings`. -/
structure Adapter (σ ι : Type) where
  providerId : Uuid
  settings : σ
  circuits : Circuits ι

/-- `_providers`, and the adapters it has held. -/
structure ProviderRegistry (σ ι : Type) where
  providers : Uuid → Option (σ × ℕ)
  adapters : List (Adapter σ ι)

inductive RegistryMove (σ ι γ : Type) where
  | getExternal (providerId : Uuid) (settings : σ) (clock : Seconds)
  | call (adapter : ℕ) (move : CallMove ι γ)

namespace RegistryMove
variable {σ ι γ : Type}

/-- The settings with which the provider is asked for. -/
def lookup (providerId : Uuid) : RegistryMove σ ι γ → List σ
  | getExternal providerId' settings _ => if providerId' = providerId then [settings] else []
  | call _ _ => []

/-- The part of a call that goes through the adapter. -/
def through (adapter : ℕ) : RegistryMove σ ι γ → List (CallMove ι γ)
  | getExternal _ _ _ => []
  | call adapter' move => if adapter' = adapter then [move] else []

end RegistryMove

namespace ProviderRegistry
variable {σ ι γ : Type}

def empty (σ ι : Type) : ProviderRegistry σ ι := ⟨fun _ => none, []⟩

/-- What the adapters were built for. -/
def built (registry : ProviderRegistry σ ι) : List (Uuid × σ) :=
  registry.adapters.map fun adapter => (adapter.providerId, adapter.settings)

/-- The settings of the adapters built for a provider, in the order in which they were built. -/
def settingsOf (registry : ProviderRegistry σ ι) (providerId : Uuid) : List σ :=
  (registry.built.filter fun built => built.1 = providerId).map Prod.snd

/-- The adapter is the last one built for the provider, and has these settings. -/
def Newest (registry : ProviderRegistry σ ι) (providerId : Uuid) (settings : σ) (adapter : ℕ) : Prop :=
  registry.built[adapter]? = some (providerId, settings) ∧
    ∀ later settings', adapter < later → registry.built[later]? ≠ some (providerId, settings')

/-- The end of `get_external`: a new adapter takes the place of the one before. -/
def build (registry : ProviderRegistry σ ι) (providerId : Uuid) (settings : σ) (clock : Seconds) :
    ℕ × ProviderRegistry σ ι :=
  let provider := registry.adapters.length
  (provider,
    { providers := Function.update registry.providers providerId (some (settings, provider))
      adapters := registry.adapters ++ [⟨providerId, settings, .start ι clock⟩] })

section Steps
variable [DecidableEq σ] [DecidableEq ι]

def getExternal (registry : ProviderRegistry σ ι) (providerId : Uuid) (settings : σ) (clock : Seconds) :
    ℕ × ProviderRegistry σ ι :=
  match registry.providers providerId with
  | some (registered, provider) =>
    if registered = settings then (provider, registry) else registry.build providerId settings clock
  | none => registry.build providerId settings clock

variable (breaker : CircuitBreaker) (completionOf : ProviderOperation → γ → Completion)

def step (registry : ProviderRegistry σ ι) : RegistryMove σ ι γ → ProviderRegistry σ ι
  | .getExternal providerId settings clock => (registry.getExternal providerId settings clock).2
  | .call adapter move =>
    { registry with
      adapters := registry.adapters.modify adapter fun adapter =>
        { adapter with circuits := adapter.circuits.step breaker completionOf move } }

abbrev run (registry : ProviderRegistry σ ι) (moves : List (RegistryMove σ ι γ)) : ProviderRegistry σ ι :=
  Runs.run (step breaker completionOf) registry moves

end Steps

/-! ## What a lookup does -/

section Lookups
variable [DecidableEq σ] {registry : ProviderRegistry σ ι} {providerId : Uuid} {settings : σ} {clock : Seconds}

theorem getExternal_registered {provider : ℕ} (h : registry.providers providerId = some (settings, provider)) :
    registry.getExternal providerId settings clock = (provider, registry) := by
  unfold getExternal
  rw [h]
  exact if_pos rfl

theorem getExternal_build (h : (registry.providers providerId).map Prod.fst ≠ some settings) :
    registry.getExternal providerId settings clock = registry.build providerId settings clock := by
  unfold getExternal
  cases hp : registry.providers providerId with
  | none => rfl
  | some registered =>
    rw [hp] at h
    exact if_neg fun he => h (congrArg some he)

end Lookups
end ProviderRegistry
end InventoryReservation
