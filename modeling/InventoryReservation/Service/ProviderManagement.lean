import InventoryReservation.Repository.Models

/-! # Provider management service

Registering a provider and changing its configuration: what is computed and checked before a row is
written. `urlsplit` is a parameter; all the check takes from it is whether it raises, the scheme and the
network location.
-/

namespace InventoryReservation
set_option autoImplicit false

structure ProviderCapabilities where
  availability : Bool
  hold : Bool
  confirm : Bool
  release : Bool
  deriving DecidableEq

structure ProviderConfiguration where
  id : Uuid
  name : String
  kind : ProviderKind
  driver : String
  baseUrl : Option String
  requestTimeoutMs : ℤ
  capabilities : ProviderCapabilities
  isEnabled : Bool
  deriving DecidableEq

structure RegisterProviderCommand where
  name : String
  kind : ProviderKind
  driver : String
  baseUrl : Option String
  requestTimeoutMs : ℤ
  capabilities : ProviderCapabilities

structure UpdateProviderCommand where
  name : Option String
  baseUrl : Option String
  requestTimeoutMs : Option ℤ
  capabilities : Option ProviderCapabilities

/-- What the operations on providers raise. -/
inductive ProviderFailure where
  | providerNotFound (providerId : Uuid)
  | invalidProviderConfiguration (message : String)
  | providerNameConflict (providerName : String)
  | invalidUrl
  | valueTooLong (column : String)
  | integrity (constraint : String)
  deriving DecidableEq

/-- The scheme and the network location of a split URL. -/
structure SplitResult where
  scheme : String
  netloc : String
  deriving DecidableEq

/-! ## Validation -/

/-- The characters `str.strip()` removes. -/
def isSpace (c : Char) : Bool :=
  (9 ≤ c.toNat && c.toNat ≤ 13) || (28 ≤ c.toNat && c.toNat ≤ 32) || c.toNat = 0x85 || c.toNat = 0xA0 ||
    c.toNat = 0x1680 || (0x2000 ≤ c.toNat && c.toNat ≤ 0x200A) || c.toNat = 0x2028 || c.toNat = 0x2029 ||
    c.toNat = 0x202F || c.toNat = 0x205F || c.toNat = 0x3000

/-- `not text.strip()`. -/
def isBlank (text : String) : Bool := text.toList.all isSpace

/-- Raise with this message if the condition holds. -/
def reject (condition : Prop) [Decidable condition] (message : String) : Except ProviderFailure Unit :=
  if condition then .error (.invalidProviderConfiguration message) else .ok ()

/-- The part of the validation that splits the base URL of an external provider. -/
def validateBaseUrl (urlsplit : String → Option SplitResult) (provider : ProviderConfiguration) :
    Except ProviderFailure Unit :=
  match provider.kind, provider.baseUrl with
  | .external, some baseUrl =>
    match urlsplit baseUrl with
    | none => .error .invalidUrl
    | some parsedBaseUrl =>
      reject (parsedBaseUrl.scheme ∉ ["http", "https"] ∨ parsedBaseUrl.netloc = "")
        "External provider base URL must use HTTP or HTTPS."
  | _, _ => .ok ()

/-- `_validate_provider_configuration`. -/
def validateProviderConfiguration (urlsplit : String → Option SplitResult)
    (provider : ProviderConfiguration) : Except ProviderFailure Unit := do
  reject (isBlank provider.name) "Provider name must not be blank."
  reject (provider.requestTimeoutMs ≤ 0) "Provider request timeout must be positive."
  reject (provider.kind = .internal ∧ provider.baseUrl ≠ none)
    "Internal provider must not define a base URL."
  reject (provider.kind = .internal ∧ provider.driver ≠ "internal")
    "Internal provider driver must be 'internal'."
  reject (provider.kind = .external ∧ (provider.baseUrl = none ∨ provider.baseUrl = some ""))
    "External provider requires a base URL."
  reject (provider.kind = .external ∧ provider.driver ≠ "http") "External provider driver must be 'http'."
  validateBaseUrl urlsplit provider
  reject (provider.capabilities.hold ∧ ¬ (provider.capabilities.confirm ∧ provider.capabilities.release))
    "Hold-capable provider must support confirm and release."

/-! ## Configurations to write -/

/-- The configuration `register_provider` adds. -/
def registeredProvider (urlsplit : String → Option SplitResult) (providerId : Uuid)
    (command : RegisterProviderCommand) : Except ProviderFailure ProviderConfiguration := do
  let provider : ProviderConfiguration :=
    { id := providerId
      name := command.name
      kind := command.kind
      driver := command.driver
      baseUrl := command.baseUrl
      requestTimeoutMs := command.requestTimeoutMs
      capabilities := command.capabilities
      isEnabled := false }
  validateProviderConfiguration urlsplit provider
  pure provider

/-- The command changes nothing at all; `update_provider` raises before it reads the provider. -/
def UpdateProviderCommand.isEmpty (command : UpdateProviderCommand) : Bool :=
  command.name.isNone && command.baseUrl.isNone && command.requestTimeoutMs.isNone &&
    command.capabilities.isNone

/-- `replace(current, ..)` of `update_provider`. -/
def UpdateProviderCommand.replace (command : UpdateProviderCommand) (current : ProviderConfiguration) :
    ProviderConfiguration :=
  { current with
    name := command.name.getD current.name
    baseUrl := command.baseUrl.or current.baseUrl
    requestTimeoutMs := command.requestTimeoutMs.getD current.requestTimeoutMs
    capabilities := command.capabilities.getD current.capabilities }

/-! ## What a validated configuration satisfies -/

/-- An external provider can be called, and one that holds can confirm and release. -/
structure ProviderConfiguration.Usable (provider : ProviderConfiguration) : Prop where
  baseUrl : provider.kind = .external → provider.baseUrl.isSome
  driver : provider.kind = .external → provider.driver = "http"
  confirm : provider.capabilities.hold → provider.capabilities.confirm
  release : provider.capabilities.hold → provider.capabilities.release

/-- Every rule of the validation holds. -/
structure ProviderConfiguration.Valid (urlsplit : String → Option SplitResult) (provider : ProviderConfiguration) :
    Prop where
  name : isBlank provider.name = false
  requestTimeout : 0 < provider.requestTimeoutMs
  internalBaseUrl : provider.kind = .internal → provider.baseUrl = none
  internalDriver : provider.kind = .internal → provider.driver = "internal"
  externalBaseUrl : provider.kind = .external → ∃ baseUrl parsed, provider.baseUrl = some baseUrl ∧ baseUrl ≠ "" ∧
    urlsplit baseUrl = some parsed ∧ parsed.scheme ∈ ["http", "https"] ∧ parsed.netloc ≠ ""
  externalDriver : provider.kind = .external → provider.driver = "http"
  capabilities : provider.capabilities.hold → provider.capabilities.confirm ∧ provider.capabilities.release

theorem reject_ok_iff {condition : Prop} [Decidable condition] {message : String} :
    reject condition message = .ok () ↔ ¬ condition := by
  unfold reject
  by_cases h : condition
  · simp [h]
  · simp [h]

theorem bind_eq_ok_unit_iff {check : Except ProviderFailure Unit} {α : Type} {next : Unit → Except ProviderFailure α}
    {a : α} : (check >>= next) = .ok a ↔ check = .ok () ∧ next () = .ok a := by
  cases check with
  | error failure =>
    constructor
    · intro h
      cases h
    · intro h
      cases h.1
  | ok _ => exact ⟨fun h => ⟨rfl, h⟩, fun h => h.2⟩

theorem validateBaseUrl_ok_iff {urlsplit : String → Option SplitResult} {provider : ProviderConfiguration} :
    validateBaseUrl urlsplit provider = .ok () ↔ ∀ baseUrl, provider.kind = .external →
      provider.baseUrl = some baseUrl → ∃ parsed, urlsplit baseUrl = some parsed ∧
        parsed.scheme ∈ ["http", "https"] ∧ parsed.netloc ≠ "" := by
  unfold validateBaseUrl
  cases hk : provider.kind with
  | internal => simp
  | external =>
    cases hu : provider.baseUrl with
    | none => simp
    | some baseUrl =>
      cases hs : urlsplit baseUrl with
      | none => simp [hs]
      | some parsed =>
        dsimp only
        rw [hs, reject_ok_iff, not_or, not_not]
        constructor
        · intro h baseUrl' _ hb
          obtain rfl : baseUrl = baseUrl' := Option.some.inj hb
          exact ⟨parsed, hs, h⟩
        · intro h
          obtain ⟨parsed', hparsed, hrules⟩ := h baseUrl rfl rfl
          obtain rfl : parsed = parsed' := Option.some.inj (hs.symm.trans hparsed)
          exact hrules

/-- The configurations that pass the validation. -/
theorem validateProviderConfiguration_ok_iff {urlsplit : String → Option SplitResult}
    {provider : ProviderConfiguration} :
    validateProviderConfiguration urlsplit provider = .ok () ↔ provider.Valid urlsplit := by
  unfold validateProviderConfiguration
  simp only [bind_eq_ok_unit_iff, validateBaseUrl_ok_iff, reject_ok_iff]
  constructor
  · rintro ⟨hname, htimeout, hbase, hdriver, hurl, hhttp, hsplit, hhold⟩
    refine ⟨by simpa using hname, by omega, fun hk => ?_, fun hk => ?_, fun hk => ?_, fun hk => ?_, fun hh => ?_⟩
    · by_contra hne
      exact hbase ⟨hk, hne⟩
    · by_contra hne
      exact hdriver ⟨hk, hne⟩
    · cases hu : provider.baseUrl with
      | none => exact absurd ⟨hk, Or.inl hu⟩ hurl
      | some baseUrl =>
        obtain ⟨parsed, hparsed, hscheme, hnetloc⟩ := hsplit baseUrl hk hu
        refine ⟨baseUrl, parsed, rfl, ?_, hparsed, hscheme, hnetloc⟩
        rintro rfl
        exact hurl ⟨hk, Or.inr hu⟩
    · by_contra hne
      exact hhttp ⟨hk, hne⟩
    · by_contra hne
      exact hhold ⟨hh, hne⟩
  · intro h
    refine ⟨by simp [h.name], by have := h.requestTimeout; omega, fun hk => hk.2 (h.internalBaseUrl hk.1),
      fun hk => hk.2 (h.internalDriver hk.1), fun hk => ?_, fun hk => hk.2 (h.externalDriver hk.1),
      fun baseUrl hk hu => ?_, fun hh => hh.2 (h.capabilities hh.1)⟩
    · obtain ⟨baseUrl, parsed, hu, hne, -⟩ := h.externalBaseUrl hk.1
      rcases hk.2 with hnone | hempty
      · rw [hu] at hnone
        cases hnone
      · rw [hu] at hempty
        exact hne (Option.some.inj hempty)
    · obtain ⟨baseUrl', parsed, hu', -, hparsed⟩ := h.externalBaseUrl hk
      obtain rfl : baseUrl' = baseUrl := Option.some.inj (hu'.symm.trans hu)
      exact ⟨parsed, hparsed⟩

theorem validateProviderConfiguration_ok {urlsplit : String → Option SplitResult}
    {provider : ProviderConfiguration} (h : validateProviderConfiguration urlsplit provider = .ok ()) :
    provider.Usable := by
  have hvalid := validateProviderConfiguration_ok_iff.mp h
  refine ⟨fun hk => ?_, hvalid.externalDriver, fun hh => (hvalid.capabilities hh).1,
    fun hh => (hvalid.capabilities hh).2⟩
  obtain ⟨baseUrl, -, hu, -⟩ := hvalid.externalBaseUrl hk
  rw [hu]
  rfl

/-- Replacing keeps what tells a provider apart. -/
theorem UpdateProviderCommand.replace_identity (command : UpdateProviderCommand)
    (current : ProviderConfiguration) :
    (command.replace current).id = current.id ∧ (command.replace current).kind = current.kind ∧
      (command.replace current).driver = current.driver := ⟨rfl, rfl, rfl⟩

end InventoryReservation
