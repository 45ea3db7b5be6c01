import InventoryReservation.Foundations.Runs
import InventoryReservation.Repository.ProviderCredentials
import InventoryReservation.System.Deployment

/-! # Accepted credentials

No stored configuration names a secret at any depth. Credentials that were accepted make request headers
for every idempotency key unless their configuration gives the header name as null, or a scheme that is
no string to an authentication that uses one: the checks let these pass, and every call fails.
-/

namespace InventoryReservation
set_option autoImplicit false

open Relational

/-! ## No stored secrets -/

/-- A call of `set_provider_credentials`, with the providers as they stand then. -/
structure CredentialCall where
  database : Database
  providerId : Uuid
  command : SetProviderCredentialsCommand

namespace CredentialCall

/-- The credentials after a call: as they were, if it raised. -/
def step (cases : StringCases) (table : CredentialTable) (call : CredentialCall) : CredentialTable :=
  match ProviderManagementService.setProviderCredentials cases call.providerId call.command call.database
    table with
  | .ok (_, table) => table
  | .error _ => table

/-- No stored configuration has a key that names a secret. -/
def HoldsNoSecret (cases : StringCases) (table : CredentialTable) : Prop :=
  ∀ credentials ∈ table, ¬ (Json.object credentials.publicConfig).HasKey (IsSensitive cases)

theorem step_holdsNoSecret {cases : StringCases} {table : CredentialTable} (call : CredentialCall)
    (h : HoldsNoSecret cases table) : HoldsNoSecret cases (step cases table call) := by
  unfold step
  split
  · next stored table' hset =>
    obtain ⟨provider, -, hvalid, -, hfind⟩ := setProviderCredentials_ok hset
    intro credentials hmem
    have hfound := Table.find?_of_mem hmem
    rw [hfind] at hfound
    split at hfound
    · cases hfound
      exact hvalid.publicConfig
    · exact h credentials (Table.mem_of_find? hfound)
  · exact h

/-- The scan is true of a value exactly if an object in it, at any depth, has a key that names a secret; and
no configuration that was ever stored has one. -/
theorem no_secret_survives (cases : StringCases) :
    (∀ value : Json, containsSensitivePublicConfig cases value = true ↔ ∃ members,
      value.Reaches (.object members) ∧
        ∃ member ∈ members, normalizedKey cases member.1 ∈ sensitivePublicConfigKeys) ∧
    ∀ calls : List CredentialCall, ∀ credentials ∈ Runs.run (step cases) .empty calls,
      ¬ ∃ members, (Json.object credentials.publicConfig).Reaches (.object members) ∧
        ∃ member ∈ members, normalizedKey cases member.1 ∈ sensitivePublicConfigKeys := by
  constructor
  · exact fun value => containsSensitive_iff value
  · intro calls
    exact Runs.run_invariant_of_all (I := HoldsNoSecret cases) (fun _ call h => step_holdsNoSecret call h)
      (fun credentials hmem => absurd hmem (Table.not_mem_empty credentials)) calls

end CredentialCall

/-! ## Headers -/

/-- Headers with the idempotency key under its name and one other header if the provider authenticates; names
are compared in whatever case. -/
structure CarriesKey (cases : StringCases) (authType : ProviderAuthType) (idempotencyKey : String)
    (headers : List (String × String)) : Prop where
  key : (headers.filter fun header => cases.casefold header.1 = cases.casefold "Idempotency-Key") =
    [("Idempotency-Key", idempotencyKey)]
  authentication :
    (headers.filter fun header => cases.casefold header.1 ≠ cases.casefold "Idempotency-Key").length =
      if authType = .none then 0 else 1

/-- The header name is not null, and the scheme a string, where they are used. -/
structure SetProviderCredentialsCommand.Callable (command : SetProviderCredentialsCommand) : Prop where
  headerName : command.authType ≠ .none → Json.get? command.publicConfig "header_name" ≠ some .null
  scheme : command.authType = .bearer ∨ command.authType = .oauth2 →
    ∀ scheme ∈ Json.get? command.publicConfig "scheme", ∃ text, scheme = .string text

section Headers
variable {cases : StringCases} {providerId : Uuid} {idempotencyKey : String}
  {credentials : ProviderCredentialConfiguration}

theorem ascii_of_all {text : String} (h : (text.toList.all fun c => decide (c.toNat < 128)) = true) :
    ∀ c ∈ text.toList, c.toNat < 128 :=
  fun c hc => of_decide_eq_true (List.all_eq_true.mp h c hc)

theorem StringCases.casefold_idempotencyKey (cases : StringCases) :
    cases.casefold "Idempotency-Key" = "idempotency-key" := by
  rw [cases.casefold_ascii _ (ascii_of_all (by decide))]
  decide

/-- The header names that are used when none is configured can be used. -/
theorem isHeaderName_default (cases : StringCases) (authType : ProviderAuthType) :
    IsHeaderName cases authType.defaultHeaderName := by
  have hall : ∀ authType : ProviderAuthType,
      (authType.defaultHeaderName.toList.all fun c => decide (c.toNat < 128)) = true ∧
        isBlank authType.defaultHeaderName = false ∧
          asciiLower authType.defaultHeaderName ≠ "idempotency-key" := by
    intro authType
    cases authType <;> decide
  obtain ⟨hascii, hblank, hother⟩ := hall authType
  refine ⟨hblank, ?_⟩
  rwa [cases.casefold_ascii _ (ascii_of_all hascii)]

theorem carriesKey_none : CarriesKey cases .none idempotencyKey [("Idempotency-Key", idempotencyKey)] :=
  ⟨by simp, by simp⟩

theorem carriesKey_setItem {authType : ProviderAuthType} {headerName value : String} (hauth : authType ≠ .none)
    (hname : IsHeaderName cases headerName) :
    CarriesKey cases authType idempotencyKey
      (setItem [("Idempotency-Key", idempotencyKey)] headerName value) := by
  have hother : cases.casefold headerName ≠ cases.casefold "Idempotency-Key" := by
    rw [cases.casefold_idempotencyKey]
    exact hname.other
  have hne : "Idempotency-Key" ≠ headerName := by
    rintro rfl
    exact hother rfl
  have hset : setItem [("Idempotency-Key", idempotencyKey)] headerName value =
      [("Idempotency-Key", idempotencyKey), (headerName, value)] := by
    simp [setItem, hne]
  rw [hset]
  exact ⟨by simp [hother], by simp [hother, hauth]⟩

/-- Headers are made if a name and a value for the authentication header can be. -/
theorem requestHeaders_ok_iff {resolve : String → Option String} {secretRef secret : String}
    {headers : List (String × String)} (hauth : credentials.authType ≠ .none)
    (href : credentials.secretRef = some secretRef) (hsecret : resolve secretRef = some secret) :
    requestHeaders cases providerId (some ⟨credentials, some resolve⟩) idempotencyKey = .ok headers ↔
      ∃ headerName value,
        Json.getD credentials.publicConfig "header_name" (.string credentials.authType.defaultHeaderName) =
          .string headerName ∧ IsHeaderName cases headerName ∧ credentials.headerValue secret = some value ∧
        headers = setItem [("Idempotency-Key", idempotencyKey)] headerName value := by
  unfold requestHeaders
  dsimp only
  rw [if_neg hauth, href]
  dsimp only
  rw [hsecret]
  dsimp only
  constructor
  · intro h
    split at h
    · next headerName hname =>
      split at h
      · cases h
      · next hnot =>
        split at h
        · cases h
        · next value hvalue =>
          cases h
          refine ⟨headerName, value, hname, ⟨?_, fun he => hnot (Or.inr he)⟩, hvalue, rfl⟩
          exact Bool.eq_false_iff.mpr fun hb => hnot (Or.inl hb)
    · cases h
  · rintro ⟨headerName, value, hname, hheader, hvalue, rfl⟩
    rw [hname]
    dsimp only
    rw [if_neg, hvalue]
    rintro (hb | he)
    · rw [hheader.notBlank] at hb
      cases hb
    · exact hheader.other he

theorem schemeValue_isSome_iff {publicConfig : List (String × Json)} {secret : String} :
    (schemeValue publicConfig secret).isSome ↔
      ∀ scheme ∈ Json.get? publicConfig "scheme", ∃ text, scheme = .string text := by
  unfold schemeValue Json.getD
  cases hs : Json.get? publicConfig "scheme" with
  | none => simp
  | some scheme => cases scheme <;> simp

/-- The value can be made unless the scheme is no string. -/
theorem headerValue_isSome_iff {command : SetProviderCredentialsCommand} {kind : ProviderKind}
    (providerId : Uuid) (secret : String) (hvalid : command.Valid cases kind) (hauth : command.authType ≠ .none) :
    ((command.credentials providerId).headerValue secret).isSome ↔
      (command.authType = .bearer ∨ command.authType = .oauth2 →
        ∀ scheme ∈ Json.get? command.publicConfig "scheme", ∃ text, scheme = .string text) := by
  unfold ProviderCredentialConfiguration.headerValue SetProviderCredentialsCommand.credentials
  dsimp only
  cases ht : command.authType with
  | none => exact absurd ht hauth
  | apiKey => exact iff_of_true rfl (by rintro (h | h) <;> cases h)
  | basic =>
    rw [Option.isSome_map]
    exact iff_of_true (hvalid.username ht) (by rintro (h | h) <;> cases h)
  | bearer => exact schemeValue_isSome_iff.trans ⟨fun h _ => h, fun h => h (Or.inl rfl)⟩
  | oauth2 => exact schemeValue_isSome_iff.trans ⟨fun h _ => h, fun h => h (Or.inr rfl)⟩

/-- The name can be used unless it is null. -/
theorem headerName_usable_iff {command : SetProviderCredentialsCommand} {kind : ProviderKind}
    (hvalid : command.Valid cases kind) :
    (∃ headerName, Json.getD command.publicConfig "header_name" (.string command.authType.defaultHeaderName) =
        .string headerName ∧ IsHeaderName cases headerName) ↔
      Json.get? command.publicConfig "header_name" ≠ some .null := by
  have hheader := hvalid.headerName
  unfold Json.getD at hheader ⊢
  cases hn : Json.get? command.publicConfig "header_name" with
  | none => exact iff_of_true ⟨_, rfl, isHeaderName_default cases _⟩ nofun
  | some headerName =>
    rw [hn] at hheader
    rcases hheader with hnull | ⟨name, hname, husable⟩
    · have hnull : headerName = .null := hnull
      rw [hnull]
      exact iff_of_false (by rintro ⟨name, h, -⟩; cases h) (not_not_intro rfl)
    · have hname : headerName = .string name := hname
      rw [hname]
      exact iff_of_true ⟨name, rfl, husable⟩ nofun

/-- Accepted credentials make headers that carry the idempotency key, for every key, if and only if the
header name is not null and the scheme is a string where they are used. -/
theorem accepted_credentials_usable_iff {database : Database} {table table' : CredentialTable}
    {command : SetProviderCredentialsCommand} {resolve : String → Option String}
    (haccepted : ProviderManagementService.setProviderCredentials cases providerId command database table =
      .ok (credentials, table'))
    (hresolve : ∀ secretRef ∈ command.secretRef, ∃ secret, resolve secretRef = some secret ∧ secret ≠ "") :
    (∀ idempotencyKey, ∃ headers,
      requestHeaders cases providerId ((ProviderRepository.getCredentials providerId table').map fun credentials =>
        ⟨credentials, some resolve⟩) idempotencyKey = .ok headers ∧
      CarriesKey cases command.authType idempotencyKey headers) ↔ command.Callable := by
  obtain ⟨provider', hfound', hvalid, -, -⟩ := setProviderCredentials_ok haccepted
  rw [getCredentials_of_set haccepted, Option.map_some]
  by_cases hauth : command.authType = .none
  · refine iff_of_true (fun idempotencyKey => ⟨[("Idempotency-Key", idempotencyKey)], ?_, ?_⟩) ⟨?_, ?_⟩
    · exact if_pos hauth
    · rw [hauth]
      exact carriesKey_none
    · exact fun hne => absurd hauth hne
    · rw [hauth]
      rintro (h | h) <;> cases h
  · obtain ⟨secretRef, href, -⟩ := hvalid.secretRef hauth
    obtain ⟨secret, hsecret, -⟩ := hresolve secretRef href
    have hiff : ∀ idempotencyKey headers, requestHeaders cases providerId
        (some ⟨command.credentials providerId, some resolve⟩) idempotencyKey = .ok headers ↔ _ :=
      fun _ _ => requestHeaders_ok_iff hauth href hsecret
    constructor
    · intro h
      obtain ⟨headers, hheaders, -⟩ := h ""
      obtain ⟨headerName, value, hname, husable, hvalue, -⟩ := (hiff _ _).mp hheaders
      refine ⟨fun _ => (headerName_usable_iff hvalid).mp ⟨headerName, hname, husable⟩, ?_⟩
      refine (headerValue_isSome_iff providerId secret hvalid hauth).mp ?_
      rw [hvalue]
      rfl
    · intro hcallable idempotencyKey
      obtain ⟨headerName, hname, husable⟩ := (headerName_usable_iff hvalid).mpr (hcallable.headerName hauth)
      obtain ⟨value, hvalue⟩ := Option.isSome_iff_exists.mp
        ((headerValue_isSome_iff providerId secret hvalid hauth).mpr hcallable.scheme)
      exact ⟨_, (hiff _ _).mpr ⟨headerName, value, hname, husable, hvalue, rfl⟩,
        carriesKey_setItem hauth husable⟩

end Headers

/-! ## Concrete credentials -/

namespace Deployment

/-- Case changes of ASCII text. -/
def asciiCases : StringCases where
  lower := asciiLower
  casefold := asciiLower
  casefold_ascii _ _ := rfl

/-- One secret is configured. -/
def resolveSecret (secretRef : String) : Option String :=
  if secretRef = "env://PROVIDER_API_KEY" then some "s3cr3t" else none

/-- An API key, with these settings. -/
def apiKeyCommand (publicConfig : List (String × Json)) : SetProviderCredentialsCommand where
  authType := .apiKey
  secretRef := some "env://PROVIDER_API_KEY"
  publicConfig

end Deployment

/-- A configured header is used. -/
theorem accepted_credentials_usable_configured : ∃ credentials table',
    ProviderManagementService.setProviderCredentials Deployment.asciiCases 20
        (Deployment.apiKeyCommand [("header_name", .string "X-Provider-Key")]) Deployment.database .empty =
      .ok (credentials, table') ∧
    ((∀ idempotencyKey, ∃ headers,
      requestHeaders Deployment.asciiCases 20 ((ProviderRepository.getCredentials 20 table').map
        fun credentials => ⟨credentials, some Deployment.resolveSecret⟩) idempotencyKey = .ok headers ∧
      CarriesKey Deployment.asciiCases .apiKey idempotencyKey headers) ↔
        (Deployment.apiKeyCommand [("header_name", .string "X-Provider-Key")]).Callable) :=
  ⟨_, _, rfl, accepted_credentials_usable_iff (rfl : ProviderManagementService.setProviderCredentials
    Deployment.asciiCases 20 (Deployment.apiKeyCommand [("header_name", .string "X-Provider-Key")])
    Deployment.database .empty = _) (fun secretRef h => ⟨"s3cr3t", by cases h; rfl, by decide⟩)⟩

/-- A header name that is null is accepted, and no headers can be made. -/
theorem null_header_name_fails : ∃ credentials table',
    ProviderManagementService.setProviderCredentials Deployment.asciiCases 20
        (Deployment.apiKeyCommand [("header_name", .null)]) Deployment.database .empty =
      .ok (credentials, table') ∧
    requestHeaders Deployment.asciiCases 20 ((ProviderRepository.getCredentials 20 table').map fun credentials =>
      ⟨credentials, some Deployment.resolveSecret⟩) "key" = .error ⟨20⟩ :=
  ⟨_, _, rfl, rfl⟩

end InventoryReservation
