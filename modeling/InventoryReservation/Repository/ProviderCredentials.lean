import InventoryReservation.Repository.ProviderManagement
import InventoryReservation.Service.ProviderCredentials

/-! # Stored credentials and the headers made of them

Setting the credentials of a provider, reading them back, and `_request_headers` of the HTTP adapter,
which authenticates every request with them.
-/

namespace InventoryReservation
set_option autoImplicit false

open Relational

structure ProviderCredentialModel where
  providerId : Uuid
  authType : ProviderAuthType
  secretRef : Option String
  publicConfig : List (String × Json)

/-- The stored credentials, at most one row for each provider. -/
abbrev CredentialTable := Table ProviderCredentialModel.providerId

def ProviderCredentialModel.toDomain (credentials : ProviderCredentialModel) :
    ProviderCredentialConfiguration where
  providerId := credentials.providerId
  authType := credentials.authType
  secretRef := credentials.secretRef
  publicConfig := credentials.publicConfig

def ProviderCredentialConfiguration.toModel (credentials : ProviderCredentialConfiguration) :
    ProviderCredentialModel where
  providerId := credentials.providerId
  authType := credentials.authType
  secretRef := credentials.secretRef
  publicConfig := credentials.publicConfig

/-- The constraints a row can violate. -/
def Database.credentialViolation (database : Database) (credentials : ProviderCredentialModel) :
    Option ProviderFailure :=
  if ∃ secretRef ∈ credentials.secretRef, 255 < secretRef.length then
    some (.valueTooLong "provider_credentials.secret_ref")
  else if credentials.authType ≠ .none ∧ credentials.secretRef = none then
    some (.integrity "ck_provider_credentials_authenticated_provider_requires_secret_ref")
  else if (database.providers.find? credentials.providerId).isNone then
    some (.integrity "fk_provider_credentials_provider_id_inventory_providers")
  else none

namespace ProviderRepository

/-- `INSERT .. ON CONFLICT (provider_id) DO UPDATE .. RETURNING`. -/
def upsertCredentials (credentials : ProviderCredentialConfiguration) (database : Database)
    (table : CredentialTable) : Except ProviderFailure (ProviderCredentialConfiguration × CredentialTable) :=
  match database.credentialViolation credentials.toModel with
  | some failure => .error failure
  | none =>
    match table.insert? credentials.toModel with
    | some inserted => .ok (credentials.toModel.toDomain, inserted)
    | none => .ok (credentials.toModel.toDomain, table.replace credentials.toModel)

def getCredentials (providerId : Uuid) (table : CredentialTable) : Option ProviderCredentialConfiguration :=
  (table.find? providerId).map ProviderCredentialModel.toDomain

end ProviderRepository

def ProviderManagementService.setProviderCredentials (cases : StringCases) (providerId : Uuid)
    (command : SetProviderCredentialsCommand) (database : Database) (table : CredentialTable) :
    Except ProviderFailure (ProviderCredentialConfiguration × CredentialTable) :=
  match ProviderRepository.get providerId database with
  | none => .error (.providerNotFound providerId)
  | some provider => do
    validateCredentials cases provider.kind command
    ProviderRepository.upsertCredentials (command.credentials providerId) database table

/-! ## Request headers -/

/-- Credentials with what resolves their secret; a resolver that answers nothing raised
`SecretResolutionError`. -/
structure ProviderAuthentication where
  credentials : ProviderCredentialConfiguration
  secretResolver : Option (String → Option String)

/-- `ProviderCallFailedError`. -/
structure ProviderCallFailed where
  providerId : Uuid
  deriving DecidableEq

/-- `headers[name] = value`. -/
def setItem (headers : List (String × String)) (name value : String) : List (String × String) :=
  if headers.any (fun header => header.1 = name) then
    headers.map fun header => if header.1 = name then (name, value) else header
  else headers ++ [(name, value)]

def base64Digit (n : ℕ) : Char :=
  ("ABCDEFGHIJKLMNOPQRSTUVWXYZabcdefghijklmnopqrstuvwxyz0123456789+/".toList).getD n '='

def base64Digits : List ℕ → List Char
  | [] => []
  | [a] => [base64Digit (a / 4), base64Digit (a % 4 * 16), '=', '=']
  | [a, b] => [base64Digit (a / 4), base64Digit (a % 4 * 16 + b / 16), base64Digit (b % 16 * 4), '=']
  | a :: b :: c :: bytes =>
    base64Digit (a / 4) :: base64Digit (a % 4 * 16 + b / 16) :: base64Digit (b % 16 * 4 + c / 64) ::
      base64Digit (c % 64) :: base64Digits bytes

/-- `b64encode(text.encode()).decode()`. -/
def b64encode (text : String) : String :=
  String.ofList (base64Digits (text.toUTF8.toList.map UInt8.toNat))

def ProviderAuthType.defaultHeaderName : ProviderAuthType → String
  | .apiKey => "X-API-Key"
  | _ => "Authorization"

/-- `f"{scheme} {secret}"`, if the scheme is a string. -/
def schemeValue (publicConfig : List (String × Json)) (secret : String) : Option String :=
  match Json.getD publicConfig "scheme" (.string "Bearer") with
  | .string scheme => some (scheme ++ " " ++ secret)
  | _ => none

/-- The value of the authentication header, if one can be made. -/
def ProviderCredentialConfiguration.headerValue (credentials : ProviderCredentialConfiguration)
    (secret : String) : Option String :=
  match credentials.authType with
  | .apiKey => some secret
  | .basic => (basicUsername credentials.publicConfig).map fun username =>
      "Basic " ++ b64encode (username ++ ":" ++ secret)
  | .bearer => schemeValue credentials.publicConfig secret
  | .oauth2 => schemeValue credentials.publicConfig secret
  | .none => none

/-- `_request_headers`. -/
def requestHeaders (cases : StringCases) (providerId : Uuid) (authentication : Option ProviderAuthentication)
    (idempotencyKey : String) : Except ProviderCallFailed (List (String × String)) :=
  let headers := [("Idempotency-Key", idempotencyKey)]
  match authentication with
  | none => .ok headers
  | some ⟨credentials, secretResolver⟩ =>
    if credentials.authType = .none then .ok headers
    else
      match secretResolver, credentials.secretRef with
      | some resolve, some secretRef =>
        match resolve secretRef with
        | none => .error ⟨providerId⟩
        | some secret =>
          match Json.getD credentials.publicConfig "header_name"
              (.string credentials.authType.defaultHeaderName) with
          | .string headerName =>
            if isBlank headerName ∨ cases.casefold headerName = "idempotency-key" then .error ⟨providerId⟩
            else
              match credentials.headerValue secret with
              | none => .error ⟨providerId⟩
              | some value => .ok (setItem headers headerName value)
          | _ => .error ⟨providerId⟩
      | _, _ => .error ⟨providerId⟩

/-! ## What is stored -/

section Storing
variable {cases : StringCases} {providerId : Uuid} {command : SetProviderCredentialsCommand}
  {database : Database} {table table' : CredentialTable} {credentials : ProviderCredentialConfiguration}

theorem upsertCredentials_ok {stored : ProviderCredentialConfiguration}
    (h : ProviderRepository.upsertCredentials credentials database table = .ok (stored, table')) :
    stored = credentials ∧ ∀ other, table'.find? other =
      if other = credentials.providerId then some credentials.toModel else table.find? other := by
  unfold ProviderRepository.upsertCredentials at h
  split at h
  · cases h
  · cases hrow : table.find? credentials.toModel.providerId with
    | none =>
      obtain ⟨inserted, hinsert⟩ := Table.exists_insert? hrow
      rw [hinsert] at h
      cases h
      exact ⟨rfl, Table.find?_insert? hinsert⟩
    | some row =>
      rw [Table.insert?_eq_none hrow] at h
      cases h
      refine ⟨rfl, fun other => ?_⟩
      have hreplaced : _ = if other = credentials.providerId then _ else _ :=
        Table.find?_replace table credentials.toModel other
      by_cases ho : other = credentials.providerId
      · have hrow : table.find? other = some row := ho ▸ hrow
        rw [if_pos ho, hrow] at hreplaced
        rw [if_pos ho]
        exact hreplaced
      · rw [if_neg ho] at hreplaced
        rw [if_neg ho]
        exact hreplaced

/-- An accepted command passed the checks and is stored in place of what was there. -/
theorem setProviderCredentials_ok
    (h : ProviderManagementService.setProviderCredentials cases providerId command database table =
      .ok (credentials, table')) :
    ∃ provider, database.providers.find? providerId = some provider ∧ command.Valid cases provider.kind ∧
      credentials = command.credentials providerId ∧
      ∀ other, table'.find? other =
        if other = providerId then some (command.credentials providerId).toModel else table.find? other := by
  unfold ProviderManagementService.setProviderCredentials ProviderRepository.get at h
  cases hf : database.providers.find? providerId with
  | none =>
    rw [hf] at h
    cases h
  | some provider =>
    rw [hf] at h
    obtain ⟨hvalid, hupsert⟩ := bind_eq_ok_unit_iff.mp h
    exact ⟨provider, rfl, validateCredentials_ok_iff.mp hvalid, upsertCredentials_ok hupsert⟩

/-- What is read back is what was set. -/
theorem getCredentials_of_set
    (h : ProviderManagementService.setProviderCredentials cases providerId command database table =
      .ok (credentials, table')) :
    ProviderRepository.getCredentials providerId table' = some (command.credentials providerId) := by
  obtain ⟨-, -, -, -, hfind⟩ := setProviderCredentials_ok h
  rw [ProviderRepository.getCredentials, hfind, if_pos rfl]
  rfl

end Storing
end InventoryReservation
