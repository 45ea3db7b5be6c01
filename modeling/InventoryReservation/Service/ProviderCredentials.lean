import InventoryReservation.Foundations.Json
import InventoryReservation.Service.ProviderManagement

/-! # Credentials in the service layer

What `set_provider_credentials` checks before it stores how a provider is authenticated. Changing the
case of letters is a parameter (`StringCases`).
-/

namespace InventoryReservation
set_option autoImplicit false

inductive ProviderAuthType where
  | none
  | apiKey
  | bearer
  | basic
  | oauth2
  deriving DecidableEq, Repr

structure SetProviderCredentialsCommand where
  authType : ProviderAuthType
  secretRef : Option String
  publicConfig : List (String × Json)

structure ProviderCredentialConfiguration where
  providerId : Uuid
  authType : ProviderAuthType
  secretRef : Option String
  publicConfig : List (String × Json)

/-- The credentials that a command asks to be stored. -/
def SetProviderCredentialsCommand.credentials (command : SetProviderCredentialsCommand) (providerId : Uuid) :
    ProviderCredentialConfiguration where
  providerId
  authType := command.authType
  secretRef := command.secretRef
  publicConfig := command.publicConfig

/-- The lower case of ASCII letters. -/
def asciiLower (text : String) : String := String.ofList (text.toList.map Char.toLower)

/-- `str.lower` and `str.casefold`, which folds ASCII letters to lower case. -/
structure StringCases where
  lower : String → String
  casefold : String → String
  casefold_ascii : ∀ text : String, (∀ c ∈ text.toList, c.toNat < 128) → casefold text = asciiLower text

/-! ## Public configuration -/

def sensitivePublicConfigKeys : List String :=
  ["api_key", "access_token", "authorization", "client_secret", "password", "refresh_token", "secret", "token"]

/-- `text.strip()`. -/
def strip (text : String) : String :=
  String.ofList (((text.toList.dropWhile isSpace).reverse.dropWhile isSpace).reverse)

/-- `str(key).strip().lower().replace("-", "_")`. -/
def normalizedKey (cases : StringCases) (key : String) : String :=
  String.ofList ((cases.lower (strip key)).toList.map fun c => if c = '-' then '_' else c)

mutual

/-- `_contains_sensitive_public_config`. -/
def containsSensitivePublicConfig (cases : StringCases) : Json → Bool
  | .object members => anyMemberSensitive cases members
  | .array items => anyItemSensitive cases items
  | .null => false
  | .bool _ => false
  | .number _ _ => false
  | .string _ => false

/-- The loop over the members of an object. -/
def anyMemberSensitive (cases : StringCases) : List (String × Json) → Bool
  | [] => false
  | (key, nestedValue) :: members =>
    if normalizedKey cases key ∈ sensitivePublicConfigKeys then true
    else if containsSensitivePublicConfig cases nestedValue then true
    else anyMemberSensitive cases members

/-- The loop over the items of a list. -/
def anyItemSensitive (cases : StringCases) : List Json → Bool
  | [] => false
  | item :: items => containsSensitivePublicConfig cases item || anyItemSensitive cases items

end

/-- The user name of basic authentication, if it can be one. -/
def basicUsername (publicConfig : List (String × Json)) : Option String :=
  match Json.getD publicConfig "username" .null with
  | .string username => if isBlank username ∨ ':' ∈ username.toList then none else some username
  | _ => none

def validateHeaderName (cases : StringCases) : Json → Except ProviderFailure Unit
  | .null => .ok ()
  | .string headerName => do
    reject (isBlank headerName) "Credential header name must be a non-blank string."
    reject (cases.casefold headerName = "idempotency-key")
      "Credential header must not overwrite Idempotency-Key."
  | _ => .error (.invalidProviderConfiguration "Credential header name must be a non-blank string.")

/-- The checks of `set_provider_credentials`, in its order. -/
def validateCredentials (cases : StringCases) (kind : ProviderKind) (command : SetProviderCredentialsCommand) :
    Except ProviderFailure Unit := do
  reject (kind = .internal ∧ command.authType ≠ .none)
    "Internal provider does not support external credentials."
  reject (command.authType ≠ .none ∧ ∀ secretRef ∈ command.secretRef, isBlank secretRef)
    "Authenticated provider requires a non-blank secret reference."
  reject (∃ secretRef ∈ command.secretRef, 255 < secretRef.length)
    "Secret reference must not exceed 255 characters."
  reject (command.authType = .none ∧ command.secretRef ≠ none)
    "Unauthenticated provider must not define a secret reference."
  reject (containsSensitivePublicConfig cases (.object command.publicConfig))
    "Public credential config must not contain secret values."
  reject (command.authType = .basic ∧ basicUsername command.publicConfig = none)
    "Basic authentication requires a non-blank public username."
  validateHeaderName cases (Json.getD command.publicConfig "header_name" .null)

/-! ## What passes the checks -/

section Checks
variable {cases : StringCases}

/-- A key that names a secret. -/
def IsSensitive (cases : StringCases) (key : String) : Prop :=
  normalizedKey cases key ∈ sensitivePublicConfigKeys

theorem anyItemSensitive_iff (items : List Json) :
    anyItemSensitive cases items = true ↔ ∃ item ∈ items, containsSensitivePublicConfig cases item = true := by
  induction items with
  | nil => simp [anyItemSensitive]
  | cons item items ih => simp [anyItemSensitive, ih]

theorem anyMemberSensitive_iff (members : List (String × Json)) :
    anyMemberSensitive cases members = true ↔ ∃ member ∈ members,
      IsSensitive cases member.1 ∨ containsSensitivePublicConfig cases member.2 = true := by
  induction members with
  | nil => simp [anyMemberSensitive]
  | cons member members ih =>
    obtain ⟨key, nestedValue⟩ := member
    rw [List.exists_mem_cons_iff, ← ih, anyMemberSensitive]
    unfold IsSensitive
    by_cases hkey : normalizedKey cases key ∈ sensitivePublicConfigKeys
    · simp [hkey]
    · simp [hkey]

/-- The scan finds a key that names a secret wherever there is one. -/
theorem containsSensitive_iff (value : Json) :
    containsSensitivePublicConfig cases value = true ↔ value.HasKey (IsSensitive cases) := by
  have hscalar : ∀ value : Json, (∀ items, value ≠ .array items) → (∀ members, value ≠ .object members) →
      containsSensitivePublicConfig cases value = false →
      (containsSensitivePublicConfig cases value = true ↔ value.HasKey (IsSensitive cases)) := by
    intro value harray hobject hfalse
    rw [hfalse]
    exact iff_of_false Bool.false_ne_true (Json.not_hasKey_of_scalar harray hobject)
  induction value using Json.induction with
  | null => exact hscalar _ nofun nofun rfl
  | bool value => exact hscalar _ nofun nofun rfl
  | number mantissa exponent => exact hscalar _ nofun nofun rfl
  | string value => exact hscalar _ nofun nofun rfl
  | array items ih =>
    rw [containsSensitivePublicConfig, anyItemSensitive_iff, Json.hasKey_array]
    exact exists_congr fun item => and_congr_right fun h => ih item h
  | object members ih =>
    rw [containsSensitivePublicConfig, anyMemberSensitive_iff, Json.hasKey_object]
    exact exists_congr fun member => and_congr_right fun h => or_congr_right (ih member h)

/-- A header name that can be used: a non-blank string other than the name of the idempotency header. -/
structure IsHeaderName (cases : StringCases) (headerName : String) : Prop where
  notBlank : isBlank headerName = false
  other : cases.casefold headerName ≠ "idempotency-key"

theorem validateHeaderName_ok_iff {headerName : Json} :
    validateHeaderName cases headerName = .ok () ↔
      headerName = .null ∨ ∃ name, headerName = .string name ∧ IsHeaderName cases name := by
  cases headerName with
  | null => exact iff_of_true rfl (Or.inl rfl)
  | string name =>
    rw [validateHeaderName, bind_eq_ok_unit_iff, reject_ok_iff, reject_ok_iff]
    constructor
    · rintro ⟨hblank, hother⟩
      exact Or.inr ⟨name, rfl, by simpa using hblank, hother⟩
    · rintro (h | ⟨name', h, hname⟩)
      · cases h
      · cases h
        exact ⟨by simp [hname.notBlank], hname.other⟩
  | bool value => exact iff_of_false nofun (by rintro (h | ⟨name, h, -⟩) <;> cases h)
  | number mantissa exponent => exact iff_of_false nofun (by rintro (h | ⟨name, h, -⟩) <;> cases h)
  | array items => exact iff_of_false nofun (by rintro (h | ⟨name, h, -⟩) <;> cases h)
  | object members => exact iff_of_false nofun (by rintro (h | ⟨name, h, -⟩) <;> cases h)

/-- The rules that an accepted command satisfies. -/
structure SetProviderCredentialsCommand.Valid (cases : StringCases) (kind : ProviderKind)
    (command : SetProviderCredentialsCommand) : Prop where
  internal : kind = .internal → command.authType = .none
  secretRef : command.authType ≠ .none → ∃ secretRef, command.secretRef = some secretRef ∧ isBlank secretRef = false
  short : ∀ secretRef ∈ command.secretRef, secretRef.length ≤ 255
  unauthenticated : command.authType = .none → command.secretRef = none
  publicConfig : ¬ (Json.object command.publicConfig).HasKey (IsSensitive cases)
  username : command.authType = .basic → (basicUsername command.publicConfig).isSome
  headerName : Json.getD command.publicConfig "header_name" .null = .null ∨
    ∃ name, Json.getD command.publicConfig "header_name" .null = .string name ∧ IsHeaderName cases name

theorem validateCredentials_ok_iff {kind : ProviderKind} {command : SetProviderCredentialsCommand} :
    validateCredentials cases kind command = .ok () ↔ command.Valid cases kind := by
  unfold validateCredentials
  simp only [bind_eq_ok_unit_iff, reject_ok_iff, containsSensitive_iff, validateHeaderName_ok_iff]
  constructor
  · rintro ⟨hinternal, hsecret, hshort, hnone, hpublic, husername, hheader⟩
    refine ⟨fun hk => ?_, fun hauth => ?_, fun secretRef hs => ?_, fun hauth => ?_, hpublic, fun hauth => ?_,
      hheader⟩
    · by_contra hne
      exact hinternal ⟨hk, hne⟩
    · by_contra hno
      refine hsecret ⟨hauth, fun secretRef hs => ?_⟩
      by_contra hblank
      exact hno ⟨secretRef, hs, by simpa using hblank⟩
    · by_contra hlong
      exact hshort ⟨secretRef, hs, by omega⟩
    · by_contra hne
      exact hnone ⟨hauth, hne⟩
    · rw [Option.isSome_iff_ne_none]
      exact fun hu => husername ⟨hauth, hu⟩
  · intro h
    refine ⟨fun hk => hk.2 (h.internal hk.1), ?_, ?_, fun hn => hn.2 (h.unauthenticated hn.1), h.publicConfig, ?_,
      h.headerName⟩
    · rintro ⟨hauth, hblank⟩
      obtain ⟨secretRef, hs, hnot⟩ := h.secretRef hauth
      have hb := hblank secretRef hs
      rw [hnot] at hb
      cases hb
    · rintro ⟨secretRef, hs, hlong⟩
      have hshort := h.short secretRef hs
      omega
    · rintro ⟨hauth, hu⟩
      have hsome := h.username hauth
      rw [hu] at hsome
      cases hsome

end Checks
end InventoryReservation
