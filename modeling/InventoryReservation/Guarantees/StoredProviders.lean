import InventoryReservation.Guarantees.LinearizableCalls

/-! # Stored providers and their credentials

Credentials are checked against the kind of a provider that an earlier session read, and names against the rows
that are there when a row is written. Whatever comes in between, stored credentials are such as their provider
may have, and no two providers have one name.
-/

namespace InventoryReservation
set_option autoImplicit false

open Relational Sessions

/-- The stores in order with different names of providers and checked credentials. -/
def InternalStore.consistency (settings : InternalSettings) : Growth InternalStore where
  inv store := store.Operable settings.urlsplit ∧ store.NamesDiffer ∧ store.CredentialsChecked settings.cases
  grows := Grows
  refl := .refl
  trans := .trans

theorem InternalSettings.admits_consistency (settings : InternalSettings) :
    settings.Admits (InternalStore.consistency settings) where
  operable _ h := h.1
  grows _ _ h := h
  writes _ _ hs hwrites :=
    ⟨⟨hwrites.leads.1, hwrites.names hs.2.1, hwrites.credentials hs.2.2⟩, hwrites.leads.2⟩

/-- Requests can be made with stored credentials: the headers carry the key of the request. -/
theorem ProviderCredentialModel.carriesKey {cases : StringCases} {kind : ProviderKind}
    {credentials : ProviderCredentialModel} (hvalid : credentials.command.Valid cases kind)
    (hcallable : credentials.command.Callable) {resolve : String → Option String}
    (hresolve : ∀ secretRef ∈ credentials.secretRef, (resolve secretRef).isSome) (idempotencyKey : String) :
    ∃ headers, requestHeaders cases credentials.providerId (some ⟨credentials.toDomain, some resolve⟩)
        idempotencyKey = .ok headers ∧
      CarriesKey cases credentials.authType idempotencyKey headers := by
  by_cases hauth : credentials.authType = .none
  · refine ⟨[("Idempotency-Key", idempotencyKey)], if_pos hauth, ?_⟩
    rw [hauth]
    exact carriesKey_none
  · obtain ⟨secretRef, href, -⟩ := hvalid.secretRef hauth
    obtain ⟨secret, hsecret⟩ := Option.isSome_iff_exists.mp (hresolve secretRef href)
    obtain ⟨headerName, hname, husable⟩ := (headerName_usable_iff hvalid).mpr (hcallable.headerName hauth)
    obtain ⟨value, hvalue⟩ := Option.isSome_iff_exists.mp
      ((headerValue_isSome_iff credentials.providerId secret hvalid hauth).mpr hcallable.scheme)
    exact ⟨_, (requestHeaders_ok_iff hauth href hsecret).mpr ⟨headerName, value, hname, husable, hvalue, rfl⟩,
      carriesKey_setItem hauth husable⟩

/-- Every stored provider passes the validation, under a name of its own. Stored credentials belong to a provider,
and an internal one authenticates nothing; they name no secret, and requests can be made with them once their secret
resolves, unless their header name is null or their scheme no string. -/
structure InternalStore.ProvidersUsable (settings : InternalSettings) (store : InternalStore) : Prop where
  valid : store.database.ProvidersValid settings.urlsplit
  names : store.NamesDiffer
  owned : ∀ credentials ∈ store.credentials, ∃ provider,
    store.database.providers.find? credentials.providerId = some provider ∧
      (provider.kind = .internal → credentials.authType = .none)
  secrets : ∀ credentials ∈ store.credentials,
    ¬ (Json.object credentials.publicConfig).HasKey (IsSensitive settings.cases)
  callable : ∀ credentials ∈ store.credentials, credentials.command.Callable →
    ∀ resolve : String → Option String, (∀ secretRef ∈ credentials.secretRef, (resolve secretRef).isSome) →
      ∀ idempotencyKey, ∃ headers,
        requestHeaders settings.cases credentials.providerId (some ⟨credentials.toDomain, some resolve⟩)
          idempotencyKey = .ok headers ∧
        CarriesKey settings.cases credentials.authType idempotencyKey headers

namespace InternalApi
variable {τ : Type} [DecidableEq τ]

/-- Whatever threads run, and however their sessions interleave. -/
theorem run_providers_usable (sha256 : String → String) {settings : InternalSettings} {store : InternalStore}
    (hstore : store.Operable settings.urlsplit) (hnames : store.NamesDiffer)
    (hcredentials : store.CredentialsChecked settings.cases) (works : τ → Work) (turns : List τ) :
    ((start sha256 settings works store).run turns).shared.ProvidersUsable settings := by
  have hkept : (start sha256 settings works store).Kept (InternalStore.consistency settings) :=
    start_keeps settings.admits_consistency sha256 ⟨hstore, hnames, hcredentials⟩ works
  obtain ⟨hoperable, hdiffer, hchecked⟩ := (Threads.run_kept hkept turns).inv
  refine ⟨hoperable.providers, hdiffer, fun credentials hmem => ?_, fun credentials hmem => ?_,
    fun credentials hmem hcallable resolve hresolve => ?_⟩
  · obtain ⟨provider, hprovider, hvalid⟩ := hchecked credentials hmem
    exact ⟨provider, hprovider, hvalid.internal⟩
  · obtain ⟨provider, -, hvalid⟩ := hchecked credentials hmem
    exact hvalid.publicConfig
  · obtain ⟨provider, -, hvalid⟩ := hchecked credentials hmem
    exact credentials.carriesKey hvalid hcallable hresolve

/-- A supplier gets its credentials while another one asks for its name. -/
def connecting : ℕ → Work
  | 0 => .internal (.registerProvider 20
      ⟨"supplier", .external, "http", some "http://supplier", 2000, ⟨true, true, true, true⟩⟩)
  | 1 => .internal (.setProviderCredentials 20
      (Deployment.apiKeyCommand [("header_name", .string "X-Provider-Key")]))
  | _ => .internal (.registerProvider 21
      ⟨"supplier", .external, "http", some "http://supplier", 2000, ⟨true, true, true, true⟩⟩)

def connected : InternalStore := ((start Deployment.sha256 settings connecting .empty).run [0, 1, 2, 1]).shared

theorem run_providers_usable_connecting :
    connected.ProvidersUsable settings ∧ connected.credentials.rows.length = 1 ∧
      connected.database.providers.rows.length = 1 :=
  ⟨run_providers_usable Deployment.sha256 (InternalStore.operable_empty _)
    (fun a ha => absurd ha (Table.not_mem_empty a))
    (fun credentials h => absurd h (Table.not_mem_empty credentials)) connecting [0, 1, 2, 1], rfl, rfl⟩

end InternalApi
end InventoryReservation
