import InventoryReservation.Guarantees.SettleableHolds

/-! # Stored provider configurations

A configuration is validated as one call read it and written onto the row another call may have left. What
the row keeps of its own is what no call changes, so every stored row passes the validation.
-/

namespace InventoryReservation
set_option autoImplicit false

open Relational Transactional

section Calls
variable {urlsplit : String → Option SplitResult} {s t : Database}

/-- Validity is about the columns that `update` writes and the identity it leaves alone. -/
theorem ProviderConfiguration.Valid.assign {provider : ProviderConfiguration} (h : provider.Valid urlsplit)
    {row : InventoryProviderModel} (hkind : row.kind = provider.kind) (hdriver : row.driver = provider.driver) :
    (ProviderRepository.assign provider row).toDomain.Valid urlsplit where
  name := h.name
  requestTimeout := h.requestTimeout
  internalBaseUrl hk := h.internalBaseUrl (hkind.symm.trans hk)
  internalDriver hk := hdriver.trans (h.internalDriver (hkind.symm.trans hk))
  externalBaseUrl hk := h.externalBaseUrl (hkind.symm.trans hk)
  externalDriver hk := hdriver.trans (h.externalDriver (hkind.symm.trans hk))
  capabilities := h.capabilities

theorem ProviderConfiguration.Valid.enablement {row : InventoryProviderModel} (h : row.toDomain.Valid urlsplit)
    (isEnabled : Bool) : (ProviderRepository.enablement isEnabled row).toDomain.Valid urlsplit :=
  ⟨h.name, h.requestTimeout, h.internalBaseUrl, h.internalDriver, h.externalBaseUrl, h.externalDriver,
    h.capabilities⟩

/-- Every stored configuration passes the validation. -/
def Database.ProvidersValid (urlsplit : String → Option SplitResult) (database : Database) : Prop :=
  ∀ row ∈ database.providers, row.toDomain.Valid urlsplit

theorem Closed.providersValid {opened : OpenCall} (h : Closed urlsplit opened s t) (hreads : opened.Reads s)
    (hall : s.ProvidersValid urlsplit) : t.ProvidersValid urlsplit := by
  obtain ⟨stored, hf, hkind, hdriver⟩ := hreads
  intro row hr
  cases h with
  | unchanged => exact hall row hr
  | updated command hcall hvalid =>
    have hrules := validateProviderConfiguration_ok_iff.mp hvalid
    obtain ⟨-, hsameKind, hsameDriver⟩ := command.replace_identity opened.current
    dsimp only at hr
    rcases Table.mem_update.mp hr with ⟨hr, -⟩ | ⟨before, hb, hid, rfl⟩
    · exact hall row hr
    · have hstored : before = stored := Table.eq_of_key_eq hb (Table.mem_of_find? hf)
        (hid.trans (Table.key_of_find? hf).symm)
      subst hstored
      exact hrules.assign (hkind.trans hsameKind.symm) (hdriver.trans hsameDriver.symm)
  | enabled isEnabled =>
    dsimp only at hr
    rcases Table.mem_update.mp hr with ⟨hr, -⟩ | ⟨before, hb, -, rfl⟩
    · exact hall row hr
    · exact (hall before hb).enablement isEnabled

theorem registerProvider_providersValid {providerId : Uuid} {command : RegisterProviderCommand}
    {provider : ProviderConfiguration}
    (h : ProviderManagementService.registerProvider urlsplit providerId command s = .ok (provider, t))
    (hall : s.ProvidersValid urlsplit) : t.ProvidersValid urlsplit := by
  obtain ⟨hvalid, providers, hi, rfl⟩ := registerProvider_inserts h
  intro row hr
  rcases (Table.mem_insert? hi row).mp hr with hr | rfl
  · exact hall row hr
  · exact validateProviderConfiguration_ok_iff.mp hvalid

end Calls

namespace Administration
variable {sha256 : String → String} {urlsplit : String → Option SplitResult} {state : Administration}

/-- The stored rows are valid, and the calls under way have read rows of the same identity. -/
structure Validated (urlsplit : String → Option SplitResult) (state : Administration) : Prop where
  valid : state.database.ProvidersValid urlsplit
  reads : ∀ opened ∈ state.opened, opened.Reads state.database

theorem Validated.step (h : state.Validated urlsplit) (move : Move) :
    (step sha256 urlsplit state move).Validated urlsplit := by
  cases move with
  | request event =>
    have hproviders := System.step_providers sha256 state.database event
    constructor
    · unfold Database.ProvidersValid
      dsimp only [Administration.step]
      rw [hproviders]
      exact h.valid
    · intro opened ho
      unfold OpenCall.Reads
      dsimp only [Administration.step]
      rw [hproviders]
      exact h.reads opened ho
  | register providerId command =>
    unfold Administration.step
    dsimp only
    cases hr : ProviderManagementService.registerProvider urlsplit providerId command state.database with
    | error failure => exact h
    | ok registered =>
      obtain ⟨provider, database⟩ := registered
      exact ⟨registerProvider_providersValid hr h.valid,
        fun opened ho => (registerProvider_ok hr).1.reads (h.reads opened ho)⟩
  | openCall providerId call =>
    unfold Administration.step
    dsimp only
    cases ho : ProviderManagementService.openCall providerId call state.database with
    | error failure => exact h
    | ok opened =>
      refine ⟨h.valid, fun other hother => ?_⟩
      rcases List.mem_append.mp hother with hother | hother
      · exact h.reads other hother
      · rw [List.mem_singleton.mp hother]
        exact openCall_ok ho
  | closeCall index =>
    unfold Administration.step
    dsimp only
    cases hi : state.opened[index]? with
    | none => exact h
    | some opened =>
      have hreads := h.reads opened (List.mem_of_getElem? hi)
      have hcalls : ∀ call ∈ state.opened.eraseIdx index, call ∈ state.opened :=
        fun call hc => (List.eraseIdx_sublist state.opened index).subset hc
      dsimp only
      cases hc : ProviderManagementService.closeCall urlsplit opened state.database with
      | error failure => exact ⟨h.valid, fun call hmem => h.reads call (hcalls call hmem)⟩
      | ok closed =>
        obtain ⟨written, database⟩ := closed
        have hclosed := closeCall_ok hc
        obtain ⟨rewrite, hrehosts⟩ := hclosed.rehosts
        exact ⟨hclosed.providersValid hreads h.valid, fun call hmem =>
          hrehosts.reads (h.reads call (hcalls call hmem))⟩

/-- From no providers and no calls under way, in any interleaving of calls and requests. -/
theorem run_providers_valid (moves : List Move) (hproviders : state.database.providers = .empty)
    (hopened : state.opened = []) : (run sha256 urlsplit state moves).database.ProvidersValid urlsplit := by
  have hstart : state.Validated urlsplit := by
    constructor
    · intro row hr
      rw [hproviders] at hr
      exact absurd hr (Table.not_mem_empty row)
    · intro opened ho
      rw [hopened] at ho
      cases ho
  exact (Runs.run_invariant_of_all (fun _ move h => h.step move) hstart moves).valid

/-- A provider is renamed by one call while another one, which has read its old name, enables it. -/
theorem renamed_provider_valid : (run Deployment.sha256 urlsplitSupplier unregistered
    [.register 20 ⟨"supplier", .external, "http", some "http://supplier", 2000, ⟨true, true, true, true⟩⟩,
      .openCall 20 .enableProvider, .openCall 20 (.updateProvider ⟨some "renamed", none, none, none⟩), .closeCall 1,
      .closeCall 0]).database.ProvidersValid urlsplitSupplier :=
  run_providers_valid _ rfl rfl

end Administration
end InventoryReservation
