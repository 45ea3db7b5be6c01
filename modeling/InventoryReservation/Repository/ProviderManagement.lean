import InventoryReservation.Service.ProviderManagement

/-! # Provider repository

Reading, adding and updating provider rows; each function is one transaction.
-/

namespace InventoryReservation
set_option autoImplicit false

open Relational

def InventoryProviderModel.toDomain (provider : InventoryProviderModel) : ProviderConfiguration where
  id := provider.id
  name := provider.name
  kind := provider.kind
  driver := provider.driver
  baseUrl := provider.baseUrl
  requestTimeoutMs := provider.requestTimeoutMs
  capabilities :=
    { availability := provider.supportsAvailability
      hold := provider.supportsHold
      confirm := provider.supportsConfirm
      release := provider.supportsRelease }
  isEnabled := provider.isEnabled

def ProviderConfiguration.toModel (provider : ProviderConfiguration) : InventoryProviderModel where
  id := provider.id
  name := provider.name
  kind := provider.kind
  driver := provider.driver
  baseUrl := provider.baseUrl
  requestTimeoutMs := provider.requestTimeoutMs
  supportsAvailability := provider.capabilities.availability
  supportsHold := provider.capabilities.hold
  supportsConfirm := provider.capabilities.confirm
  supportsRelease := provider.capabilities.release
  isEnabled := provider.isEnabled

/-- The constraints on the columns of a provider row. -/
def InventoryProviderModel.violation (provider : InventoryProviderModel) : Option ProviderFailure :=
  if 100 < provider.name.length then some (.valueTooLong "inventory_providers.name")
  else if 100 < provider.driver.length then some (.valueTooLong "inventory_providers.driver")
  else if ∃ baseUrl ∈ provider.baseUrl, 500 < baseUrl.length then
    some (.valueTooLong "inventory_providers.base_url")
  else if provider.kind = .external ∧ provider.baseUrl = none then
    some (.integrity "ck_inventory_providers_external_provider_requires_base_url")
  else if provider.requestTimeoutMs ≤ 0 then
    some (.integrity "ck_inventory_providers_positive_request_timeout")
  else none

namespace ProviderRepository

def get (providerId : Uuid) (database : Database) : Option ProviderConfiguration :=
  (database.providers.find? providerId).map InventoryProviderModel.toDomain

def add (provider : ProviderConfiguration) (database : Database) : Except ProviderFailure Database :=
  match provider.toModel.violation, database.providers.insert? provider.toModel with
  | some failure, _ => .error failure
  | none, none => .error (.integrity "pk_inventory_providers")
  | none, some providers =>
    if database.providers.rows.any fun other => other.name = provider.name then
      .error (.providerNameConflict provider.name)
    else .ok { database with providers }

/-- The row after the `UPDATE`; it leaves kind, driver and enablement alone. -/
def assign (provider : ProviderConfiguration) (row : InventoryProviderModel) : InventoryProviderModel :=
  { row with
    name := provider.name
    baseUrl := provider.baseUrl
    requestTimeoutMs := provider.requestTimeoutMs
    supportsAvailability := provider.capabilities.availability
    supportsHold := provider.capabilities.hold
    supportsConfirm := provider.capabilities.confirm
    supportsRelease := provider.capabilities.release }

theorem assign_id (provider : ProviderConfiguration) (row : InventoryProviderModel) :
    (assign provider row).id = row.id := rfl

/-- Whether a row was there to update, and the database after it. -/
def update (provider : ProviderConfiguration) (database : Database) :
    Except ProviderFailure (Bool × Database) :=
  match database.providers.find? provider.id with
  | none => .ok (false, database)
  | some row =>
    match (assign provider row).violation with
    | some failure => .error failure
    | none =>
      if database.providers.rows.any fun other => other.id ≠ provider.id ∧ other.name = provider.name then
        .error (.providerNameConflict provider.name)
      else .ok (true, { database with
        providers := database.providers.update provider.id (assign provider) (assign_id provider) })

def enablement (isEnabled : Bool) (row : InventoryProviderModel) : InventoryProviderModel :=
  { row with isEnabled }

theorem enablement_id (isEnabled : Bool) (row : InventoryProviderModel) :
    (enablement isEnabled row).id = row.id := rfl

def setEnabled (providerId : Uuid) (isEnabled : Bool) (database : Database) :
    Option ProviderConfiguration × Database :=
  let providers := database.providers.update providerId (enablement isEnabled) (enablement_id isEnabled)
  ((providers.find? providerId).map InventoryProviderModel.toDomain, { database with providers })

end ProviderRepository
end InventoryReservation
