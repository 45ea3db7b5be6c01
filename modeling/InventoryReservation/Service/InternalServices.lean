import InventoryReservation.Repository.Store

/-! # Services of the internal API

The inventory, product and provider management services as programs over the store. Each call of a
repository is one session; what a service raises before its first session it raises without one.
-/

namespace InventoryReservation
set_option autoImplicit false

open Sessions Raising

/-- `if result is None: raise error`. -/
def requireSome {α : Type} (error : EndpointError) : Option α → Except EndpointError α
  | some a => .ok a
  | none => .error error

structure SetInventoryLevelCommand where
  productId : Uuid
  providerId : Uuid
  onHand : ℤ
  allocationPriority : ℤ
  routingGroup : Option Uuid

namespace InternalServices

/-! ## Inventory -/

section Inventory
open InventoryLevelRepository

def listProductInventory (productId : Uuid) : InternalProgram (List InventoryLevel) := do
  require (productExists productId) (.productNotFound productId)
  query fun store => .ok (listByProduct productId store)

def getInventoryLevel (productId providerId : Uuid) : InternalProgram InventoryLevel := do
  require (productExists productId) (.productNotFound productId)
  require (providerExists providerId) (.provider (.providerNotFound providerId))
  query fun store =>
    requireSome (.inventoryLevelNotFound productId providerId) (getLevel productId providerId store)

def removeInventoryLevel (productId providerId : Uuid) : InternalProgram Unit := do
  require (productExists productId) (.productNotFound productId)
  require (providerExists providerId) (.provider (.providerNotFound providerId))
  let removed ← transaction (removeLevelSession productId providerId)
  if removed then pure () else throw (.inventoryLevelNotFound productId providerId)

def setInventoryLevel (command : SetInventoryLevelCommand) : InternalProgram InventoryLevel := do
  require (productExists command.productId) (.productNotFound command.productId)
  require (providerExists command.providerId) (.provider (.providerNotFound command.providerId))
  transaction (setLevelSession command.productId command.providerId command.onHand
    command.allocationPriority command.routingGroup)

end Inventory

/-! ## Products -/

def createProduct (productId : Uuid) (command : CreateProductCommand) : InternalProgram Product := do
  let product ← returning (createdProduct productId command)
  transaction (ProductRepository.addSession product)
  pure product

def listProducts (collation : Collation) : InternalProgram (List Product) :=
  query fun store => .ok (ProductRepository.list collation store.catalogue)

def getProduct (productId : Uuid) : InternalProgram Product :=
  query fun store => requireSome (.productNotFound productId) (ProductRepository.get productId store.catalogue)

/-! ## Providers -/

variable (urlsplit : String → Option SplitResult)

def listProviders (collation : Collation) : InternalProgram (List ProviderConfiguration) :=
  query fun store => .ok (ProviderRepository.list collation store)

def getProvider (providerId : Uuid) : InternalProgram ProviderConfiguration :=
  query fun store =>
    requireSome (.provider (.providerNotFound providerId)) (ProviderRepository.get providerId store.database)

def registerProvider (providerId : Uuid) (command : RegisterProviderCommand) :
    InternalProgram ProviderConfiguration := do
  let provider ← returning ((registeredProvider urlsplit providerId command).mapError .provider)
  transaction (ProviderRepository.addSession provider)
  pure provider

def updateProvider (providerId : Uuid) (command : UpdateProviderCommand) :
    InternalProgram ProviderConfiguration := do
  if command.isEmpty then
    throw (.provider (.invalidProviderConfiguration
      "Provider update must include at least one mutable field."))
  else
    let current ← getProvider providerId
    let updated := command.replace current
    returning ((validateProviderConfiguration urlsplit updated).mapError .provider)
    let found ← transaction (ProviderRepository.updateSession updated)
    if found then pure updated else throw (.provider (.providerNotFound providerId))

def enableProvider (providerId : Uuid) : InternalProgram ProviderConfiguration := do
  let provider ← getProvider providerId
  if provider.isEnabled then pure provider
  else
    returning ((validateProviderConfiguration urlsplit provider).mapError .provider)
    let enabledProvider ← transaction (ProviderRepository.setEnabledSession providerId true)
    returning (requireSome (.provider (.providerNotFound providerId)) enabledProvider)

def disableProvider (providerId : Uuid) : InternalProgram ProviderConfiguration := do
  let provider ← getProvider providerId
  if ¬ provider.isEnabled then pure provider
  else
    let disabledProvider ← transaction (ProviderRepository.setEnabledSession providerId false)
    returning (requireSome (.provider (.providerNotFound providerId)) disabledProvider)

def setProviderCredentials (cases : StringCases) (providerId : Uuid) (command : SetProviderCredentialsCommand) :
    InternalProgram ProviderCredentialConfiguration := do
  let provider ← getProvider providerId
  returning ((validateCredentials cases provider.kind command).mapError .provider)
  transaction (ProviderRepository.upsertCredentialsSession (command.credentials providerId))

end InternalServices
end InventoryReservation
