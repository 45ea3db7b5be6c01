import InventoryReservation.Service.ProviderCredentials
import InventoryReservation.Service.Reservation

/-! # Product management service

Products, what `create_product` checks before it stores one, and the errors of the services behind the
endpoints.
-/

namespace InventoryReservation
set_option autoImplicit false

structure Product where
  id : Uuid
  sku : String
  name : String
  isActive : Bool
  deriving DecidableEq

structure CreateProductCommand where
  sku : String
  name : String

/-- What an endpoint raises: an error of a transaction or of a service. -/
inductive EndpointError where
  | service (failure : Failure)
  | provider (failure : ProviderFailure)
  | reservationNotFound (reservationId : Uuid)
  | productNotFound (productId : Uuid)
  | inventoryLevelNotFound (productId providerId : Uuid)
  | invalidProductConfiguration (message : String)
  | productSkuConflict (sku : String)
  deriving DecidableEq

/-- Raise with this message if the condition holds. -/
def refuse (condition : Prop) [Decidable condition] (message : String) : Except EndpointError Unit :=
  if condition then .error (.invalidProductConfiguration message) else .ok ()

/-- The product `create_product` adds. -/
def createdProduct (productId : Uuid) (command : CreateProductCommand) : Except EndpointError Product := do
  let sku := strip command.sku
  refuse (sku = "") "Product SKU must not be blank."
  refuse (100 < sku.length) "Product SKU must not exceed 100 characters."
  let name := strip command.name
  refuse (name = "") "Product name must not be blank."
  refuse (255 < name.length) "Product name must not exceed 255 characters."
  pure ⟨productId, sku, name, true⟩

end InventoryReservation
