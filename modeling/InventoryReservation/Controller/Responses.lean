import InventoryReservation.Repository.InventoryManagement
import InventoryReservation.Service.Product

/-! # Answers of the API

The bodies of the answers, and the handlers that `create_app` registers for the errors the endpoints raise.
An error without a handler is answered by the server with status 500.
-/

namespace InventoryReservation
set_option autoImplicit false

structure ReservationItemResponse where
  productId : Uuid
  providerId : Uuid
  quantity : ℤ
  deriving DecidableEq

structure ReservationResponse where
  id : Uuid
  userId : Uuid
  status : ReservationStatus
  items : List ReservationItemResponse
  createdAt : Instant
  expiresAt : Instant
  deriving DecidableEq

def ReservationItem.response (item : ReservationItem) : ReservationItemResponse where
  productId := item.productId
  providerId := item.providerId
  quantity := item.quantity.units

def ReservationResponse.fromDomain (reservation : Reservation) : ReservationResponse where
  id := reservation.id
  userId := reservation.userId
  status := reservation.status
  items := reservation.items.map ReservationItem.response
  createdAt := reservation.createdAt
  expiresAt := reservation.expiresAt

structure InventoryLevelResponse where
  productId : Uuid
  providerId : Uuid
  onHand : ℤ
  reserved : ℤ
  available : ℤ
  allocationPriority : ℤ
  version : ℤ
  routingGroup : Option Uuid
  deriving DecidableEq

def InventoryLevel.available (level : InventoryLevel) : ℤ := level.onHand - level.reserved

def InventoryLevelResponse.fromDomain (level : InventoryLevel) : InventoryLevelResponse where
  productId := level.productId
  providerId := level.providerId
  onHand := level.onHand
  reserved := level.reserved
  available := level.available
  allocationPriority := level.allocationPriority
  version := level.version
  routingGroup := level.routingGroup

structure ProductResponse where
  id : Uuid
  sku : String
  name : String
  isActive : Bool
  deriving DecidableEq

def ProductResponse.fromDomain (product : Product) : ProductResponse where
  id := product.id
  sku := product.sku
  name := product.name
  isActive := product.isActive

structure ProviderResponse where
  id : Uuid
  name : String
  kind : ProviderKind
  driver : String
  baseUrl : Option String
  requestTimeoutMs : ℤ
  capabilities : ProviderCapabilities
  isEnabled : Bool
  deriving DecidableEq

def ProviderResponse.fromDomain (provider : ProviderConfiguration) : ProviderResponse where
  id := provider.id
  name := provider.name
  kind := provider.kind
  driver := provider.driver
  baseUrl := provider.baseUrl
  requestTimeoutMs := provider.requestTimeoutMs
  capabilities := provider.capabilities
  isEnabled := provider.isEnabled

/-! ## Errors -/

structure ErrorDetail where
  code : String
  message : String
  reservationId : Option Uuid
  deriving DecidableEq

structure InventoryErrorDetail where
  code : String
  message : String
  productId : Uuid
  providerId : Uuid
  reserved : Option ℤ
  deriving DecidableEq

structure ProductErrorDetail where
  code : String
  message : String
  sku : Option String
  productId : Option Uuid
  deriving DecidableEq

structure ProviderErrorDetail where
  code : String
  message : String
  providerId : Option Uuid
  providerName : Option String
  deriving DecidableEq

inductive ResponseBody where
  | reservation (reservation : ReservationResponse)
  | level (level : InventoryLevelResponse)
  | levels (levels : List InventoryLevelResponse)
  | product (product : ProductResponse)
  | products (products : List ProductResponse)
  | provider (provider : ProviderResponse)
  | providers (providers : List ProviderResponse)
  | noContent
  | error (error : ErrorDetail)
  | inventoryError (error : InventoryErrorDetail)
  | productError (error : ProductErrorDetail)
  | providerError (error : ProviderErrorDetail)
  | internalServerError
  deriving DecidableEq

structure HttpResponse where
  statusCode : ℕ
  body : ResponseBody
  deriving DecidableEq

/-- The common shape of the handlers of reservation errors. -/
def reservationErrorResponse (statusCode : ℕ) (code message : String) (reservationId : Option Uuid) :
    HttpResponse := ⟨statusCode, .error ⟨code, message, reservationId⟩⟩

def handleIdempotencyConflict (reservationId : Uuid) : HttpResponse :=
  reservationErrorResponse 409 "idempotency_conflict"
    "Idempotency key is already associated with a different request." (some reservationId)

def handleInsufficientInventory : HttpResponse :=
  reservationErrorResponse 409 "insufficient_inventory" "Requested inventory is not available." none

def handleReservationNotFound (reservationId : Uuid) : HttpResponse :=
  reservationErrorResponse 404 "reservation_not_found" "Reservation was not found." (some reservationId)

def handleReservationNotCancellable (reservationId : Uuid) : HttpResponse :=
  reservationErrorResponse 409 "reservation_not_cancellable" "Confirmed reservation cannot be cancelled."
    (some reservationId)

def handleReservationNotConfirmable (reservationId : Uuid) : HttpResponse :=
  reservationErrorResponse 409 "reservation_not_confirmable" "Cancelled reservation cannot be confirmed."
    (some reservationId)

def handleReconciliationRequired (reservationId : Uuid) : HttpResponse :=
  reservationErrorResponse 409 "reservation_reconciliation_required"
    "Reservation has an unknown provider outcome and requires reconciliation." (some reservationId)

/-- The common shape of the handlers of inventory level errors. -/
def inventoryErrorResponse (statusCode : ℕ) (code message : String) (productId providerId : Uuid)
    (reserved : Option ℤ) : HttpResponse :=
  ⟨statusCode, .inventoryError ⟨code, message, productId, providerId, reserved⟩⟩

def handleInventoryBelowReserved (productId providerId : Uuid) (reserved : ℤ) : HttpResponse :=
  inventoryErrorResponse 409 "inventory_below_reserved"
    "On-hand inventory cannot be lower than reserved inventory." productId providerId (some reserved)

def handleInventoryHasActiveReservations (productId providerId : Uuid) (reserved : ℤ) : HttpResponse :=
  inventoryErrorResponse 409 "inventory_has_active_reservations"
    "Inventory with active reservations cannot be unassigned." productId providerId (some reserved)

def handleInventoryLevelNotFound (productId providerId : Uuid) : HttpResponse :=
  inventoryErrorResponse 404 "inventory_level_not_found" "Inventory level was not found." productId
    providerId none

/-- The common shape of the handlers of product errors. -/
def productErrorResponse (statusCode : ℕ) (code message : String) (sku : Option String)
    (productId : Option Uuid) : HttpResponse :=
  ⟨statusCode, .productError ⟨code, message, sku, productId⟩⟩

def handleInvalidProductConfiguration (message : String) : HttpResponse :=
  productErrorResponse 422 "invalid_product_configuration" message none none

def handleProductSkuConflict (sku : String) : HttpResponse :=
  productErrorResponse 409 "product_sku_conflict" "Product SKU is already in use." (some sku) none

def handleProductNotFound (productId : Uuid) : HttpResponse :=
  productErrorResponse 404 "product_not_found" "Product was not found." none (some productId)

/-- The common shape of the handlers of provider errors. -/
def providerErrorResponse (statusCode : ℕ) (code message : String) (providerId : Option Uuid)
    (providerName : Option String) : HttpResponse :=
  ⟨statusCode, .providerError ⟨code, message, providerId, providerName⟩⟩

def handleInvalidProviderConfiguration (message : String) : HttpResponse :=
  providerErrorResponse 422 "invalid_provider_configuration" message none none

def handleProviderNotFound (providerId : Uuid) : HttpResponse :=
  providerErrorResponse 404 "provider_not_found" "Provider was not found." (some providerId) none

def handleProviderNameConflict (providerName : String) : HttpResponse :=
  providerErrorResponse 409 "provider_name_conflict" "Provider name is already in use." none (some providerName)

/-- The handler of an error, or the answer of the server when none is registered. -/
def EndpointError.handle : EndpointError → HttpResponse
  | reservationNotFound reservationId => handleReservationNotFound reservationId
  | productNotFound productId => handleProductNotFound productId
  | invalidProductConfiguration message => handleInvalidProductConfiguration message
  | productSkuConflict sku => handleProductSkuConflict sku
  | inventoryLevelNotFound productId providerId => handleInventoryLevelNotFound productId providerId
  | service failure =>
    match failure with
    | .idempotencyConflict _ reservationId => handleIdempotencyConflict reservationId
    | .insufficientInventory _ => handleInsufficientInventory
    | .reservationNotCancellable reservationId => handleReservationNotCancellable reservationId
    | .reservationNotConfirmable reservationId => handleReservationNotConfirmable reservationId
    | .reservationReconciliationRequired reservationId => handleReconciliationRequired reservationId
    | .inventoryBelowReserved productId providerId reserved =>
      handleInventoryBelowReserved productId providerId reserved
    | .inventoryHasActiveReservations productId providerId reserved =>
      handleInventoryHasActiveReservations productId providerId reserved
    | _ => ⟨500, .internalServerError⟩
  | provider failure =>
    match failure with
    | .providerNotFound providerId => handleProviderNotFound providerId
    | .invalidProviderConfiguration message => handleInvalidProviderConfiguration message
    | .providerNameConflict providerName => handleProviderNameConflict providerName
    | _ => ⟨500, .internalServerError⟩

/-- The answer of an endpoint that declares this status code for success. -/
def respond {α : Type} (statusCode : ℕ) (body : α → ResponseBody) : Except EndpointError α → HttpResponse
  | .ok result => ⟨statusCode, body result⟩
  | .error error => error.handle

end InventoryReservation
