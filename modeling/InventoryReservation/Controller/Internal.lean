import InventoryReservation.Controller.Responses
import InventoryReservation.Service.InternalServices

/-! # The internal API

The calls of the inventory, product and provider routers, with the checks of their models as fields and the
identifiers the factories drew, and the program that serves each of them.
-/

namespace InventoryReservation
set_option autoImplicit false

open Sessions

structure SetInventoryLevelRequest where
  onHand : ℤ
  allocationPriority : ℤ
  routingGroup : Option Uuid
  onHand_ge : 0 ≤ onHand
  allocationPriority_ge : 0 ≤ allocationPriority

inductive InternalCall where
  | listProductInventory (productId : Uuid)
  | getInventoryLevel (productId providerId : Uuid)
  | removeInventoryLevel (productId providerId : Uuid)
  | setInventoryLevel (productId providerId : Uuid) (request : SetInventoryLevelRequest)
  | listProducts
  | getProduct (productId : Uuid)
  | createProduct (productId : Uuid) (command : CreateProductCommand)
  | listProviders
  | registerProvider (providerId : Uuid) (command : RegisterProviderCommand)
  | getProvider (providerId : Uuid)
  | updateProvider (providerId : Uuid) (command : UpdateProviderCommand)
  | enableProvider (providerId : Uuid)
  | disableProvider (providerId : Uuid)
  | setProviderCredentials (providerId : Uuid) (command : SetProviderCredentialsCommand)

def SetInventoryLevelRequest.toCommand (request : SetInventoryLevelRequest) (productId providerId : Uuid) :
    SetInventoryLevelCommand where
  productId
  providerId
  onHand := request.onHand
  allocationPriority := request.allocationPriority
  routingGroup := request.routingGroup

structure ProviderCredentialsResponse where
  providerId : Uuid
  authType : ProviderAuthType
  secretRef : Option String
  publicConfig : List (String × Json)

def ProviderCredentialsResponse.fromDomain (credentials : ProviderCredentialConfiguration) :
    ProviderCredentialsResponse where
  providerId := credentials.providerId
  authType := credentials.authType
  secretRef := credentials.secretRef
  publicConfig := credentials.publicConfig

/-- What becomes of a call; the credentials are answered with status 200. -/
inductive Answer where
  | http (response : HttpResponse)
  | credentials (response : ProviderCredentialsResponse)
  | executed

/-- An endpoint that answers what its service returns with this status code and body. -/
def answeredWith {α : Type} (statusCode : ℕ) (body : α → ResponseBody) (service : InternalProgram α) :
    Program InternalStore Answer :=
  (fun result => Answer.http (respond statusCode body result)) <$> service.run

def credentialsAnswer : Except EndpointError ProviderCredentialConfiguration → Answer
  | .ok credentials => .credentials (.fromDomain credentials)
  | .error error => .http error.handle

/-- The collaborators the services are built with. -/
structure InternalSettings where
  urlsplit : String → Option SplitResult
  cases : StringCases
  collation : Collation

def levelBody (level : InventoryLevel) : ResponseBody := .level (.fromDomain level)

def productBody (product : Product) : ResponseBody := .product (.fromDomain product)

def providerBody (provider : ProviderConfiguration) : ResponseBody := .provider (.fromDomain provider)

namespace InternalCall
variable (settings : InternalSettings)

def program : InternalCall → Program InternalStore Answer
  | listProductInventory productId =>
    answeredWith 200 (fun levels => .levels (levels.map .fromDomain))
      (InternalServices.listProductInventory productId)
  | getInventoryLevel productId providerId =>
    answeredWith 200 levelBody (InternalServices.getInventoryLevel productId providerId)
  | removeInventoryLevel productId providerId =>
    answeredWith 204 (fun _ => .noContent) (InternalServices.removeInventoryLevel productId providerId)
  | setInventoryLevel productId providerId request =>
    answeredWith 200 levelBody (InternalServices.setInventoryLevel (request.toCommand productId providerId))
  | listProducts =>
    answeredWith 200 (fun products => .products (products.map .fromDomain))
      (InternalServices.listProducts settings.collation)
  | getProduct productId => answeredWith 200 productBody (InternalServices.getProduct productId)
  | createProduct productId command =>
    answeredWith 201 productBody (InternalServices.createProduct productId command)
  | listProviders =>
    answeredWith 200 (fun providers => .providers (providers.map .fromDomain))
      (InternalServices.listProviders settings.collation)
  | registerProvider providerId command =>
    answeredWith 201 providerBody (InternalServices.registerProvider settings.urlsplit providerId command)
  | getProvider providerId => answeredWith 200 providerBody (InternalServices.getProvider providerId)
  | updateProvider providerId command =>
    answeredWith 200 providerBody (InternalServices.updateProvider settings.urlsplit providerId command)
  | enableProvider providerId =>
    answeredWith 200 providerBody (InternalServices.enableProvider settings.urlsplit providerId)
  | disableProvider providerId => answeredWith 200 providerBody (InternalServices.disableProvider providerId)
  | setProviderCredentials providerId command =>
    credentialsAnswer <$> (InternalServices.setProviderCredentials settings.cases providerId command).run

end InternalCall
end InventoryReservation
