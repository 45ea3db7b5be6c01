import InventoryReservation.Foundations.Sessions
import InventoryReservation.Repository.InventoryManagement
import InventoryReservation.Repository.Product
import InventoryReservation.Repository.ProviderCredentials
import InventoryReservation.Service.ReservationService

/-! # Sessions of the internal API

The services of the internal API call their repositories several times, and each call is a session of its
own. `InternalStore` is what these sessions work on: the database with the catalogue and the stored
credentials.
-/

namespace InventoryReservation
set_option autoImplicit false

open Relational Sessions

structure InternalStore where
  database : Database
  catalogue : Catalogue
  credentials : CredentialTable

/-- A service of the internal API. -/
abbrev InternalProgram (α : Type) := Raising InternalStore EndpointError α

/-- What a session returns or raises, and the store it leaves. -/
abbrev SessionResult (α : Type) := Except EndpointError α × InternalStore

/-- A transaction on the database. -/
def InternalStore.commit {α : Type} (body : TransactionM α) (store : InternalStore) : SessionResult α :=
  let outcome := databaseTransaction body store.database
  (outcome.result.mapError .service, { store with database := outcome.database })

/-- What a session of the provider repository leaves of the store: all of it if it raised. -/
def InternalStore.provided {α β : Type} (write : β → InternalStore) (store : InternalStore) :
    Except ProviderFailure (α × β) → SessionResult α
  | .ok (a, b) => (.ok a, write b)
  | .error failure => (.error (.provider failure), store)

/-! ## Repositories -/

namespace ProductRepository

/-- The insert of a product, which the foreign keys of the other tables then refer to. -/
def addSession (product : Product) (store : InternalStore) : SessionResult Unit :=
  match add product store.catalogue with
  | .error error => (.error error, store)
  | .ok catalogue =>
    (.ok (), { store with
      database := { store.database with products := store.database.products ++ [product.id] }
      catalogue })

end ProductRepository

namespace InventoryLevelRepository

def productExists (productId : Uuid) (store : InternalStore) : Bool := (store.catalogue.find? productId).isSome

def providerExists (providerId : Uuid) (store : InternalStore) : Bool :=
  (store.database.providers.find? providerId).isSome

def listByProduct (productId : Uuid) (store : InternalStore) : List InventoryLevel :=
  ((store.database.offers.rows.filter fun offer => offer.productId = productId).insertionSort
    ProductOfferModel.precedes).map ProductOfferModel.toLevel

def getLevel (productId providerId : Uuid) (store : InternalStore) : Option InventoryLevel :=
  (store.database.offers.find? (productId, providerId)).map ProductOfferModel.toLevel

def removeLevelSession (productId providerId : Uuid) (store : InternalStore) : SessionResult Bool :=
  store.commit (removeLevel productId providerId)

def setLevelSession (productId providerId : Uuid) (onHand allocationPriority : ℤ)
    (routingGroup : Option Uuid) (store : InternalStore) : SessionResult InventoryLevel :=
  store.commit (setLevel productId providerId onHand allocationPriority routingGroup)

end InventoryLevelRepository

namespace ProviderRepository

def list (collation : Collation) (store : InternalStore) : List ProviderConfiguration :=
  (store.database.providers.rows.insertionSort
    (collation.orders InventoryProviderModel.name InventoryProviderModel.id)).map
      InventoryProviderModel.toDomain

def addSession (provider : ProviderConfiguration) (store : InternalStore) : SessionResult Unit :=
  store.provided (fun database => { store with database })
    ((add provider store.database).map fun database => ((), database))

def updateSession (provider : ProviderConfiguration) (store : InternalStore) : SessionResult Bool :=
  store.provided (fun database => { store with database }) (update provider store.database)

def setEnabledSession (providerId : Uuid) (isEnabled : Bool) (store : InternalStore) :
    SessionResult (Option ProviderConfiguration) :=
  let written := setEnabled providerId isEnabled store.database
  (.ok written.1, { store with database := written.2 })

def upsertCredentialsSession (credentials : ProviderCredentialConfiguration) (store : InternalStore) :
    SessionResult ProviderCredentialConfiguration :=
  store.provided (fun credentials => { store with credentials })
    (upsertCredentials credentials store.database store.credentials)

end ProviderRepository
end InventoryReservation
