import InventoryReservation.Foundations.Table
import InventoryReservation.Foundations.Transaction
import InventoryReservation.Foundations.Emitting
import InventoryReservation.Foundations.Runs
import InventoryReservation.Foundations.Searching
import InventoryReservation.Foundations.Delimited
import InventoryReservation.Foundations.Json
import InventoryReservation.Repository.InventoryManagement
import InventoryReservation.Repository.Settlement
import InventoryReservation.Repository.Reservation
import InventoryReservation.Service.ReservationWorkers
import InventoryReservation.Service.ProviderManagement
import InventoryReservation.Service.ProviderCredentials
import InventoryReservation.Repository.ProviderManagement
import InventoryReservation.Repository.ProviderCredentials
import InventoryReservation.Migrations.SelectProductOffer
import InventoryReservation.System.Execution
import InventoryReservation.System.Administration
import InventoryReservation.Meaning.Aggregate
import InventoryReservation.Meaning.Settlement
import InventoryReservation.Meaning.Refinement
import InventoryReservation.Meaning.Routing
import InventoryReservation.Meaning.WellFormed
import InventoryReservation.Meaning.Stock
import InventoryReservation.Meaning.Creation
import InventoryReservation.Meaning.Storing
import InventoryReservation.Meaning.HoldPlan
import InventoryReservation.Meaning.Contacts
import InventoryReservation.Meaning.HoldLoop
import InventoryReservation.Meaning.Compensation
import InventoryReservation.Meaning.Exchanges
import InventoryReservation.Meaning.Failures
import InventoryReservation.Meaning.Walks
import InventoryReservation.Meaning.Relations
import InventoryReservation.Meaning.Requests
import InventoryReservation.Meaning.Transition
import InventoryReservation.Meaning.Reachable
import InventoryReservation.Meaning.Commit
import InventoryReservation.Meaning.Allocating
import InventoryReservation.Meaning.Administering
import InventoryReservation.Meaning.Calls
import InventoryReservation.Meaning.Rescheduling
import InventoryReservation.Meaning.Orders
import InventoryReservation.Meaning.Sparing
import InventoryReservation.Meaning.CanonicalText
import InventoryReservation.Meaning.Loading
import InventoryReservation.Meaning.Resting
import InventoryReservation.System.Deployment
import InventoryReservation.Foundations.RowLocking
import InventoryReservation.Concurrency.OfferWrites
import InventoryReservation.Concurrency.Checkouts
import InventoryReservation.Concurrency.ConcurrentCreates
import InventoryReservation.Service.CircuitBreaker
import InventoryReservation.Repository.HttpProvider
import InventoryReservation.Concurrency.OverlappingCalls
import InventoryReservation.Concurrency.ProviderRegistry
import InventoryReservation.Guarantees.Lifecycle
import InventoryReservation.Guarantees.OrderBacking
import InventoryReservation.Guarantees.StockConservation
import InventoryReservation.Guarantees.OwnedStock
import InventoryReservation.Guarantees.InFlight
import InventoryReservation.Guarantees.UnknownOutcomes
import InventoryReservation.Guarantees.Exclusion
import InventoryReservation.Guarantees.ReleaseTarget
import InventoryReservation.Guarantees.OrderContents
import InventoryReservation.Guarantees.OperationLedger
import InventoryReservation.Guarantees.RetryEligibility
import InventoryReservation.Guarantees.Draining
import InventoryReservation.Guarantees.BatchIndependence
import InventoryReservation.Guarantees.HoldKeys
import InventoryReservation.Guarantees.HeldOrReleased
import InventoryReservation.Guarantees.SettleableHolds
import InventoryReservation.Guarantees.NoOversell
import InventoryReservation.Guarantees.WaitCycles
import InventoryReservation.Guarantees.HalfOpenProbe
import InventoryReservation.Guarantees.RecoveryWindow
import InventoryReservation.Guarantees.Verdict
import InventoryReservation.Guarantees.HealedCircuits
import InventoryReservation.Guarantees.SeparateCircuits
import InventoryReservation.Guarantees.DistinctRequests
import InventoryReservation.Guarantees.WorkerLoops
import InventoryReservation.Guarantees.ClassifiedExchanges
import InventoryReservation.Guarantees.ProviderRules
import InventoryReservation.Concurrency.ProviderEdits
import InventoryReservation.Guarantees.LostEdits
import InventoryReservation.Guarantees.ConfirmationAccounting
import InventoryReservation.Guarantees.RoutingReference
import InventoryReservation.Guarantees.CustomerChoice
import InventoryReservation.Guarantees.AllOrNothing
import InventoryReservation.Guarantees.OneCreation
import InventoryReservation.Guarantees.RequestFingerprint
import InventoryReservation.Guarantees.RoundTrip
import InventoryReservation.Guarantees.UsableCredentials
import InventoryReservation.Guarantees.StockAssignment
import InventoryReservation.Guarantees.OfferSelection
import InventoryReservation.Guarantees.RetrySchedule
import InventoryReservation.Guarantees.ExpiryAccounting
import InventoryReservation.Guarantees.RepeatedRequests
import InventoryReservation.Guarantees.OfferRemoval
import InventoryReservation.Controller.Responses
import InventoryReservation.Controller.Reservation
import InventoryReservation.Meaning.Refusals
import InventoryReservation.Meaning.Persistence
import InventoryReservation.Guarantees.CustomerAnswers
import InventoryReservation.Guarantees.CustomerHistory
import InventoryReservation.Guarantees.CustomerIsolation
import InventoryReservation.Meaning.ProviderRequests
import InventoryReservation.Meaning.SettlingRequests
import InventoryReservation.Guarantees.IdempotencyKeys
import InventoryReservation.Foundations.Testimony
import InventoryReservation.Guarantees.ProviderAgreement
import InventoryReservation.Foundations.Replaying
import InventoryReservation.Guarantees.OfferHistory
import InventoryReservation.Guarantees.StockAccounts
import InventoryReservation.Foundations.Sessions
import InventoryReservation.Service.Product
import InventoryReservation.Repository.Product
import InventoryReservation.Repository.Store
import InventoryReservation.Service.InternalServices
import InventoryReservation.Controller.Internal
import InventoryReservation.System.InternalApi
import InventoryReservation.Meaning.Products
import InventoryReservation.Guarantees.GrowingStore
import InventoryReservation.Guarantees.LinearizableCalls
import InventoryReservation.Guarantees.LevelAnswers
import InventoryReservation.Guarantees.ProductAnswers
import InventoryReservation.Guarantees.StoredProviders
