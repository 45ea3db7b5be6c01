import InventoryReservation.Guarantees.LinearizableCalls
import InventoryReservation.Guarantees.StockAssignment

/-! # Answers about inventory levels

What the four endpoints of inventory levels answer, in terms of the products, providers and offers of one
moment: the moment of the last session of the call.
-/

namespace InventoryReservation
set_option autoImplicit false

open Relational Sessions Raising Transactional

/-- The product an inventory call is about. -/
def InternalCall.productId? : InternalCall → Option Uuid
  | listProductInventory productId => some productId
  | getInventoryLevel productId _ => some productId
  | removeInventoryLevel productId _ => some productId
  | setInventoryLevel productId _ _ => some productId
  | _ => none

/-- The provider an inventory call is about. -/
def InternalCall.levelProviderId? : InternalCall → Option Uuid
  | getInventoryLevel _ providerId => some providerId
  | removeInventoryLevel _ providerId => some providerId
  | setInventoryLevel _ providerId _ => some providerId
  | _ => none

/-- The product and the provider exist. -/
def InternalStore.Knows (store : InternalStore) (productId providerId : Uuid) : Prop :=
  (store.catalogue.find? productId).isSome ∧ (store.database.providers.find? providerId).isSome

/-- The columns can hold what the request writes. -/
def SetInventoryLevelRequest.FitsColumns (request : SetInventoryLevelRequest) (database : Database)
    (productId providerId : Uuid) : Prop :=
  database.Assignable productId providerId request.onHand request.allocationPriority request.routingGroup

/-- The answer of a call on inventory levels in a store, and the database it leaves. -/
inductive LevelAnswer (store : InternalStore) : InternalCall → HttpResponse → Database → Prop
  | productNotFound (call : InternalCall) (productId : Uuid) (hcall : call.productId? = some productId)
      (habsent : store.catalogue.find? productId = none) :
      LevelAnswer store call (handleProductNotFound productId) store.database
  | providerNotFound (call : InternalCall) (productId providerId : Uuid) (hcall : call.productId? = some productId)
      (hprovider : call.levelProviderId? = some providerId) (hfound : (store.catalogue.find? productId).isSome)
      (habsent : store.database.providers.find? providerId = none) :
      LevelAnswer store call (handleProviderNotFound providerId) store.database
  | listed (productId : Uuid) (offers : List ProductOfferModel) (hfound : (store.catalogue.find? productId).isSome)
      (hall : ∀ offer, offer ∈ offers ↔ offer ∈ store.database.offers ∧ offer.productId = productId)
      (hnodup : (offers.map ProductOfferModel.providerId).Nodup)
      (hsorted : offers.Pairwise ProductOfferModel.precedes) :
      LevelAnswer store (.listProductInventory productId)
        ⟨200, .levels (offers.map fun offer => .fromDomain offer.toLevel)⟩ store.database
  | notAssigned (call : InternalCall) (productId providerId : Uuid)
      (hcall : call = .getInventoryLevel productId providerId ∨ call = .removeInventoryLevel productId providerId)
      (hknown : store.Knows productId providerId)
      (habsent : store.database.offers.find? (productId, providerId) = none) :
      LevelAnswer store call (handleInventoryLevelNotFound productId providerId) store.database
  | read (productId providerId : Uuid) (offer : ProductOfferModel) (hknown : store.Knows productId providerId)
      (hoffer : store.database.offers.find? (productId, providerId) = some offer) :
      LevelAnswer store (.getInventoryLevel productId providerId) ⟨200, levelBody offer.toLevel⟩ store.database
  | removed (productId providerId : Uuid) (offer : ProductOfferModel) (offers : Table ProductOfferModel.identity)
      (hknown : store.Knows productId providerId)
      (hoffer : store.database.offers.find? (productId, providerId) = some offer) (hreserved : offer.reserved = 0)
      (hgone : ∀ k, offers.find? k = if k = (productId, providerId) then none else store.database.offers.find? k) :
      LevelAnswer store (.removeInventoryLevel productId providerId) ⟨204, .noContent⟩
        { store.database with offers }
  | active (productId providerId : Uuid) (offer : ProductOfferModel) (hknown : store.Knows productId providerId)
      (hoffer : store.database.offers.find? (productId, providerId) = some offer) (hreserved : 0 < offer.reserved) :
      LevelAnswer store (.removeInventoryLevel productId providerId)
        (handleInventoryHasActiveReservations productId providerId offer.reserved) store.database
  | tooLarge (productId providerId : Uuid) (request : SetInventoryLevelRequest)
      (hknown : store.Knows productId providerId)
      (hlarge : ¬ request.FitsColumns store.database productId providerId) :
      LevelAnswer store (.setInventoryLevel productId providerId request) ⟨500, .internalServerError⟩ store.database
  | belowReserved (productId providerId : Uuid) (request : SetInventoryLevelRequest) (offer : ProductOfferModel)
      (hknown : store.Knows productId providerId)
      (hcolumns : request.FitsColumns store.database productId providerId)
      (hoffer : store.database.offers.find? (productId, providerId) = some offer)
      (hbelow : request.onHand < offer.reserved) :
      LevelAnswer store (.setInventoryLevel productId providerId request)
        (handleInventoryBelowReserved productId providerId offer.reserved) store.database
  | assigned (productId providerId : Uuid) (request : SetInventoryLevelRequest) (level : InventoryLevel)
      (after : Database) (hknown : store.Knows productId providerId)
      (hcolumns : request.FitsColumns store.database productId providerId)
      (hfits : ∀ offer, store.database.offers.find? (productId, providerId) = some offer →
        offer.reserved ≤ request.onHand)
      (hassigned : Assigned store.database after productId providerId request.onHand request.allocationPriority
        request.routingGroup level) :
      LevelAnswer store (.setInventoryLevel productId providerId request) ⟨200, levelBody level⟩ after

/-! ## One repository call -/

section Sessions
variable {productId providerId : Uuid} {s : Session} {offer : ProductOfferModel}

theorem removeLevel_absent (h : s.database.offers.find? (productId, providerId) = none) :
    removeLevel productId providerId s = .ok false s := by
  have hkept : s.database.offers.deleteReturning (productId, providerId)
      (fun offer => offer.reserved = 0) = none := by
    unfold Table.deleteReturning
    rw [h]
  rw [removeLevel, readDatabase_bind, hkept]
  dsimp only
  rw [h]
  rfl

theorem removeLevel_unreserved (h : s.database.offers.find? (productId, providerId) = some offer)
    (hreserved : offer.reserved = 0) :
    ∃ offers : Table ProductOfferModel.identity,
      removeLevel productId providerId s = .ok true { s with database := { s.database with offers } } ∧
      ∀ k, offers.find? k = if k = (productId, providerId) then none else s.database.offers.find? k := by
  obtain ⟨⟨row, offers⟩, hdeleted⟩ : ∃ deleted, s.database.offers.deleteReturning (productId, providerId)
      (fun offer => offer.reserved = 0) = some deleted := by
    unfold Table.deleteReturning
    rw [h]
    exact ⟨_, if_pos (decide_eq_true hreserved)⟩
  refine ⟨offers, ?_, Table.find?_deleteReturning hdeleted⟩
  rw [removeLevel, readDatabase_bind, hdeleted]
  rfl

theorem removeLevel_reserved (h : s.database.offers.find? (productId, providerId) = some offer)
    (hreserved : offer.reserved ≠ 0) :
    removeLevel productId providerId s =
      .error (.inventoryHasActiveReservations productId providerId offer.reserved) s := by
  have hkept : s.database.offers.deleteReturning (productId, providerId)
      (fun offer => offer.reserved = 0) = none := by
    unfold Table.deleteReturning
    rw [h]
    exact if_neg fun hzero => hreserved (of_decide_eq_true hzero)
  rw [removeLevel, readDatabase_bind, hkept]
  dsimp only
  rw [h]
  rfl

theorem commit_ok {α : Type} {body : TransactionM α} {store : InternalStore} {result : α} {t : Session}
    (h : body (.start store.database) = .ok result t) :
    store.commit body = (.ok result, { store with database := t.database }) := by
  unfold InternalStore.commit
  rw [databaseTransaction_of_ok h]
  rfl

theorem commit_error {α : Type} {body : TransactionM α} {store : InternalStore} {failure : Failure} {t : Session}
    (h : body (.start store.database) = .error failure t) :
    store.commit body = (.error (.service failure), store) := by
  unfold InternalStore.commit
  rw [databaseTransaction_of_error h]
  rfl

theorem commit_setLevel {onHand allocationPriority : ℤ} {routingGroup : Option Uuid} {store : InternalStore}
    {outcome : TransactionOutcome InventoryLevel}
    (h : setLevelTransaction productId providerId onHand allocationPriority routingGroup store.database = outcome) :
    store.commit (setLevel productId providerId onHand allocationPriority routingGroup) =
      (outcome.result.mapError .service, { store with database := outcome.database }) := by
  rw [← h]
  rfl

/-- The offers of a product as `list_by_product` orders them. -/
theorem listed_offers (productId : Uuid) (offers : Table ProductOfferModel.identity) :
    ∃ listed : List ProductOfferModel,
      (offers.rows.filter fun offer => offer.productId = productId).insertionSort ProductOfferModel.precedes =
        listed ∧
      (∀ offer, offer ∈ listed ↔ offer ∈ offers ∧ offer.productId = productId) ∧
      (listed.map ProductOfferModel.providerId).Nodup ∧ listed.Pairwise ProductOfferModel.precedes := by
  have hperm := List.perm_insertionSort ProductOfferModel.precedes
    (offers.rows.filter fun offer => offer.productId = productId)
  have hmem : ∀ offer, offer ∈ (offers.rows.filter fun offer => offer.productId = productId) ↔
      offer ∈ offers ∧ offer.productId = productId := fun offer => by
    rw [List.mem_filter, Table.mem_rows, decide_eq_true_eq]
  refine ⟨_, rfl, fun offer => hperm.mem_iff.trans (hmem offer), ?_, List.pairwise_insertionSort _ _⟩
  rw [(hperm.map ProductOfferModel.providerId).nodup_iff]
  have hnodup : ((offers.rows.filter fun offer => offer.productId = productId).map
      ProductOfferModel.identity).Nodup := offers.nodup.sublist (List.filter_sublist.map _)
  have hpairs : (offers.rows.filter fun offer => offer.productId = productId).map ProductOfferModel.identity =
      ((offers.rows.filter fun offer => offer.productId = productId).map ProductOfferModel.providerId).map
        (Prod.mk productId) := by
    rw [List.map_map]
    exact List.map_congr_left fun offer hoffer => congrArg (·, offer.providerId) ((hmem offer).mp hoffer).2
  rw [hpairs] at hnodup
  exact hnodup.of_map

end Sessions

/-! ## The whole call -/

section Serving
variable {settings : InternalSettings} {store : InternalStore} {productId providerId : Uuid}

theorem answeredWith_atomically {α : Type} {statusCode : ℕ} {body : α → ResponseBody} {service : InternalProgram α}
    {r : Except EndpointError α} {after : InternalStore} (h : service.run.atomically store = (r, after)) :
    (answeredWith statusCode body service).atomically store = (.http (respond statusCode body r), after) := by
  have hmap := Program.atomically_map (f := fun result => Answer.http (respond statusCode body result))
    (p := service.run) store
  rw [h] at hmap
  exact hmap

/-- A call is served: with an answer, and a database. -/
def Serves (settings : InternalSettings) (store : InternalStore) (call : InternalCall) : Prop :=
  ∃ response database, (call.program settings).atomically store = (.http response, { store with database }) ∧
    LevelAnswer store call response database

/-- The two checks in front of the work on one level. -/
theorem serves_checked {α : Type} {call : InternalCall} {statusCode : ℕ} {body : α → ResponseBody}
    {work : InternalProgram α} (hproductId : call.productId? = some productId)
    (hproviderId : call.levelProviderId? = some providerId)
    (hprogram : call.program settings = answeredWith statusCode body (do
      require (InventoryLevelRepository.productExists productId) (.productNotFound productId)
      require (InventoryLevelRepository.providerExists providerId) (.provider (.providerNotFound providerId))
      work))
    (hwork : (store.catalogue.find? productId).isSome → (store.database.providers.find? providerId).isSome →
      ∃ result database, work.run.atomically store = (result, { store with database }) ∧
        LevelAnswer store call (respond statusCode body result) database) : Serves settings store call := by
  unfold Serves
  rw [hprogram]
  by_cases hproduct : InventoryLevelRepository.productExists productId store = true
  · by_cases hprovider : InventoryLevelRepository.providerExists providerId store = true
    · obtain ⟨result, database, hresult, hanswer⟩ := hwork hproduct hprovider
      refine ⟨_, database, answeredWith_atomically ?_, hanswer⟩
      rw [atomically_require, if_pos hproduct, atomically_require, if_pos hprovider, hresult]
    · refine ⟨_, store.database, answeredWith_atomically (r := .error (.provider (.providerNotFound providerId))) ?_,
        .providerNotFound call productId providerId hproductId hproviderId hproduct
          (Option.not_isSome_iff_eq_none.mp hprovider)⟩
      rw [atomically_require, if_pos hproduct, atomically_require, if_neg hprovider]
  · refine ⟨_, store.database, answeredWith_atomically (r := .error (.productNotFound productId)) ?_,
      .productNotFound call productId hproductId (Option.not_isSome_iff_eq_none.mp hproduct)⟩
    rw [atomically_require, if_neg hproduct]

theorem serves_listProductInventory : Serves settings store (.listProductInventory productId) := by
  by_cases hproduct : InventoryLevelRepository.productExists productId store = true
  · obtain ⟨offers, hlisted, hall, hnodup, hsorted⟩ := listed_offers productId store.database.offers
    have hanswer : LevelAnswer store (.listProductInventory productId)
        ⟨200, .levels ((offers.map ProductOfferModel.toLevel).map .fromDomain)⟩ store.database := by
      rw [List.map_map]
      exact .listed productId offers hproduct hall hnodup hsorted
    refine ⟨_, store.database, answeredWith_atomically (r := .ok (offers.map ProductOfferModel.toLevel)) ?_, hanswer⟩
    rw [InternalServices.listProductInventory, atomically_require, if_pos hproduct, ← hlisted]
    rfl
  · refine ⟨_, store.database, answeredWith_atomically (r := .error (.productNotFound productId)) ?_,
      .productNotFound _ productId rfl (Option.not_isSome_iff_eq_none.mp hproduct)⟩
    rw [InternalServices.listProductInventory, atomically_require, if_neg hproduct]

theorem serves_getInventoryLevel : Serves settings store (.getInventoryLevel productId providerId) := by
  refine serves_checked rfl rfl rfl fun hproduct hprovider => ?_
  refine ⟨requireSome (.inventoryLevelNotFound productId providerId)
    (InventoryLevelRepository.getLevel productId providerId store), store.database, rfl, ?_⟩
  unfold InventoryLevelRepository.getLevel
  cases hoffer : store.database.offers.find? (productId, providerId) with
  | none => exact .notAssigned _ productId providerId (Or.inl rfl) ⟨hproduct, hprovider⟩ hoffer
  | some offer => exact .read productId providerId offer ⟨hproduct, hprovider⟩ hoffer

theorem serves_removeInventoryLevel (hoffers : ∀ offer ∈ store.database.offers, offer.failedCheck = none) :
    Serves settings store (.removeInventoryLevel productId providerId) := by
  refine serves_checked rfl rfl rfl fun hproduct hprovider => ?_
  simp only [atomically_transaction, InventoryLevelRepository.removeLevelSession]
  cases hoffer : store.database.offers.find? (productId, providerId) with
  | none =>
    rw [commit_ok (removeLevel_absent hoffer)]
    exact ⟨_, store.database, rfl, .notAssigned _ productId providerId (Or.inr rfl) ⟨hproduct, hprovider⟩ hoffer⟩
  | some offer =>
    by_cases hreserved : offer.reserved = 0
    · obtain ⟨offers, hremoved, hgone⟩ := removeLevel_unreserved (s := .start store.database) hoffer hreserved
      rw [commit_ok hremoved]
      exact ⟨_, { store.database with offers }, rfl,
        .removed productId providerId offer offers ⟨hproduct, hprovider⟩ hoffer hreserved hgone⟩
    · have hrange : offer.InRange :=
        (ProductOfferModel.failedCheck_eq_none_iff.mp (hoffers offer (Table.mem_of_find? hoffer))).1
      rw [commit_error (removeLevel_reserved hoffer hreserved)]
      exact ⟨_, store.database, rfl, .active productId providerId offer ⟨hproduct, hprovider⟩ hoffer
        (lt_of_le_of_ne hrange.1 (Ne.symm hreserved))⟩

theorem serves_setInventoryLevel {urlsplit : String → Option SplitResult} (hstore : store.Operable urlsplit)
    (request : SetInventoryLevelRequest) :
    Serves settings store (.setInventoryLevel productId providerId request) := by
  refine serves_checked rfl rfl rfl fun hproduct hprovider => ?_
  have hknown : store.Knows productId providerId := ⟨hproduct, hprovider⟩
  suffices hsession : ∃ result database, InventoryLevelRepository.setLevelSession productId providerId request.onHand
      request.allocationPriority request.routingGroup store = (result, { store with database }) ∧
      LevelAnswer store (.setInventoryLevel productId providerId request) (respond 200 levelBody result) database from
    hsession
  unfold InventoryLevelRepository.setLevelSession
  by_cases hcolumns : request.FitsColumns store.database productId providerId
  · by_cases hbelow : ∃ offer, store.database.offers.find? (productId, providerId) = some offer ∧
        request.onHand < offer.reserved
    · obtain ⟨offer, hoffer, hlt⟩ := hbelow
      rw [commit_error (setLevel_below (s := .start store.database) request.onHand_ge
        request.allocationPriority_ge ⟨hcolumns.fitsOnHand, hcolumns.fitsPriority⟩ hoffer hlt)]
      exact ⟨_, store.database, rfl, .belowReserved productId providerId request offer hknown hcolumns hoffer hlt⟩
    · have hfits : ∀ offer, store.database.offers.find? (productId, providerId) = some offer →
          offer.reserved ≤ request.onHand :=
        fun offer hoffer => not_lt.mp fun hlt => hbelow ⟨offer, hoffer, hlt⟩
      obtain ⟨level, after, hset, hassigned, -⟩ := setLevelTransaction_assigned hstore.offers
        request.onHand_ge request.allocationPriority_ge ((hstore.products productId).mpr hproduct) hprovider hcolumns
        hfits
      exact ⟨_, after, commit_setLevel hset, .assigned productId providerId request level after hknown hcolumns hfits
        hassigned⟩
  · rw [commit_setLevel (setLevelTransaction_unassignable hstore.offers request.onHand_ge
      request.allocationPriority_ge hcolumns)]
    exact ⟨_, store.database, rfl, .tooLarge productId providerId request hknown hcolumns⟩

theorem serves_inventory {urlsplit : String → Option SplitResult} (hstore : store.Operable urlsplit)
    {call : InternalCall} (hcall : call.productId?.isSome) : Serves settings store call := by
  cases call with
  | listProductInventory productId => exact serves_listProductInventory
  | getInventoryLevel productId providerId => exact serves_getInventoryLevel
  | removeInventoryLevel productId providerId => exact serves_removeInventoryLevel hstore.offers
  | setInventoryLevel productId providerId request => exact serves_setInventoryLevel hstore request
  | _ => cases hcall

end Serving

/-! ## The statement -/

namespace InternalApi
variable {τ : Type} [DecidableEq τ]

theorem inventory_pending {settings : InternalSettings} {call : InternalCall} (hcall : call.productId?.isSome) :
    (call.program settings).result? = none := by
  cases call with
  | listProductInventory productId => rfl
  | getInventoryLevel productId providerId => rfl
  | removeInventoryLevel productId providerId => rfl
  | setInventoryLevel productId providerId request => rfl
  | _ => cases hcall

/-- Whatever threads run beside it, an inventory call answers what its product, its provider and its offer
called for at one of its turns, does to the database what that answer says, and does nothing at its others. -/
theorem run_level_answers (sha256 : String → String) {settings : InternalSettings} {store : InternalStore}
    (hstore : store.Operable settings.urlsplit) (works : τ → Work) (turns : List τ) {thread : τ}
    {call : InternalCall} (hcall : works thread = .internal call) (hinventory : call.productId?.isSome) {answer : Answer}
    (hdone : (((start sha256 settings works store).run turns).programs thread).result? = some answer) :
    let threads := start sha256 settings works store
    ∃ earlier later response database, turns = earlier ++ thread :: later ∧ answer = .http response ∧
      LevelAnswer (threads.run earlier).shared call response database ∧
      (threads.run (earlier ++ [thread])).shared = { (threads.run earlier).shared with database } ∧
      ∀ other rest, turns = other ++ thread :: rest → other ≠ earlier →
        (threads.run (other ++ [thread])).shared = (threads.run other).shared := by
  intro threads
  have hoverwrites : call.overwrites = false := by
    cases call with
    | updateProvider providerId command => cases hinventory
    | _ => rfl
  have hserves : ∀ s, s.Operable settings.urlsplit → ∃ response after,
      (call.program settings).atomically s = (.http response, after) ∧
        ∃ database, after = { s with database } ∧ LevelAnswer s call response database := fun s hs => by
    obtain ⟨response, database, hserved, hlevel⟩ := serves_inventory hs hinventory
    exact ⟨response, { s with database }, hserved, database, rfl, hlevel⟩
  obtain ⟨earlier, later, response, hturns, hanswer, ⟨database, hafter, hlevel⟩, hothers⟩ :=
    call_served sha256 hstore hcall hoverwrites (inventory_pending hinventory) hserves hdone
  exact ⟨earlier, later, response, database, hturns, hanswer, hlevel, hafter, hothers⟩

/-- Stock is set while the product and the provider are being registered. -/
theorem run_level_answers_stocking :
    ∃ answer : Answer, ∃ earlier later response database, [0, 2, 1, 2, 2] = earlier ++ 2 :: later ∧
      answer = .http response ∧
      LevelAnswer ((start Deployment.sha256 settings stocking .empty).run earlier).shared
        (.setInventoryLevel 1 10 fiveUnits) response database ∧
      ((start Deployment.sha256 settings stocking .empty).run (earlier ++ [2])).shared =
        { ((start Deployment.sha256 settings stocking .empty).run earlier).shared with database } ∧
      ∀ other rest, [0, 2, 1, 2, 2] = other ++ 2 :: rest → other ≠ earlier →
        ((start Deployment.sha256 settings stocking .empty).run (other ++ [2])).shared =
          ((start Deployment.sha256 settings stocking .empty).run other).shared := by
  have hcall : stocking 2 = .internal (.setInventoryLevel 1 10 fiveUnits) := rfl
  have hwithin : ((start Deployment.sha256 settings stocking .empty).programs 2).Within 3 :=
    (stocking 2).program_within Deployment.sha256 settings
  have hfinished :
      (((start Deployment.sha256 settings stocking .empty).run [0, 2, 1, 2, 2]).programs 2).result?.isSome :=
    Threads.run_finishes hwithin (by decide)
  obtain ⟨answer, hanswer⟩ := Option.isSome_iff_exists.mp hfinished
  exact ⟨answer, run_level_answers Deployment.sha256 (InternalStore.operable_empty _) stocking [0, 2, 1, 2, 2] hcall
    rfl hanswer⟩

end InternalApi
end InventoryReservation
