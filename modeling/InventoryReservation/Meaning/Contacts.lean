import InventoryReservation.Foundations.Searching
import InventoryReservation.Meaning.HoldPlan

/-! # Whom routing contacts

The reference for `tryHoldSelected`: the providers of a selection in the order of their offers
(`Database.Candidates`), what the replies make of a visit to one of them (`Database.verdict`), what the
visit decides once the columns are asked too (`Database.decision`), and the search for the first decision
among them. The code is run with a log of the calls its router makes; it comes to the outcome of the
search, calls the providers the search comes to, and changes their offers only.
-/

namespace InventoryReservation
set_option autoImplicit false

open Relational Transactional

/-! ## Routing with a log -/

/-- A call the router makes to a provider, internal ones included. -/
inductive Contact where
  | availability (providerId : Uuid)
  | hold (providerId : Uuid)
  deriving DecidableEq

def Contact.providerId : Contact → Uuid
  | availability providerId => providerId
  | hold providerId => providerId

/-- A provider whose calls are logged. -/
def HoldProvider.logged (provider : HoldProvider TransactionM) :
    HoldProvider (Logged Failure Session Contact) where
  providerId := provider.providerId
  availability command := do
    note (.availability provider.providerId)
    silently (provider.availability command)
  hold command := do
    note (.hold provider.providerId)
    silently (provider.hold command)

def ProviderRouter.logged (router : ProviderRouter TransactionM) :
    ProviderRouter (Logged Failure Session Contact) where
  providers := router.providers.map HoldProvider.logged
  availabilityProviderIds := router.availabilityProviderIds
  availabilityObserver := router.availabilityObserver.map fun observe providerId attempt =>
    silently (observe providerId attempt)

/-- The router of `tryHoldSelected`. -/
def Database.holdRouter (database : Database) (environment : Environment) (productId providerId : Uuid) :
    ProviderRouter TransactionM :=
  let selectedRoutingGroup :=
    (database.offers.find? (productId, providerId)).bind ProductOfferModel.routingGroup
  let candidates := database.holdCandidates productId providerId selectedRoutingGroup
  let configuredCandidates := candidates.filterMap fun candidate =>
    (holdProvider environment candidate).map fun provider => (candidate, provider)
  { providers := configuredCandidates.map Prod.snd
    availabilityProviderIds := configuredCandidates.filterMap fun (candidate, _) =>
      if candidate.kind = .external ∧ candidate.supportsAvailability then some candidate.id else none
    availabilityObserver := some (observeAvailability productId) }

theorem tryHoldSelected_eq (environment : Environment) (productId providerId : Uuid) (quantity : ℤ)
    (idempotencyKey : ProviderKey) :
    tryHoldSelected environment productId providerId quantity idempotencyKey =
      readDatabase >>= fun database =>
        (database.holdRouter environment productId providerId).hold ⟨productId, quantity, idempotencyKey⟩ := rfl

/-- `tryHoldSelected` with the calls of its router logged. -/
def tryHoldSelectedLogged (environment : Environment) (productId providerId : Uuid) (quantity : ℤ)
    (idempotencyKey : ProviderKey) : Logged Failure Session Contact (Option ProviderHold) := do
  let database ← silently readDatabase
  (database.holdRouter environment productId providerId).logged.hold ⟨productId, quantity, idempotencyKey⟩

section Erasure
variable {router : ProviderRouter TransactionM} {command : HoldCommand}

theorem erases_checkAvailability (provider : HoldProvider TransactionM) :
    Erases (router.logged.checkAvailability provider.logged command)
      (router.checkAvailability provider command) := by
  unfold ProviderRouter.checkAvailability
  by_cases hlisted : provider.providerId ∈ router.availabilityProviderIds
  · rw [if_pos hlisted, if_pos (show provider.logged.providerId ∈ router.logged.availabilityProviderIds
      from hlisted)]
    refine Erases.bind (Erases.note (Erases.silently _)) fun availability => ?_
    unfold ProviderRouter.logged
    cases router.availabilityObserver with
    | none => exact Erases.pure _
    | some observe => exact Erases.bind (Erases.silently _) fun _ => Erases.pure _
  · rw [if_neg hlisted, if_neg (show ¬ provider.logged.providerId ∈ router.logged.availabilityProviderIds
      from hlisted)]
    exact Erases.pure false

theorem erases_holdAmong (providers : List (HoldProvider TransactionM)) :
    Erases (router.logged.holdAmong command (providers.map HoldProvider.logged))
      (router.holdAmong command providers) := by
  induction providers with
  | nil => exact Erases.pure none
  | cons provider rest ih =>
    rw [List.map_cons, ProviderRouter.holdAmong, ProviderRouter.holdAmong]
    refine Erases.bind (erases_checkAvailability provider) fun skipped => ?_
    cases skipped with
    | true => exact ih
    | false =>
      refine Erases.bind (Erases.note (Erases.silently _)) fun attempt => ?_
      cases attempt.outcome with
      | held => exact Erases.pure _
      | outOfStock => exact ih
      | temporarilyUnavailable => exact ih
      | unknown => exact Erases.throw _

/-- The log is all that was added. -/
theorem erases_tryHoldSelected (environment : Environment) (productId providerId : Uuid) (quantity : ℤ)
    (idempotencyKey : ProviderKey) :
    Erases (tryHoldSelectedLogged environment productId providerId quantity idempotencyKey)
      (tryHoldSelected environment productId providerId quantity idempotencyKey) := by
  rw [tryHoldSelected_eq]
  exact Erases.bind (Erases.silently _) fun _ => erases_holdAmong _

end Erasure

/-! ## The reference -/

/-- A provider with an adapter: an internal one, or an external one the registry can reach. -/
def InventoryProviderModel.Adaptable (environment : Environment) (provider : InventoryProviderModel) : Prop :=
  provider.kind = .internal ∨
    (environment.providerRegistry ∧ provider.baseUrl.isSome ∧ provider.driver = "http")

instance (environment : Environment) (provider : InventoryProviderModel) :
    Decidable (provider.Adaptable environment) :=
  inferInstanceAs (Decidable (_ ∨ _))

/-- The offer is the selected one, or shares its routing group. -/
def ProductOfferModel.Admits (selected offer : ProductOfferModel) : Prop :=
  match selected.routingGroup with
  | none => offer = selected
  | some group => offer.routingGroup = some group

instance ProductOfferModel.decidableAdmits (selected offer : ProductOfferModel) : Decidable (selected.Admits offer) := by
  unfold ProductOfferModel.Admits
  cases selected.routingGroup <;> exact inferInstance

/-- The providers of a selection, in the order `(allocation_priority, provider_id)`. -/
structure Database.Candidates (database : Database) (environment : Environment) (productId providerId : Uuid)
    (candidates : List InventoryProviderModel) : Prop where
  mem : ∀ provider, provider ∈ candidates ↔ provider ∈ database.providers ∧ provider.isEnabled = true ∧
    provider.supportsHold = true ∧ provider.Adaptable environment ∧
    ∃ selected ∈ database.offers.find? (productId, providerId),
      ∃ offer ∈ database.offers.find? (productId, provider.id), selected.Admits offer
  distinct : (candidates.map InventoryProviderModel.id).Nodup
  ordered : candidates.Pairwise fun a b => ∀ offer ∈ database.offers.find? (productId, a.id),
    ∀ offer' ∈ database.offers.find? (productId, b.id), offer.precedes offer'

/-- The answer rules its provider out. -/
def AvailabilityReply.rulesOut (quantity : ℤ) : AvailabilityReply → Prop
  | fresh available _ => (available : ℤ) < quantity
  | stale _ _ => False
  | temporarilyUnavailable => True
  | raised => False

instance (quantity : ℤ) (reply : AvailabilityReply) : Decidable (reply.rulesOut quantity) := by
  cases reply with
  | fresh available observedAt => exact inferInstanceAs (Decidable ((available : ℤ) < quantity))
  | stale available observedAt => exact inferInstanceAs (Decidable False)
  | temporarilyUnavailable => exact inferInstanceAs (Decidable True)
  | raised => exact inferInstanceAs (Decidable False)

/-- What a hold request to an external provider decides: nothing where routing goes on. -/
def HoldReply.verdict (command : HoldCommand) (providerId : Uuid) :
    HoldReply → Option (Except Failure ProviderHold)
  | held reference => some (.ok ⟨providerId, some reference⟩)
  | outOfStock => none
  | temporarilyUnavailable => none
  | unknown => some (.error (.unknownProviderOutcome providerId command.idempotencyKey))
  | raised => some (.error (.unclassifiedProviderError providerId))

/-- What the replies make of a visit to a candidate. -/
def Database.verdict (database : Database) (environment : Environment) (command : HoldCommand)
    (candidate : InventoryProviderModel) : Option (Except Failure ProviderHold) :=
  match candidate.kind with
  | .internal =>
    if ∃ offer ∈ database.offers.find? (command.productId, candidate.id),
        command.quantity ≤ offer.onHand - offer.reserved then
      some (.ok ⟨candidate.id, none⟩)
    else none
  | .external =>
    let reply := environment.availability candidate.id ⟨command.productId⟩
    if candidate.supportsAvailability ∧ reply = .raised then
      some (.error (.unclassifiedProviderError candidate.id))
    else if candidate.supportsAvailability ∧ reply.rulesOut command.quantity then none
    else (environment.hold candidate.id command).verdict command candidate.id

/-- The columns are wide enough for a visit to a candidate: for the quantity asked of an internal one, for
the quantity and the instant an external one answers, and for the next version of an offer that is rewritten. -/
def Database.Writable (database : Database) (environment : Environment) (command : HoldCommand)
    (candidate : InventoryProviderModel) : Prop :=
  match candidate.kind with
  | .internal => Holdable (database.offers.find? (command.productId, candidate.id)) command.quantity
  | .external =>
    match candidate.supportsAvailability, environment.availability candidate.id ⟨command.productId⟩ with
    | true, .fresh availableQuantity observedAt =>
      FitsTimestamp observedAt ∧ ∀ offer ∈ database.offers.find? (command.productId, candidate.id),
        (availableQuantity : ℤ) < 2 ^ 31 ∧ offer.version < 2 ^ 31 - 1
    | _, _ => True

instance (database : Database) (environment : Environment) (command : HoldCommand)
    (candidate : InventoryProviderModel) : Decidable (database.Writable environment command candidate) := by
  unfold Database.Writable
  split
  · exact inferInstance
  · split <;> exact inferInstance

/-- What a visit to a candidate decides: the database raises where the columns are not wide enough. -/
def Database.decision (database : Database) (environment : Environment) (command : HoldCommand)
    (candidate : InventoryProviderModel) : Option (Except Failure ProviderHold) :=
  if database.Writable environment command candidate then database.verdict environment command candidate
  else some (.error (.dataError "product_offers"))

/-- Routing goes on where the replies let it go on. -/
theorem Database.verdict_of_decision_none {database : Database} {environment : Environment} {command : HoldCommand}
    {candidate : InventoryProviderModel} (h : database.decision environment command candidate = none) :
    database.verdict environment command candidate = none := by
  unfold decision at h
  split at h
  · exact h
  · cases h

/-- The calls of a visit to a candidate. -/
def Database.contacts (database : Database) (environment : Environment) (command : HoldCommand)
    (candidate : InventoryProviderModel) : List Contact :=
  let reply := environment.availability candidate.id ⟨command.productId⟩
  if candidate.kind = .external ∧ candidate.supportsAvailability then
    if reply = .raised ∨ reply.rulesOut command.quantity ∨ ¬ database.Writable environment command candidate then
      [.availability candidate.id]
    else [.availability candidate.id, .hold candidate.id]
  else [.hold candidate.id]

section Contacts
variable {database : Database} {environment : Environment} {command : HoldCommand}
  {candidate : InventoryProviderModel}

theorem Database.contacts_providerId {contact : Contact}
    (h : contact ∈ database.contacts environment command candidate) : contact.providerId = candidate.id := by
  unfold contacts at h
  dsimp only at h
  split_ifs at h
  · rw [List.mem_singleton.mp h]
    rfl
  · simp only [List.mem_cons, List.not_mem_nil, or_false] at h
    rcases h with rfl | rfl <;> rfl
  · rw [List.mem_singleton.mp h]
    rfl

theorem Database.contacts_nodup : (database.contacts environment command candidate).Nodup := by
  unfold contacts
  dsimp only
  split_ifs <;> simp

theorem Database.contacts_ne_nil : database.contacts environment command candidate ≠ [] := by
  unfold contacts
  dsimp only
  split_ifs <;> simp

end Contacts

/-- The offer of a candidate as a visit writes it. -/
def ProductOfferModel.visited (environment : Environment) (command : HoldCommand)
    (candidate : InventoryProviderModel) (offer : ProductOfferModel) : ProductOfferModel :=
  match candidate.kind with
  | .internal =>
    if command.quantity ≤ offer.onHand - offer.reserved then
      { offer with reserved := offer.reserved + command.quantity, version := offer.version + 1 }
    else offer
  | .external =>
    match candidate.supportsAvailability, environment.availability candidate.id ⟨command.productId⟩ with
    | true, .fresh availableQuantity observedAt =>
      { offer with
        onHand := max offer.reserved availableQuantity
        observedAt := some observedAt
        version := offer.version + 1 }
    | _, _ => offer

/-- The offer of a candidate after a visit. -/
def Database.visit (database : Database) (environment : Environment) (command : HoldCommand)
    (candidate : InventoryProviderModel) (offer : ProductOfferModel) : ProductOfferModel :=
  if database.Writable environment command candidate then offer.visited environment command candidate else offer

/-! ## A visit -/

/-- The columns and constraints of the offers table hold of every stored row. -/
def Database.Checked (database : Database) : Prop := ∀ offer ∈ database.offers, offer.violation = none

instance (database : Database) : Decidable database.Checked :=
  inferInstanceAs (Decidable (∀ offer ∈ database.offers.rows, offer.violation = none))

section Visits
variable {environment : Environment} {router : ProviderRouter TransactionM} {command : HoldCommand}
  {database : Database} {candidate : InventoryProviderModel} {provider : HoldProvider TransactionM}
  {s t : Session} {log : List Contact}

variable (environment command candidate) in
/-- The offer of a candidate was rewritten by a visit, and nothing else was. -/
structure Visits (s t : Session) : Prop where
  tables : t.database = { s.database with offers := t.database.offers }
  offers : ∀ k, t.database.offers.find? k = (s.database.offers.find? k).map fun offer =>
    if k = (command.productId, candidate.id) then s.database.visit environment command candidate offer else offer

/-- A visit that leaves the offer of its candidate alone. -/
theorem Visits.of_same (hdatabase : t.database = s.database)
    (h : ∀ offer ∈ s.database.offers.find? (command.productId, candidate.id),
      s.database.visit environment command candidate offer = offer) :
    Visits environment command candidate s t where
  tables := by rw [hdatabase]
  offers k := by
    rw [hdatabase]
    cases hf : s.database.offers.find? k with
    | none => rfl
    | some offer =>
      by_cases hk : k = (command.productId, candidate.id)
      · rw [Option.map_some, if_pos hk, h offer (hk ▸ hf)]
      · rw [Option.map_some, if_neg hk]

/-- A visit that the columns refuse leaves every offer alone. -/
theorem Visits.of_overflow (hdatabase : t.database = s.database)
    (hwide : ¬ s.database.Writable environment command candidate) : Visits environment command candidate s t :=
  .of_same hdatabase fun _ _ => if_neg hwide

/-- An update that does to the offer what the visit does. -/
theorem Visits.of_update {statement : OfferStatement} {offer : ProductOfferModel}
    (hwide : s.database.Writable environment command candidate)
    (hf : s.database.offers.find? (command.productId, candidate.id) = some offer)
    (hupdated : s.database.updated statement (command.productId, candidate.id) =
      .ok (some (offer.visited environment command candidate))) :
    ∃ t, updateOffer statement command.productId candidate.id s =
        .ok (some (offer.visited environment command candidate).snapshot) t ∧
      Visits environment command candidate s t := by
  obtain ⟨offers, hupdate, hfind, -⟩ := updateOffer_some hupdated
  refine ⟨_, hupdate, rfl, fun k => ?_⟩
  refine (hfind k).trans ?_
  by_cases hk : k = (command.productId, candidate.id)
  · rw [if_pos hk, hk, hf, Option.map_some, if_pos rfl, Database.visit, if_pos hwide]
  · simp only [if_neg hk, Option.map_id']

theorem internal_visited (hk : candidate.kind = .internal) (offer : ProductOfferModel) :
    offer.visited environment command candidate =
      if command.quantity ≤ offer.onHand - offer.reserved then
        { offer with reserved := offer.reserved + command.quantity, version := offer.version + 1 }
      else offer := by
  unfold ProductOfferModel.visited
  rw [hk]

theorem internal_writable_iff (hk : candidate.kind = .internal) :
    database.Writable environment command candidate ↔
      Holdable (database.offers.find? (command.productId, candidate.id)) command.quantity := by
  unfold Database.Writable
  rw [hk]

theorem external_writable_iff (hk : candidate.kind = .external) (hsupports : candidate.supportsAvailability = true)
    {availableQuantity : ℕ} {observedAt : Instant}
    (hreply : environment.availability candidate.id ⟨command.productId⟩ = .fresh availableQuantity observedAt) :
    database.Writable environment command candidate ↔
      FitsTimestamp observedAt ∧ ∀ offer ∈ database.offers.find? (command.productId, candidate.id),
        (availableQuantity : ℤ) < 2 ^ 31 ∧ offer.version < 2 ^ 31 - 1 := by
  unfold Database.Writable
  rw [hk, hsupports, hreply]

/-- Only a fresh answer of an external candidate is written. -/
theorem external_writable (hk : candidate.kind = .external)
    (hidle : candidate.supportsAvailability = false ∨ ∀ availableQuantity observedAt,
      environment.availability candidate.id ⟨command.productId⟩ ≠ .fresh availableQuantity observedAt) :
    database.Writable environment command candidate := by
  unfold Database.Writable
  rw [hk]
  dsimp only
  split
  · next hsupports hreply =>
    rcases hidle with hunsupported | hstale
    · cases hsupports.symm.trans hunsupported
    · exact absurd hreply (hstale _ _)
  · trivial

/-- And only such an answer changes the offer of an external candidate. -/
theorem external_visit (hk : candidate.kind = .external)
    (hidle : candidate.supportsAvailability = false ∨ ∀ availableQuantity observedAt,
      environment.availability candidate.id ⟨command.productId⟩ ≠ .fresh availableQuantity observedAt)
    (offer : ProductOfferModel) : database.visit environment command candidate offer = offer := by
  refine (if_pos (external_writable hk hidle)).trans ?_
  unfold ProductOfferModel.visited
  rw [hk]
  dsimp only
  split
  · next hsupports hreply =>
    rcases hidle with hunsupported | hstale
    · cases hsupports.symm.trans hunsupported
    · exact absurd hreply (hstale _ _)
  · rfl

/-- A hold request to an internal provider that the columns are wide enough for. -/
theorem hold_internal (hk : candidate.kind = .internal) (hquantity : 0 < command.quantity)
    (hwide : s.database.Writable environment command candidate)
    (hchecked : ∀ offer ∈ s.database.offers.find? (command.productId, candidate.id), offer.violation = none) :
    ∃ t, (internalInventoryProvider candidate.id).hold command s =
        .ok ⟨if ∃ offer ∈ s.database.offers.find? (command.productId, candidate.id),
          command.quantity ≤ offer.onHand - offer.reserved then .held else .outOfStock, none⟩ t ∧
      Visits environment command candidate s t := by
  have hupdated := Database.updated_tryHold hquantity hchecked ((internal_writable_iff hk).mp hwide)
  rw [internalInventoryProvider]
  dsimp only
  unfold tryHold
  cases hf : s.database.offers.find? (command.productId, candidate.id) with
  | none =>
    rw [hf, Option.bind_none] at hupdated
    refine ⟨s, ?_, .of_same rfl fun offer ho => by rw [hf] at ho; cases ho⟩
    rw [bind_of_ok (updateOffer_none hupdated), if_neg (by rintro ⟨offer, ⟨⟩, -⟩)]
    rfl
  | some offer =>
    have hvisited : offer.visited environment command candidate = _ := internal_visited hk offer
    by_cases hstock : command.quantity ≤ offer.onHand - offer.reserved
    · have hstatement : (s.database.offers.find? (command.productId, candidate.id)).bind
          (OfferStatement.tryHold command.quantity).apply =
            some (offer.visited environment command candidate) := by
        rw [hf, Option.bind_some, hvisited, if_pos hstock]
        exact if_pos hstock
      rw [hstatement] at hupdated
      obtain ⟨t, ht, hvisits⟩ := Visits.of_update hwide hf hupdated
      refine ⟨t, ?_, hvisits⟩
      rw [bind_of_ok ht, if_pos ⟨offer, rfl, hstock⟩]
      rfl
    · have hstatement : (s.database.offers.find? (command.productId, candidate.id)).bind
          (OfferStatement.tryHold command.quantity).apply = none := by
        rw [hf, Option.bind_some]
        exact if_neg hstock
      rw [hstatement] at hupdated
      refine ⟨s, ?_, .of_same rfl fun offer' ho => ?_⟩
      · rw [bind_of_ok (updateOffer_none hupdated), if_neg]
        · rfl
        · rintro ⟨offer', ⟨⟩, h⟩
          exact hstock h
      · rw [hf] at ho
        cases ho
        rw [Database.visit, if_pos hwide, hvisited, if_neg hstock]

/-- Such a request raises where they are not. -/
theorem hold_internal_overflows (hk : candidate.kind = .internal)
    (hwide : ¬ s.database.Writable environment command candidate) :
    (internalInventoryProvider candidate.id).hold command s = .error (.dataError "product_offers") s :=
  bind_of_error (updateOffer_error (Database.updated_tryHold_overflows
    fun hholdable => hwide ((internal_writable_iff hk).mpr hholdable)))

/-- The observation of an answer that is none of an error. -/
theorem observe_visits (hk : candidate.kind = .external) (hsupports : candidate.supportsAvailability = true)
    {attempt : ProviderAvailabilityAttempt}
    (hattempt : (environment.availability candidate.id ⟨command.productId⟩).attempt = some attempt)
    (hwide : s.database.Writable environment command candidate)
    (hchecked : ∀ offer ∈ s.database.offers.find? (command.productId, candidate.id), offer.violation = none) :
    ∃ t, observeAvailability command.productId candidate.id attempt s = .ok () t ∧
      Visits environment command candidate s t := by
  cases hreply : environment.availability candidate.id ⟨command.productId⟩ with
  | raised =>
    rw [hreply] at hattempt
    cases hattempt
  | stale availableQuantity observedAt =>
    rw [hreply] at hattempt
    cases hattempt
    exact ⟨s, rfl, .of_same rfl fun offer _ =>
      external_visit hk (Or.inr fun _ _ he => by rw [hreply] at he; cases he) offer⟩
  | temporarilyUnavailable =>
    rw [hreply] at hattempt
    cases hattempt
    exact ⟨s, rfl, .of_same rfl fun offer _ =>
      external_visit hk (Or.inr fun _ _ he => by rw [hreply] at he; cases he) offer⟩
  | fresh availableQuantity observedAt =>
    rw [hreply] at hattempt
    cases hattempt
    obtain ⟨hinstant, hfits⟩ := (external_writable_iff hk hsupports hreply).mp hwide
    have hupdated : s.database.updated (.observe availableQuantity (some observedAt))
        (command.productId, candidate.id) = _ :=
      Database.updated_of_accepted (OfferStatement.observe_encodable_iff.mpr hinstant) fun offer ho offer' ha =>
        (ProductOfferModel.observe_violation (hchecked offer ho) ha).trans (if_pos (hfits offer ho))
    cases hf : s.database.offers.find? (command.productId, candidate.id) with
    | none =>
      rw [hf, Option.bind_none] at hupdated
      refine ⟨s, bind_of_ok (updateOffer_none hupdated), .of_same rfl fun offer ho => ?_⟩
      rw [hf] at ho
      cases ho
    | some offer =>
      have hvisited : offer.visited environment command candidate =
          { offer with
            onHand := max offer.reserved availableQuantity
            observedAt := some observedAt
            version := offer.version + 1 } := by
        unfold ProductOfferModel.visited
        rw [hk, hsupports, hreply]
      have hstatement : (s.database.offers.find? (command.productId, candidate.id)).bind
          (OfferStatement.observe availableQuantity (some observedAt)).apply =
            some (offer.visited environment command candidate) := by
        rw [hf, Option.bind_some, hvisited]
        rfl
      rw [hstatement] at hupdated
      obtain ⟨t, ht, hvisits⟩ := Visits.of_update hwide hf hupdated
      exact ⟨t, bind_of_ok ht, hvisits⟩

/-- An observation that the columns are not wide enough for raises. -/
theorem observe_overflows (hk : candidate.kind = .external) (hsupports : candidate.supportsAvailability = true)
    {attempt : ProviderAvailabilityAttempt}
    (hattempt : (environment.availability candidate.id ⟨command.productId⟩).attempt = some attempt)
    (hwide : ¬ s.database.Writable environment command candidate)
    (hchecked : ∀ offer ∈ s.database.offers.find? (command.productId, candidate.id), offer.violation = none) :
    observeAvailability command.productId candidate.id attempt s = .error (.dataError "product_offers") s := by
  obtain ⟨availableQuantity, observedAt, hreply⟩ : ∃ availableQuantity observedAt,
      environment.availability candidate.id ⟨command.productId⟩ = .fresh availableQuantity observedAt := by
    by_contra hstale
    exact hwide (external_writable hk (Or.inr fun _ _ hreply => hstale ⟨_, _, hreply⟩))
  rw [hreply] at hattempt
  cases hattempt
  have hupdated : s.database.updated (.observe availableQuantity (some observedAt))
      (command.productId, candidate.id) = .error (.dataError "product_offers") := by
    rw [Database.updated_error_iff]
    by_cases hinstant : FitsTimestamp observedAt
    · obtain ⟨offer, ho, hlarge⟩ : ∃ offer ∈ s.database.offers.find? (command.productId, candidate.id),
          ¬ ((availableQuantity : ℤ) < 2 ^ 31 ∧ offer.version < 2 ^ 31 - 1) := by
        by_contra hno
        refine hwide ((external_writable_iff hk hsupports hreply).mpr ⟨hinstant, fun offer ho => ?_⟩)
        by_contra hlarge
        exact hno ⟨offer, ho, hlarge⟩
      have ha : (OfferStatement.observe availableQuantity (some observedAt)).apply offer = some _ := rfl
      refine Or.inr ⟨OfferStatement.observe_encodable_iff.mpr hinstant, _,
        Option.bind_eq_some_iff.mpr ⟨offer, ho, ha⟩, ?_⟩
      rw [ProductOfferModel.observe_violation (hchecked offer ho) ha, if_neg hlarge]
    · exact Or.inl (if_neg fun h => hinstant (OfferStatement.observe_encodable_iff.mp h))
  exact bind_of_error (updateOffer_error hupdated)

/-- Nothing is looked up before a hold request. -/
theorem checkAvailability_unlisted (h : provider.providerId ∉ router.availabilityProviderIds) :
    router.logged.checkAvailability provider.logged command (s, log) = .ok false (s, log) := by
  unfold ProviderRouter.checkAvailability
  exact congrFun (if_neg h) (s, log)

/-- The answer of a provider whose availability is looked up. -/
theorem checkAvailability_listed (hk : candidate.kind = .external)
    (hsupports : candidate.supportsAvailability = true)
    (hlisted : candidate.id ∈ router.availabilityProviderIds)
    (hobserver : router.availabilityObserver = some (observeAvailability command.productId))
    (hchecked : ∀ offer ∈ s.database.offers.find? (command.productId, candidate.id), offer.violation = none) :
    ∃ t, Visits environment command candidate s t ∧
      router.logged.checkAvailability (externalProvider environment candidate.id).logged command (s, log) =
        match (environment.availability candidate.id ⟨command.productId⟩).attempt with
        | none => .error (.unclassifiedProviderError candidate.id) (t, log ++ [.availability candidate.id])
        | some attempt =>
          if s.database.Writable environment command candidate then
            .ok (ProviderRouter.skips attempt command.quantity) (t, log ++ [.availability candidate.id])
          else .error (.dataError "product_offers") (t, log ++ [.availability candidate.id]) := by
  have hobserved : router.logged.availabilityObserver = some fun providerId attempt =>
      silently (observeAvailability command.productId providerId attempt) := by
    unfold ProviderRouter.logged
    rw [hobserver]
    rfl
  generalize hcalled : s.exchanges ++ [(s.database, .availability candidate.id ⟨command.productId⟩
    (environment.availability candidate.id ⟨command.productId⟩))] = exchanges
  unfold ProviderRouter.checkAvailability
  rw [if_pos (show (externalProvider environment candidate.id).logged.providerId ∈
    router.logged.availabilityProviderIds from hlisted), hobserved]
  cases hattempt : (environment.availability candidate.id ⟨command.productId⟩).attempt with
  | none =>
    refine ⟨{ s with exchanges }, .of_same rfl fun offer _ => external_visit hk (Or.inr ?_) offer, ?_⟩
    · intro availableQuantity observedAt hreply
      rw [hreply] at hattempt
      cases hattempt
    · have hcall : (externalProvider environment candidate.id).availability ⟨command.productId⟩ s =
          .error (.unclassifiedProviderError candidate.id) { s with exchanges } := by
        rw [externalProvider]
        dsimp only
        rw [recordExchange_bind, hattempt, hcalled]
        rfl
      exact bind_of_error (silently_of_error hcall _)
  | some attempt =>
    have hcall : (externalProvider environment candidate.id).availability ⟨command.productId⟩ s =
        .ok attempt { s with exchanges } := by
      rw [externalProvider]
      dsimp only
      rw [recordExchange_bind, hattempt, hcalled]
      rfl
    have hlogged : (externalProvider environment candidate.id).logged.availability ⟨command.productId⟩ (s, log) =
        .ok attempt ({ s with exchanges }, log ++ [.availability candidate.id]) :=
      silently_of_ok hcall _
    dsimp only
    rw [bind_of_ok hlogged]
    by_cases hwide : s.database.Writable environment command candidate
    · obtain ⟨t, ht, hvisits⟩ := observe_visits (s := { s with exchanges }) hk hsupports hattempt hwide hchecked
      exact ⟨t, ⟨hvisits.tables, hvisits.offers⟩,
        (bind_of_ok (silently_of_ok ht _)).trans (if_pos hwide).symm⟩
    · have hraised := observe_overflows (s := { s with exchanges }) hk hsupports hattempt hwide hchecked
      exact ⟨{ s with exchanges }, .of_overflow rfl hwide,
        (bind_of_error (silently_of_error hraised _)).trans (if_neg hwide).symm⟩

/-- A hold request to an external provider. -/
theorem hold_external : ∃ t : Session, t.database = s.database ∧
    (externalProvider environment candidate.id).logged.hold command (s, log) =
      match (environment.hold candidate.id command).attempt with
      | none => .error (.unclassifiedProviderError candidate.id) (t, log ++ [.hold candidate.id])
      | some attempt => .ok attempt (t, log ++ [.hold candidate.id]) := by
  refine ⟨{ s with exchanges := s.exchanges ++
    [(s.database, .hold candidate.id command (environment.hold candidate.id command))] }, rfl, ?_⟩
  cases hattempt : (environment.hold candidate.id command).attempt with
  | none =>
    refine silently_of_error ?_ _
    rw [externalProvider]
    dsimp only
    rw [recordExchange_bind, hattempt]
    rfl
  | some attempt =>
    refine silently_of_ok ?_ _
    rw [externalProvider]
    dsimp only
    rw [recordExchange_bind, hattempt]
    rfl

/-- A candidate that is not ruled out is asked for a hold, and its answer decides. -/
theorem holdAmong_of_hold {attempt : ProviderHoldAttempt} {rest : List (HoldProvider TransactionM)}
    {v w : Session × List Contact} (hid : provider.providerId = candidate.id)
    (hcheck : router.logged.checkAvailability provider.logged command (s, log) = .ok false v)
    (hhold : provider.logged.hold command v = .ok attempt w) :
    router.logged.holdAmong command ((provider :: rest).map HoldProvider.logged) (s, log) =
      match attempt.outcome with
      | .held => .ok (some ⟨candidate.id, attempt.reference⟩) w
      | .unknown => .error (.unknownProviderOutcome candidate.id command.idempotencyKey) w
      | .outOfStock => router.logged.holdAmong command (rest.map HoldProvider.logged) w
      | .temporarilyUnavailable => router.logged.holdAmong command (rest.map HoldProvider.logged) w := by
  rw [List.map_cons, ProviderRouter.holdAmong, bind_of_ok hcheck]
  refine (bind_of_ok hhold).trans ?_
  rw [← hid]
  cases attempt.outcome <;> rfl

theorem rulesOut_iff {reply : AvailabilityReply} {attempt : ProviderAvailabilityAttempt} {quantity : ℤ}
    (h : reply.attempt = some attempt) :
    ProviderRouter.skips attempt quantity = true ↔ reply.rulesOut quantity := by
  unfold ProviderRouter.skips AvailabilityReply.rulesOut
  cases reply with
  | fresh available observedAt =>
    cases h
    simp
  | stale available observedAt =>
    cases h
    simp
  | temporarilyUnavailable =>
    cases h
    simp
  | raised => cases h

/-- A hold request of a visit, once the candidate has not been ruled out. -/
theorem asks_external {rest : List (HoldProvider TransactionM)} {v : Session} {noted : List Contact}
    (hcheck : router.logged.checkAvailability (externalProvider environment candidate.id).logged command
      (s, log) = .ok false (v, noted)) :
    ∃ w : Session, w.database = v.database ∧
      router.logged.holdAmong command
          ((externalProvider environment candidate.id :: rest).map HoldProvider.logged) (s, log) =
        match (environment.hold candidate.id command).verdict command candidate.id with
        | none => router.logged.holdAmong command (rest.map HoldProvider.logged)
            (w, noted ++ [.hold candidate.id])
        | some (.ok hold) => .ok (some hold) (w, noted ++ [.hold candidate.id])
        | some (.error failure) => .error failure (w, noted ++ [.hold candidate.id]) := by
  obtain ⟨w, hdatabase, hhold⟩ : ∃ w : Session, w.database = v.database ∧
      (externalProvider environment candidate.id).logged.hold command (v, noted) = _ := hold_external
  refine ⟨w, hdatabase, ?_⟩
  cases hreply : environment.hold candidate.id command with
  | raised =>
    rw [hreply] at hhold
    rw [List.map_cons, ProviderRouter.holdAmong, bind_of_ok hcheck]
    exact bind_of_error hhold
  | held reference =>
    rw [hreply] at hhold
    exact holdAmong_of_hold rfl hcheck hhold
  | outOfStock =>
    rw [hreply] at hhold
    exact holdAmong_of_hold rfl hcheck hhold
  | temporarilyUnavailable =>
    rw [hreply] at hhold
    exact holdAmong_of_hold rfl hcheck hhold
  | unknown =>
    rw [hreply] at hhold
    exact holdAmong_of_hold rfl hcheck hhold

/-- What is left of routing over a candidate and the rest: the visit makes its calls and rewrites the
offer, and routing ends where it decides. -/
def VisitEnds (environment : Environment) (router : ProviderRouter TransactionM) (command : HoldCommand)
    (candidate : InventoryProviderModel) (rest : List (HoldProvider TransactionM)) (s : Session)
    (log : List Contact) (result : EStateM.Result Failure (Session × List Contact) (Option ProviderHold)) :
    Prop :=
  ∃ t, Visits environment command candidate s t ∧
    result = match s.database.decision environment command candidate with
      | none => router.logged.holdAmong command (rest.map HoldProvider.logged)
          (t, log ++ s.database.contacts environment command candidate)
      | some (.ok hold) => .ok (some hold) (t, log ++ s.database.contacts environment command candidate)
      | some (.error failure) => .error failure (t, log ++ s.database.contacts environment command candidate)

variable {rest : List (HoldProvider TransactionM)}

/-- The calls of a candidate whose availability is not looked up. -/
theorem Database.contacts_unlisted (h : ¬ (candidate.kind = .external ∧ candidate.supportsAvailability = true)) :
    database.contacts environment command candidate = [.hold candidate.id] := if_neg h

theorem visit_internal (hk : candidate.kind = .internal) (hunlisted : candidate.id ∉ router.availabilityProviderIds)
    (hquantity : 0 < command.quantity)
    (hchecked : ∀ offer ∈ s.database.offers.find? (command.productId, candidate.id), offer.violation = none) :
    VisitEnds environment router command candidate rest s log (router.logged.holdAmong command
      ((internalInventoryProvider candidate.id :: rest).map HoldProvider.logged) (s, log)) := by
  have hcheck : router.logged.checkAvailability (internalInventoryProvider candidate.id).logged command
      (s, log) = .ok false (s, log) := checkAvailability_unlisted hunlisted
  have hcontacts : s.database.contacts environment command candidate = [.hold candidate.id] :=
    Database.contacts_unlisted fun h => by cases hk.symm.trans h.1
  unfold VisitEnds Database.decision
  rw [hcontacts]
  by_cases hwide : s.database.Writable environment command candidate
  · obtain ⟨t, ht, hvisits⟩ : ∃ t, _ = EStateM.Result.ok _ t ∧ Visits environment command candidate s t :=
      hold_internal hk hquantity hwide hchecked
    refine ⟨t, hvisits, ?_⟩
    rw [holdAmong_of_hold rfl hcheck (silently_of_ok ht _), if_pos hwide]
    unfold Database.verdict
    rw [hk]
    dsimp only
    split_ifs <;> rfl
  · refine ⟨s, .of_overflow rfl hwide, ?_⟩
    have hraised : (internalInventoryProvider candidate.id).logged.hold command (s, log) =
        .error (.dataError "product_offers") (s, log ++ [.hold candidate.id]) :=
      silently_of_error (hold_internal_overflows hk hwide) _
    rw [List.map_cons, ProviderRouter.holdAmong, bind_of_ok hcheck, if_neg hwide]
    exact bind_of_error hraised

theorem visit_unlisted (hk : candidate.kind = .external) (hsupports : candidate.supportsAvailability = false)
    (hunlisted : candidate.id ∉ router.availabilityProviderIds) :
    VisitEnds environment router command candidate rest s log (router.logged.holdAmong command
      ((externalProvider environment candidate.id :: rest).map HoldProvider.logged) (s, log)) := by
  have hcheck : router.logged.checkAvailability (externalProvider environment candidate.id).logged command
      (s, log) = .ok false (s, log) := checkAvailability_unlisted hunlisted
  obtain ⟨t, hdatabase, ht⟩ := asks_external hcheck
  have hcontacts : s.database.contacts environment command candidate = [.hold candidate.id] :=
    Database.contacts_unlisted fun h => by cases hsupports.symm.trans h.2
  have hwide : s.database.Writable environment command candidate := external_writable hk (Or.inl hsupports)
  refine ⟨t, .of_same hdatabase fun offer _ => external_visit hk (Or.inl hsupports) offer, ?_⟩
  rw [ht, hcontacts, Database.decision, if_pos hwide]
  unfold Database.verdict
  rw [hk, hsupports]
  simp only [Bool.false_eq_true, false_and, if_false]

theorem visit_listed (hk : candidate.kind = .external) (hsupports : candidate.supportsAvailability = true)
    (hlisted : candidate.id ∈ router.availabilityProviderIds)
    (hobserver : router.availabilityObserver = some (observeAvailability command.productId))
    (hchecked : ∀ offer ∈ s.database.offers.find? (command.productId, candidate.id), offer.violation = none) :
    VisitEnds environment router command candidate rest s log (router.logged.holdAmong command
      ((externalProvider environment candidate.id :: rest).map HoldProvider.logged) (s, log)) := by
  obtain ⟨v, hvisits, hcheck⟩ : ∃ v, Visits environment command candidate s v ∧
      router.logged.checkAvailability (externalProvider environment candidate.id).logged command (s, log) = _ :=
    checkAvailability_listed hk hsupports hlisted hobserver hchecked
  unfold VisitEnds Database.decision Database.contacts
  by_cases hwide : s.database.Writable environment command candidate
  · simp only [hwide, if_true, not_true, or_false] at hcheck ⊢
    unfold Database.verdict
    rw [hk, hsupports]
    generalize environment.availability candidate.id ⟨command.productId⟩ = reply at hcheck ⊢
    cases hattempt : reply.attempt with
    | none =>
      have hraised : reply = .raised := by cases reply <;> first | rfl | cases hattempt
      rw [hattempt] at hcheck
      refine ⟨v, hvisits, ?_⟩
      rw [List.map_cons, ProviderRouter.holdAmong, bind_of_error hcheck, hraised]
      rfl
    | some attempt =>
      have hanswered : reply ≠ .raised := by
        rintro rfl
        cases hattempt
      rw [hattempt] at hcheck
      dsimp only at hcheck
      by_cases hout : reply.rulesOut command.quantity
      · rw [(rulesOut_iff hattempt).mpr hout] at hcheck
        refine ⟨v, hvisits, ?_⟩
        rw [List.map_cons, ProviderRouter.holdAmong, bind_of_ok hcheck]
        simp [hanswered, hout]
      · rw [Bool.eq_false_iff.mpr ((rulesOut_iff hattempt).not.mpr hout)] at hcheck
        obtain ⟨t, hdatabase, ht⟩ := asks_external hcheck
        refine ⟨t, ⟨?_, ?_⟩, ?_⟩
        · rw [hdatabase]
          exact hvisits.tables
        · rw [hdatabase]
          exact hvisits.offers
        · rw [ht]
          simp [hanswered, hout]
  · obtain ⟨attempt, hattempt⟩ : ∃ attempt,
        (environment.availability candidate.id ⟨command.productId⟩).attempt = some attempt := by
      cases hreply : environment.availability candidate.id ⟨command.productId⟩ with
      | fresh availableQuantity observedAt => exact ⟨_, rfl⟩
      | stale availableQuantity observedAt => exact ⟨_, rfl⟩
      | temporarilyUnavailable => exact ⟨_, rfl⟩
      | raised =>
        refine absurd (external_writable hk (Or.inr fun _ _ he => ?_)) hwide
        rw [hreply] at he
        cases he
    rw [hattempt] at hcheck
    dsimp only at hcheck
    rw [if_neg hwide] at hcheck
    refine ⟨v, hvisits, ?_⟩
    rw [List.map_cons, ProviderRouter.holdAmong, bind_of_error hcheck, if_neg hwide, if_pos ⟨hk, hsupports⟩,
      if_pos (Or.inr (Or.inr hwide))]

/-- Every visit ends so. -/
theorem visit_ends (hp : holdProvider environment candidate = some provider)
    (hobserver : router.availabilityObserver = some (observeAvailability command.productId))
    (hlisted : candidate.id ∈ router.availabilityProviderIds ↔
      candidate.kind = .external ∧ candidate.supportsAvailability = true)
    (hquantity : 0 < command.quantity)
    (hchecked : ∀ offer ∈ s.database.offers.find? (command.productId, candidate.id), offer.violation = none) :
    VisitEnds environment router command candidate rest s log
      (router.logged.holdAmong command ((provider :: rest).map HoldProvider.logged) (s, log)) := by
  unfold holdProvider at hp
  cases hk : candidate.kind with
  | internal =>
    rw [hk] at hp
    cases hp
    refine visit_internal hk (fun h => ?_) hquantity hchecked
    cases hk.symm.trans (hlisted.mp h).1
  | external =>
    rw [hk] at hp
    obtain ⟨-, ⟨⟩⟩ := Option.ite_none_right_eq_some.mp hp
    cases hsupports : candidate.supportsAvailability with
    | false =>
      refine visit_unlisted hk hsupports fun h => ?_
      cases hsupports.symm.trans (hlisted.mp h).2
    | true => exact visit_listed hk hsupports (hlisted.mpr ⟨hk, hsupports⟩) hobserver hchecked

end Visits

/-! ## A run -/

section Run
variable {environment : Environment} {router : ProviderRouter TransactionM} {command : HoldCommand}
  {database database' : Database} {s : Session} {log : List Contact}

section Congruence
variable {candidate : InventoryProviderModel}
  (h : database'.offers.find? (command.productId, candidate.id) =
    database.offers.find? (command.productId, candidate.id))
include h

theorem Database.writable_congr :
    database'.Writable environment command candidate ↔ database.Writable environment command candidate := by
  unfold Writable
  rw [h]

theorem Database.decision_congr :
    database'.decision environment command candidate = database.decision environment command candidate := by
  unfold decision verdict
  rw [h, if_congr (writable_congr h) rfl rfl]

theorem Database.contacts_congr :
    database'.contacts environment command candidate = database.contacts environment command candidate := by
  unfold contacts
  simp only [writable_congr h]

theorem Database.visit_congr (offer : ProductOfferModel) :
    database'.visit environment command candidate offer = database.visit environment command candidate offer :=
  if_congr (writable_congr h) rfl rfl

end Congruence

/-- What a search for the first decision comes to. -/
def Database.searchOutcome (database : Database) (environment : Environment) (command : HoldCommand)
    (candidates : List InventoryProviderModel) : Except Failure (Option ProviderHold) :=
  match candidates.findSome? (database.decision environment command) with
  | none => .ok none
  | some (.ok hold) => .ok (some hold)
  | some (.error failure) => .error failure

/-- The candidates a search comes to. -/
def Database.visited (database : Database) (environment : Environment) (command : HoldCommand)
    (candidates : List InventoryProviderModel) : List InventoryProviderModel :=
  searched (database.decision environment command) candidates

/-- The run of the router is the search: its outcome, its calls, and the offers it rewrites. -/
structure SearchEnds (environment : Environment) (command : HoldCommand) (database : Database)
    (candidates : List InventoryProviderModel) (s : Session) (log : List Contact)
    (result : EStateM.Result Failure (Session × List Contact) (Option ProviderHold)) : Prop where
  outcome : outcome result = database.searchOutcome environment command candidates
  contacted : (ended result).2 = log ++ (database.visited environment command candidates).flatMap
    (database.contacts environment command)
  tables : (ended result).1.database =
    { s.database with offers := (ended result).1.database.offers }
  offers : ∀ k, (ended result).1.database.offers.find? k = (s.database.offers.find? k).map fun offer =>
    match (database.visited environment command candidates).find? fun candidate =>
      k = (command.productId, candidate.id) with
    | some candidate => database.visit environment command candidate offer
    | none => offer

/-- A visit that ends the search. -/
theorem SearchEnds.of_decided {candidate : InventoryProviderModel} {candidates : List InventoryProviderModel}
    {t : Session} {result : EStateM.Result Failure (Session × List Contact) (Option ProviderHold)}
    (hrow : s.database.offers.find? (command.productId, candidate.id) =
      database.offers.find? (command.productId, candidate.id))
    (hvisits : Visits environment command candidate s t)
    (hvisited : database.visited environment command (candidate :: candidates) = [candidate])
    (houtcome : Transactional.outcome result =
      database.searchOutcome environment command (candidate :: candidates))
    (hended : ended result = (t, log ++ database.contacts environment command candidate)) :
    SearchEnds environment command database (candidate :: candidates) s log result := by
  refine ⟨houtcome, ?_, ?_, fun k => ?_⟩
  · rw [hended, hvisited, List.flatMap_singleton]
  · rw [hended]
    exact hvisits.tables
  · rw [hended, hvisited, List.find?_singleton, hvisits.offers k]
    congr 1
    funext offer
    by_cases hk : k = (command.productId, candidate.id)
    · simp [hk, Database.visit_congr hrow]
    · simp [hk]

/-- A visit that decides nothing goes before the search among the rest. -/
theorem SearchEnds.of_rest {candidate : InventoryProviderModel} {candidates : List InventoryProviderModel}
    {t : Session} {result : EStateM.Result Failure (Session × List Contact) (Option ProviderHold)}
    (hrow : s.database.offers.find? (command.productId, candidate.id) =
      database.offers.find? (command.productId, candidate.id))
    (hvisits : Visits environment command candidate s t)
    (hdecision : database.decision environment command candidate = none)
    (hnew : ∀ c ∈ candidates, c.id ≠ candidate.id)
    (h : SearchEnds environment command database candidates t
      (log ++ database.contacts environment command candidate) result) :
    SearchEnds environment command database (candidate :: candidates) s log result := by
  have hvisited : database.visited environment command (candidate :: candidates) =
      candidate :: database.visited environment command candidates := searched_of_none hdecision candidates
  refine ⟨?_, ?_, ?_, fun k => ?_⟩
  · rw [h.outcome]
    unfold Database.searchOutcome
    rw [List.findSome?_cons, hdecision]
  · rw [h.contacted, hvisited, List.flatMap_cons, List.append_assoc]
  · rw [h.tables, hvisits.tables]
  · rw [h.offers k, hvisits.offers k, hvisited, Option.map_map]
    congr 1
    funext offer
    rw [Function.comp_apply]
    by_cases hk : k = (command.productId, candidate.id)
    · have hrest : ((database.visited environment command candidates).find? fun c =>
          decide (k = (command.productId, c.id))) = none := by
        rw [List.find?_eq_none]
        intro c hc hkc
        refine hnew c ((searched_front candidates).subset hc) ?_
        exact congrArg Prod.snd ((of_decide_eq_true hkc).symm.trans hk)
      have hfirst : ((candidate :: database.visited environment command candidates).find? fun c =>
          decide (k = (command.productId, c.id))) = some candidate := List.find?_cons_of_pos (decide_eq_true hk)
      rw [hrest, hfirst, if_pos hk, Database.visit_congr hrow]
    · have hlater : ((candidate :: database.visited environment command candidates).find? fun c =>
          decide (k = (command.productId, c.id))) =
            (database.visited environment command candidates).find? fun c =>
              decide (k = (command.productId, c.id)) := List.find?_cons_of_neg (by simpa using hk)
      rw [hlater, if_neg hk]

theorem holdAmong_searches {configured : List (InventoryProviderModel × HoldProvider TransactionM)}
    (hadapt : ∀ c ∈ configured, holdProvider environment c.1 = some c.2)
    (hobserver : router.availabilityObserver = some (observeAvailability command.productId))
    (hlisted : ∀ c ∈ configured, c.1.id ∈ router.availabilityProviderIds ↔
      c.1.kind = .external ∧ c.1.supportsAvailability = true)
    (hnodup : (configured.map fun c => c.1.id).Nodup) (hquantity : 0 < command.quantity)
    (hchecked : database.Checked)
    (hsame : ∀ c ∈ configured, s.database.offers.find? (command.productId, c.1.id) =
      database.offers.find? (command.productId, c.1.id)) :
    SearchEnds environment command database (configured.map Prod.fst) s log
      (router.logged.holdAmong command ((configured.map Prod.snd).map HoldProvider.logged) (s, log)) := by
  induction configured generalizing s log with
  | nil => exact ⟨rfl, (List.append_nil log).symm, rfl, fun k => Option.map_id'.symm⟩
  | cons c configured ih =>
    obtain ⟨candidate, provider⟩ := c
    obtain ⟨hnew, hnodup⟩ := List.nodup_cons.mp hnodup
    have hrow := hsame _ List.mem_cons_self
    have hne : ∀ c ∈ configured, c.1.id ≠ candidate.id := fun c hc he =>
      hnew (List.mem_map.mpr ⟨c, hc, he⟩)
    have hends : VisitEnds environment router command candidate (configured.map Prod.snd) s log
        (router.logged.holdAmong command ((provider :: configured.map Prod.snd).map HoldProvider.logged)
          (s, log)) :=
      visit_ends (hadapt _ List.mem_cons_self) hobserver (hlisted _ List.mem_cons_self) hquantity
        fun offer ho => hchecked offer (Table.mem_of_find? (hrow ▸ ho))
    obtain ⟨t, hvisits, hresult⟩ := hends
    rw [Database.decision_congr hrow, Database.contacts_congr hrow] at hresult
    rw [List.map_cons, List.map_cons, hresult]
    cases hdecision : database.decision environment command candidate with
    | none =>
      refine .of_rest hrow hvisits hdecision ?_ (ih (fun c hc => hadapt c (List.mem_cons_of_mem _ hc))
        (fun c hc => hlisted c (List.mem_cons_of_mem _ hc)) hnodup fun c hc => ?_)
      · intro c hc
        obtain ⟨c', hc', rfl⟩ := List.mem_map.mp hc
        exact hne c' hc'
      · have hother : (command.productId, c.1.id) ≠ (command.productId, candidate.id) := fun he =>
          hne c hc (congrArg Prod.snd he)
        rw [hvisits.offers]
        simp only [if_neg hother, Option.map_id']
        exact hsame c (List.mem_cons_of_mem _ hc)
    | some decided =>
      have hvisited : database.visited environment command (candidate :: configured.map Prod.fst) =
          [candidate] := searched_of_some hdecision _
      cases decided with
      | ok hold =>
        refine .of_decided hrow hvisits hvisited ?_ rfl
        unfold Database.searchOutcome
        rw [List.findSome?_cons, hdecision]
        rfl
      | error failure =>
        refine .of_decided hrow hvisits hvisited ?_ rfl
        unfold Database.searchOutcome
        rw [List.findSome?_cons, hdecision]
        rfl

end Run

/-! ## The candidates of a selection -/

section Selection
variable {environment : Environment} {database : Database} {productId providerId : Uuid}

theorem isSome_holdProvider {provider : InventoryProviderModel} :
    (holdProvider environment provider).isSome = true ↔ provider.Adaptable environment := by
  unfold holdProvider InventoryProviderModel.Adaptable
  cases provider.kind with
  | internal => simp
  | external =>
    dsimp only
    split_ifs with h
    · simp [h]
    · simpa using h

/-- What the query asks of an offer. -/
theorem selectable_iff {offer : ProductOfferModel} (ho : offer ∈ database.offers)
    (hproduct : offer.productId = productId) :
    offer.selectable ((database.offers.find? (productId, providerId)).bind ProductOfferModel.routingGroup)
        providerId = true ↔
      ∃ selected ∈ database.offers.find? (productId, providerId), selected.Admits offer := by
  have hself : offer.providerId = providerId ↔
      database.offers.find? (productId, providerId) = some offer := by
    constructor
    · intro hprovider
      have hidentity : offer.identity = (productId, providerId) := Prod.ext hproduct hprovider
      rw [← hidentity]
      exact Table.find?_of_mem ho
    · intro hf
      exact congrArg Prod.snd (Table.key_of_find? hf)
  cases hf : database.offers.find? (productId, providerId) with
  | none =>
    have hne : offer.providerId ≠ providerId := fun h => by cases hf.symm.trans (hself.mp h)
    simp [ProductOfferModel.selectable, hne]
  | some selected =>
    rw [hf, Option.some.injEq] at hself
    simp only [Option.bind_some, Option.mem_some_iff, exists_eq_left']
    unfold ProductOfferModel.selectable ProductOfferModel.Admits
    cases selected.routingGroup with
    | none => simpa using hself.trans eq_comm
    | some group => simp

/-- The candidates that have an adapter are the candidates of the selection, in their order. -/
theorem Database.candidates_adaptable (database : Database) (environment : Environment)
    (productId providerId : Uuid) :
    database.Candidates environment productId providerId
      ((database.holdCandidates productId providerId
        ((database.offers.find? (productId, providerId)).bind ProductOfferModel.routingGroup)).filter
          fun candidate => (holdProvider environment candidate).isSome) where
  mem provider := by
    rw [List.mem_filter, isSome_holdProvider]
    unfold holdCandidates
    simp only [List.mem_filterMap, List.mem_insertionSort, List.mem_filter, decide_eq_true_eq,
      Option.filter_eq_some_iff, Bool.and_eq_true]
    constructor
    · rintro ⟨⟨offer, ⟨ho, hproduct, hselectable⟩, hf, henabled, hsupports⟩, hadaptable⟩
      have hid : provider.id = offer.providerId := Table.key_of_find? hf
      obtain ⟨selected, hs, hadmits⟩ := (selectable_iff ho hproduct).mp hselectable
      refine ⟨Table.mem_of_find? hf, henabled, hsupports, hadaptable, selected, hs, offer, ?_, hadmits⟩
      have hidentity : offer.identity = (productId, provider.id) := Prod.ext hproduct hid.symm
      rw [← hidentity]
      exact Table.find?_of_mem ho
    · rintro ⟨hmem, henabled, hsupports, hadaptable, selected, hs, offer, ho, hadmits⟩
      have hidentity : offer.identity = (productId, provider.id) := Table.key_of_find? ho
      have hproduct : offer.productId = productId := congrArg Prod.fst hidentity
      have hid : offer.providerId = provider.id := congrArg Prod.snd hidentity
      refine ⟨⟨offer, ⟨Table.mem_of_find? ho, hproduct, ?_⟩, ?_, henabled, hsupports⟩, hadaptable⟩
      · exact (selectable_iff (Table.mem_of_find? ho) hproduct).mpr ⟨selected, hs, hadmits⟩
      · rw [hid]
        exact Table.find?_of_mem hmem
  distinct := (List.filter_sublist.map _).nodup (database.holdCandidates_nodup productId providerId _)
  ordered := by
    refine List.Pairwise.filter _ ?_
    unfold holdCandidates
    rw [List.pairwise_filterMap]
    refine (List.pairwise_insertionSort ProductOfferModel.precedes _).imp_of_mem ?_
    intro a b ha hb hab candidate hc candidate' hc' offer ho offer' ho'
    have hfound : ∀ {offer : ProductOfferModel} {candidate : InventoryProviderModel},
        offer ∈ (database.offers.rows.filter fun offer => decide (offer.productId = productId ∧
          offer.selectable ((database.offers.find? (productId, providerId)).bind
            ProductOfferModel.routingGroup) providerId = true)).insertionSort ProductOfferModel.precedes →
        candidate ∈ (database.providers.find? offer.providerId).filter (fun provider =>
          provider.isEnabled && provider.supportsHold) →
        database.offers.find? (productId, candidate.id) = some offer := by
      intro offer candidate ho hc
      rw [List.mem_insertionSort, List.mem_filter, decide_eq_true_eq] at ho
      have hid : candidate.id = offer.providerId := Table.key_of_find? (Option.filter_eq_some_iff.mp hc).1
      have hidentity : offer.identity = (productId, candidate.id) := Prod.ext ho.2.1 hid.symm
      rw [← hidentity]
      exact Table.find?_of_mem ho.1
    have hoffer : a = offer := Option.some.inj ((hfound ha hc).symm.trans ho)
    have hoffer' : b = offer' := Option.some.inj ((hfound hb hc').symm.trans ho')
    rw [← hoffer, ← hoffer']
    exact hab

/-- There is one such order. -/
theorem Database.Candidates.unique {candidates candidates' : List InventoryProviderModel}
    (h : database.Candidates environment productId providerId candidates)
    (h' : database.Candidates environment productId providerId candidates') : candidates = candidates' := by
  have hperm : candidates.Perm candidates' :=
    (List.perm_ext_iff_of_nodup (h.distinct.of_map _) (h'.distinct.of_map _)).mpr fun provider =>
      (h.mem provider).trans (h'.mem provider).symm
  refine hperm.eq_of_pairwise (fun a b ha hb hab hba => ?_) h.ordered h'.ordered
  obtain ⟨hamem, -, -, -, -, -, offer, ho, -⟩ := (h.mem a).mp ha
  obtain ⟨hbmem, -, -, -, -, -, offer', ho', -⟩ := (h'.mem b).mp hb
  have hoffers := hab offer ho offer' ho'
  have hoffers' := hba offer' ho' offer ho
  have hid : offer.providerId = a.id := congrArg Prod.snd (Table.key_of_find? ho)
  have hid' : offer'.providerId = b.id := congrArg Prod.snd (Table.key_of_find? ho')
  have hint : offer.providerId.int = offer'.providerId.int := by
    unfold ProductOfferModel.precedes at hoffers hoffers'
    omega
  rw [hid, hid'] at hint
  exact Table.eq_of_key_eq hamem hbmem (congrArg Uuid.mk hint)

/-- Routing a hold is the search among the candidates of the selection. -/
theorem tryHoldSelected_searches {command : HoldCommand} {s : Session} (log : List Contact)
    (hquantity : 0 < command.quantity) (hchecked : s.database.Checked)
    {candidates : List InventoryProviderModel}
    (hcandidates : s.database.Candidates environment command.productId providerId candidates) :
    SearchEnds environment command s.database candidates s log
      (tryHoldSelectedLogged environment command.productId providerId command.quantity
        command.idempotencyKey (s, log)) := by
  rw [hcandidates.unique (s.database.candidates_adaptable environment command.productId providerId),
    ← map_fst_configured (holdProvider environment)]
  generalize hlisting : s.database.holdCandidates command.productId providerId
    ((s.database.offers.find? (command.productId, providerId)).bind ProductOfferModel.routingGroup) = listing
  have hnodup := s.database.holdCandidates_nodup command.productId providerId
    ((s.database.offers.find? (command.productId, providerId)).bind ProductOfferModel.routingGroup)
  rw [hlisting] at hnodup
  have hrouter : s.database.holdRouter environment command.productId providerId =
      { providers := (listing.filterMap fun candidate =>
          (holdProvider environment candidate).map fun provider => (candidate, provider)).map Prod.snd
        availabilityProviderIds := (listing.filterMap fun candidate =>
          (holdProvider environment candidate).map fun provider => (candidate, provider)).filterMap fun c =>
            if c.1.kind = .external ∧ c.1.supportsAvailability then some c.1.id else none
        availabilityObserver := some (observeAvailability command.productId) } := by
    unfold Database.holdRouter
    dsimp only
    rw [hlisting]
  have hrun : tryHoldSelectedLogged environment command.productId providerId command.quantity
      command.idempotencyKey (s, log) =
        (s.database.holdRouter environment command.productId providerId).logged.hold command (s, log) := rfl
  rw [hrun, hrouter]
  exact holdAmong_searches (fun c hc => (mem_configured.mp hc).2) rfl (fun c hc => listed_configured hnodup hc)
    (configured_nodup hnodup) hquantity hchecked fun _ _ => rfl

end Selection
end InventoryReservation
