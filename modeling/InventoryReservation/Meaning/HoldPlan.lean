import InventoryReservation.Meaning.Creation
import InventoryReservation.Meaning.OfferRows

/-! # The hold loop, read off the database before it

What `create` does once its reservation is stored is decided by the database it starts from and by the
replies of the providers: how an item is routed (`Database.route`), where the loop over the items ends
(`Database.holdRun`) and which release requests a compensation sends (`Database.releasesSent`). The
theorems say that the code does that, whether it returns or raises.
-/

namespace InventoryReservation
set_option autoImplicit false

open Relational Transactional

/-! ## Grants and release requests among the calls -/

/-- A hold a provider granted: the provider, the command, and the reference it answered. -/
def Exchange.grant? : Exchange → Option (Uuid × HoldCommand × String)
  | hold providerId command (.held reference) => some (providerId, command, reference)
  | _ => none

/-- The provider and the hold reference of a release request. -/
def Exchange.releaseRequest? : Exchange → Option (Uuid × String)
  | release providerId command _ => some (providerId, command.holdReference)
  | _ => none

def grants (exchanges : List (Database × Exchange)) : List (Uuid × HoldCommand × String) :=
  exchanges.filterMap fun entry => entry.2.grant?

def releaseRequests (exchanges : List (Database × Exchange)) : List (Uuid × String) :=
  exchanges.filterMap fun entry => entry.2.releaseRequest?

/-- These grants and release requests were added. -/
structure Adds (granted : List (Uuid × HoldCommand × String)) (released : List (Uuid × String))
    (s t : Session) : Prop where
  grants : grants t.exchanges = grants s.exchanges ++ granted
  releases : releaseRequests t.exchanges = releaseRequests s.exchanges ++ released

theorem Adds.of_exchanges {s t : Session} (h : t.exchanges = s.exchanges) : Adds [] [] s t where
  grants := by rw [h, List.append_nil]
  releases := by rw [h, List.append_nil]

theorem Adds.trans {granted granted' : List (Uuid × HoldCommand × String)}
    {released released' : List (Uuid × String)} {s t u : Session} (h : Adds granted released s t)
    (h' : Adds granted' released' t u) : Adds (granted ++ granted') (released ++ released') s u where
  grants := by rw [h'.grants, h.grants, List.append_assoc]
  releases := by rw [h'.releases, h.releases, List.append_assoc]

/-- One call more. -/
theorem Adds.call (s : Session) (entry : Database × Exchange) :
    Adds entry.2.grant?.toList entry.2.releaseRequest?.toList s
      { s with exchanges := s.exchanges ++ [entry] } where
  grants := by
    unfold InventoryReservation.grants
    rw [List.filterMap_append]
    cases hg : entry.2.grant? <;> simp [hg]
  releases := by
    unfold releaseRequests
    rw [List.filterMap_append]
    cases hr : entry.2.releaseRequest? <;> simp [hr]

/-! ## One update of an offer -/

/-- What an update comes to: the new row, none where no row passes the guard, or what the driver has
against the statement or the database against the new row. -/
def Database.updated (database : Database) (statement : OfferStatement) (k : Uuid × Uuid) :
    Except Failure (Option ProductOfferModel) :=
  match statement.encodingFailure with
  | some failure => .error failure
  | none =>
    match (database.offers.find? k).bind statement.apply with
    | none => .ok none
    | some offer =>
      match offer.violation with
      | some failure => .error failure
      | none => .ok (some offer)

theorem Database.updated_none_iff {database : Database} {statement : OfferStatement} {k : Uuid × Uuid} :
    database.updated statement k = .ok none ↔
      statement.Encodable ∧ (database.offers.find? k).bind statement.apply = none := by
  rw [← OfferStatement.encodingFailure_eq_none_iff]
  unfold updated
  cases statement.encodingFailure with
  | some failure => exact iff_of_false nofun nofun
  | none =>
    cases (database.offers.find? k).bind statement.apply with
    | none => exact iff_of_true rfl ⟨rfl, rfl⟩
    | some offer => cases hv : offer.violation <;> simp [hv]

theorem Database.updated_some_iff {database : Database} {statement : OfferStatement} {k : Uuid × Uuid}
    {offer : ProductOfferModel} :
    database.updated statement k = .ok (some offer) ↔ statement.Encodable ∧
      (database.offers.find? k).bind statement.apply = some offer ∧ offer.violation = none := by
  rw [← OfferStatement.encodingFailure_eq_none_iff]
  unfold updated
  cases statement.encodingFailure with
  | some failure => exact iff_of_false nofun nofun
  | none =>
    cases (database.offers.find? k).bind statement.apply with
    | none => exact iff_of_false nofun nofun
    | some offer' =>
      dsimp only
      constructor
      · intro h
        cases hv : offer'.violation with
        | none =>
          rw [hv] at h
          cases h
          exact ⟨rfl, rfl, hv⟩
        | some failure =>
          rw [hv] at h
          cases h
      · rintro ⟨-, ⟨⟩, hv⟩
        rw [hv]

theorem Database.updated_error_iff {database : Database} {statement : OfferStatement} {k : Uuid × Uuid}
    {failure : Failure} :
    database.updated statement k = .error failure ↔ statement.encodingFailure = some failure ∨
      statement.Encodable ∧ ∃ offer, (database.offers.find? k).bind statement.apply = some offer ∧
        offer.violation = some failure := by
  rw [← OfferStatement.encodingFailure_eq_none_iff]
  unfold updated
  cases statement.encodingFailure with
  | some failure' => simp
  | none =>
    cases (database.offers.find? k).bind statement.apply with
    | none => simp
    | some offer => cases hv : offer.violation <;> simp [hv]

/-- A statement whose row is accepted is carried out. -/
theorem Database.updated_of_accepted {database : Database} {statement : OfferStatement} {k : Uuid × Uuid}
    (hencodable : statement.Encodable)
    (haccepted : ∀ offer ∈ database.offers.find? k, ∀ offer', statement.apply offer = some offer' →
      offer'.violation = none) :
    database.updated statement k = .ok ((database.offers.find? k).bind statement.apply) := by
  cases hb : (database.offers.find? k).bind statement.apply with
  | none => exact Database.updated_none_iff.mpr ⟨hencodable, hb⟩
  | some offer' =>
    obtain ⟨offer, hf, ha⟩ := Option.bind_eq_some_iff.mp hb
    exact Database.updated_some_iff.mpr ⟨hencodable, hb, haccepted offer hf offer' ha⟩

section Holding
variable {database : Database} {quantity : ℤ} {k : Uuid × Uuid}

/-- A hold that fits the columns is carried out. -/
theorem Database.updated_tryHold (hquantity : 0 < quantity)
    (hchecked : ∀ offer ∈ database.offers.find? k, offer.violation = none)
    (hholdable : Holdable (database.offers.find? k) quantity) :
    database.updated (.tryHold quantity) k =
      .ok ((database.offers.find? k).bind (OfferStatement.tryHold quantity).apply) := by
  obtain ⟨hfits, hversion⟩ := hholdable
  have hencodable : (OfferStatement.tryHold quantity).Encodable :=
    OfferStatement.tryHold_encodable_iff.mpr ((FitsInteger.of_nonneg hquantity.le).mpr hfits)
  refine updated_of_accepted hencodable fun offer ho offer' ha => ?_
  rw [ProductOfferModel.tryHold_violation hquantity (hchecked offer ho) ha]
  exact if_pos (hversion offer ho (Option.ite_none_right_eq_some.mp ha).1)

/-- A hold that does not fit them raises. -/
theorem Database.updated_tryHold_overflows (hholdable : ¬ Holdable (database.offers.find? k) quantity) :
    database.updated (.tryHold quantity) k = .error (.dataError "product_offers") := by
  rw [updated_error_iff]
  by_cases hencodable : (OfferStatement.tryHold quantity).Encodable
  · have hfits : quantity < 2 ^ 31 := (OfferStatement.tryHold_encodable_iff.mp hencodable).2
    obtain ⟨offer, ho, hstock, hlast⟩ : ∃ offer ∈ database.offers.find? k,
        quantity ≤ offer.onHand - offer.reserved ∧ ¬ offer.version < 2 ^ 31 - 1 := by
      by_contra hno
      refine hholdable ⟨hfits, fun offer ho hstock => ?_⟩
      by_contra hlast
      exact hno ⟨offer, ho, hstock, hlast⟩
    have ha : (OfferStatement.tryHold quantity).apply offer = some _ := if_pos hstock
    refine Or.inr ⟨hencodable, _, Option.bind_eq_some_iff.mpr ⟨offer, ho, ha⟩, if_neg fun hfits' => ?_⟩
    have hnext : offer.version + 1 < 2 ^ 31 := hfits'.2.2.2.2
    omega
  · exact Or.inl (if_neg hencodable)

end Holding

/-- The offers of a product. -/
def Database.offersOf (database : Database) (productId : Uuid) : List ProductOfferModel :=
  database.offers.rows.filter fun offer => offer.productId = productId

theorem Database.find?_offersOf (database : Database) (productId providerId : Uuid) :
    database.offers.find? (productId, providerId) =
      (database.offersOf productId).find? fun offer => offer.providerId = providerId := by
  unfold offersOf Table.find?
  rw [List.find?_filter]
  congr 1
  funext offer
  simp [ProductOfferModel.identity]

section Update
variable {statement : OfferStatement} {productId providerId : Uuid} {s : Session}

theorem Database.updated_congr {database database' : Database} {k : Uuid × Uuid}
    (h : database'.offers.find? k = database.offers.find? k) (statement : OfferStatement) :
    database'.updated statement k = database.updated statement k := by
  unfold updated
  rw [h]

theorem updateOffer_error {failure : Failure}
    (h : s.database.updated statement (productId, providerId) = .error failure) :
    updateOffer statement productId providerId s = .error failure s := by
  rcases Database.updated_error_iff.mp h with hencoding | ⟨hencodable, offer, hb, hv⟩
  · rw [updateOffer, hencoding]
    rfl
  · rw [updateOffer, OfferStatement.encodingFailure_eq_none_iff.mpr hencodable, raiseIf_none_bind,
      readDatabase_bind]
    unfold Table.updateReturning
    rw [hb, Option.map_some]
    dsimp only
    rw [hv]
    rfl

theorem updateOffer_none (h : s.database.updated statement (productId, providerId) = .ok none) :
    updateOffer statement productId providerId s = .ok none s := by
  obtain ⟨hencodable, hb⟩ := Database.updated_none_iff.mp h
  rw [updateOffer, OfferStatement.encodingFailure_eq_none_iff.mpr hencodable, raiseIf_none_bind,
    readDatabase_bind]
  unfold Table.updateReturning
  rw [hb]
  rfl

theorem updateOffer_some {offer : ProductOfferModel}
    (h : s.database.updated statement (productId, providerId) = .ok (some offer)) :
    ∃ offers : Table ProductOfferModel.identity,
      updateOffer statement productId providerId s =
        .ok (some offer.snapshot) { s with database := { s.database with offers } } ∧
      (∀ k, offers.find? k =
        if k = (productId, providerId) then some offer else s.database.offers.find? k) ∧
      ∀ productId', productId' ≠ productId →
        ({ s.database with offers } : Database).offersOf productId' = s.database.offersOf productId' := by
  obtain ⟨hencodable, hb, hv⟩ := Database.updated_some_iff.mp h
  obtain ⟨before, hf, ha⟩ := Option.bind_eq_some_iff.mp hb
  cases hu : s.database.offers.updateReturning (productId, providerId) statement.apply
      statement.identity with
  | none => exact absurd (Table.updateReturning_eq_none_iff.mp hu before hf) (by simp [ha])
  | some updated =>
    obtain ⟨level, offers⟩ := updated
    obtain ⟨before', hf', ha', hrows⟩ := Table.updateReturning_eq_some_iff.mp hu
    obtain rfl : before = before' := Option.some.inj (hf.symm.trans hf')
    obtain rfl : offer = level := Option.some.inj (ha.symm.trans ha')
    refine ⟨offers, ?_, Table.find?_updateReturning hu, fun productId' hne => ?_⟩
    · rw [updateOffer, OfferStatement.encodingFailure_eq_none_iff.mpr hencodable, raiseIf_none_bind,
        readDatabase_bind, hu]
      dsimp only
      rw [hv]
      rfl
    · have hid : offer.identity = (productId, providerId) :=
        (statement.identity before offer ha).trans (Table.key_of_find? hf)
      unfold Database.offersOf
      dsimp only
      rw [hrows, List.filter_map]
      have hkeep : ∀ x ∈ s.database.offers.rows.filter ((fun offer : ProductOfferModel =>
          decide (offer.productId = productId')) ∘ fun x => if x.identity = (productId, providerId)
            then offer else x), (if x.identity = (productId, providerId) then offer else x) = x := by
        intro x hx
        have hp := (List.mem_filter.mp hx).2
        rw [Function.comp_apply] at hp
        split
        · next hk =>
          rw [if_pos hk] at hp
          have hproduct : offer.productId = productId := congrArg Prod.fst hid
          exact absurd ((of_decide_eq_true hp).symm.trans hproduct) hne
        · rfl
      rw [List.map_congr_left hkeep, List.map_id']
      apply List.filter_congr
      intro x _
      rw [Function.comp_apply]
      split
      · next hk =>
        have hx : x.productId = productId := congrArg Prod.fst hk
        have hproduct : offer.productId = productId := congrArg Prod.fst hid
        rw [hx, hproduct]
      · rfl

end Update

/-! ## Routing -/

/-- How routing an item ends. -/
inductive Routing where
  | granted (hold : ProviderHold)
  | refused
  | raised
  deriving DecidableEq

/-- Whether a candidate with this availability is passed over, once the observation is stored. -/
def Database.noted (database : Database) (command : HoldCommand) (providerId : Uuid)
    (attempt : ProviderAvailabilityAttempt) : Except Failure Bool :=
  match attempt.outcome, attempt.availableQuantity with
  | .fresh, some availableQuantity =>
    (database.updated (.observe availableQuantity attempt.observedAt) (command.productId, providerId)).map
      fun _ => ProviderRouter.skips attempt command.quantity
  | _, _ => .ok (ProviderRouter.skips attempt command.quantity)

/-- Whether a candidate is passed over for its availability, when it is asked. -/
def Database.looked (database : Database) (environment : Environment) (command : HoldCommand)
    (candidate : InventoryProviderModel) : Except Failure Bool :=
  if candidate.kind = .external ∧ candidate.supportsAvailability then
    match (environment.availability candidate.id ⟨command.productId⟩).attempt with
    | none => .error (.unclassifiedProviderError candidate.id)
    | some attempt => database.noted command candidate.id attempt
  else .ok false

/-- How routing ends at a candidate that is not passed over; nothing where it goes on. -/
def Database.asked (database : Database) (environment : Environment) (command : HoldCommand)
    (candidate : InventoryProviderModel) : Option Routing :=
  match candidate.kind with
  | .internal =>
    match database.updated (.tryHold command.quantity) (command.productId, candidate.id) with
    | .error _ => some .raised
    | .ok none => none
    | .ok (some _) => some (.granted ⟨candidate.id, none⟩)
  | .external =>
    match environment.hold candidate.id command with
    | .held reference => some (.granted ⟨candidate.id, some reference⟩)
    | .outOfStock => none
    | .temporarilyUnavailable => none
    | .unknown => some .raised
    | .raised => some .raised

/-- How routing ends that tries these candidates. -/
def Database.routeAmong (database : Database) (environment : Environment) (command : HoldCommand) :
    List InventoryProviderModel → Routing
  | [] => .refused
  | candidate :: rest =>
    match database.looked environment command candidate with
    | .error _ => .raised
    | .ok true => database.routeAmong environment command rest
    | .ok false =>
      (database.asked environment command candidate).getD (database.routeAmong environment command rest)

/-- How routing an item ends whose customer selected this provider. -/
def Database.route (database : Database) (environment : Environment) (command : HoldCommand)
    (providerId : Uuid) : Routing :=
  let selectedRoutingGroup :=
    (database.offers.find? (command.productId, providerId)).bind ProductOfferModel.routingGroup
  let candidates := database.holdCandidates command.productId providerId selectedRoutingGroup
  database.routeAmong environment command
    (candidates.filter fun candidate => (holdProvider environment candidate).isSome)

/-- The grants a hold stands for. -/
def ProviderHold.grants (command : HoldCommand) (hold : ProviderHold) : List (Uuid × HoldCommand × String) :=
  hold.reference.toList.map fun reference => (hold.providerId, command, reference)

/-- Only offers of the product changed, and these grants were added. -/
structure Visited (productId : Uuid) (granted : List (Uuid × HoldCommand × String)) (s t : Session) :
    Prop where
  tables : t.database = { s.database with offers := t.database.offers }
  generated : t.generated = s.generated
  offers : ∀ productId', productId' ≠ productId →
    t.database.offersOf productId' = s.database.offersOf productId'
  adds : Adds granted [] s t

theorem Visited.of_exchanges {productId : Uuid} {s : Session} {exchanges : List (Database × Exchange)}
    {granted : List (Uuid × HoldCommand × String)} (h : Adds granted [] s { s with exchanges }) :
    Visited productId granted s { s with exchanges } := ⟨rfl, rfl, fun _ _ => rfl, h⟩

theorem Visited.refl (productId : Uuid) (s : Session) : Visited productId [] s s :=
  ⟨rfl, rfl, fun _ _ => rfl, .of_exchanges rfl⟩

theorem Visited.trans {productId : Uuid} {granted granted' : List (Uuid × HoldCommand × String)}
    {s t u : Session} (h : Visited productId granted s t) (h' : Visited productId granted' t u) :
    Visited productId (granted ++ granted') s u where
  tables := by rw [h'.tables, h.tables]
  generated := h'.generated.trans h.generated
  offers productId' hne := (h'.offers productId' hne).trans (h.offers productId' hne)
  adds := h.adds.trans h'.adds

/-- The offer of a provider has come from the one stored before by holding units. -/
def Database.Reserves (database : Database) (productId : Uuid) (quantity : ℤ) (providerId : Uuid)
    (database' : Database) : Prop :=
  ∃ offer, database.updated (.tryHold quantity) (productId, providerId) = .ok (some offer) ∧
    database'.offers.find? (productId, providerId) = some offer

/-- The end of a routing that the plan gives, and what it left. -/
inductive RoutedAs (database : Database) (command : HoldCommand) (s : Session) :
    Routing → EStateM.Result Failure Session (Option ProviderHold) → Prop
  | granted (hold : ProviderHold) (t : Session)
      (h : Visited command.productId (hold.grants command) s t)
      (hinternal : ∀ provider, database.providers.find? hold.providerId = some provider →
        provider.kind = .internal → hold.reference = none ∧
          database.Reserves command.productId command.quantity hold.providerId t.database) :
      RoutedAs database command s (.granted hold) (.ok (some hold) t)
  | refused (t : Session) (h : Visited command.productId [] s t) :
      RoutedAs database command s .refused (.ok none t)
  | raised (failure : Failure) (t : Session) (h : Adds [] [] s t) :
      RoutedAs database command s .raised (.error failure t)

theorem RoutedAs.of_visited {database : Database} {command : HoldCommand} {s t : Session} {routing : Routing}
    {result : EStateM.Result Failure Session (Option ProviderHold)}
    (h : Visited command.productId [] s t) (h' : RoutedAs database command t routing result) :
    RoutedAs database command s routing result := by
  cases h' with
  | granted hold u hu hinternal => exact .granted hold u (h.trans hu) hinternal
  | refused u hu => exact .refused u (h.trans hu)
  | raised failure u hu => exact .raised failure u (h.adds.trans hu)

section Router
variable {environment : Environment} {router : ProviderRouter TransactionM} {command : HoldCommand}
  {database : Database} {candidate : InventoryProviderModel} {provider : HoldProvider TransactionM}
  {s : Session}

/-- A check of availability that returned: other offers of the product are as before too. -/
structure Looked (command : HoldCommand) (candidate : InventoryProviderModel) (s t : Session) : Prop where
  visited : Visited command.productId [] s t
  others : ∀ providerId, providerId ≠ candidate.id →
    t.database.offers.find? (command.productId, providerId) =
      s.database.offers.find? (command.productId, providerId)
  internal : candidate.kind = .internal → t = s

theorem observe_looked {exchanges : List (Database × Exchange)} (attempt : ProviderAvailabilityAttempt)
    (hadds : Adds [] [] s { s with exchanges }) (hk : candidate.kind = .external)
    (hsame : s.database.offers.find? (command.productId, candidate.id) =
      database.offers.find? (command.productId, candidate.id)) :
    match database.noted command candidate.id attempt with
    | .error failure => observeAvailability command.productId candidate.id attempt { s with exchanges } =
        .error failure { s with exchanges }
    | .ok skipped => skipped = ProviderRouter.skips attempt command.quantity ∧
        ∃ t, observeAvailability command.productId candidate.id attempt { s with exchanges } = .ok () t ∧
          Looked command candidate s t := by
  have hidle : Looked command candidate s { s with exchanges } :=
    ⟨.of_exchanges hadds, fun _ _ => rfl, fun h => by cases hk.symm.trans h⟩
  have hupdated : ∀ statement,
      ({ s with exchanges } : Session).database.updated statement (command.productId, candidate.id) =
        database.updated statement (command.productId, candidate.id) :=
    Database.updated_congr hsame
  unfold observeAvailability Database.noted
  cases ho : attempt.outcome with
  | stale => exact ⟨rfl, _, rfl, hidle⟩
  | temporarilyUnavailable => exact ⟨rfl, _, rfl, hidle⟩
  | fresh =>
    cases hq : attempt.availableQuantity with
    | none => exact ⟨rfl, _, rfl, hidle⟩
    | some availableQuantity =>
      dsimp only
      cases hu : database.updated (.observe availableQuantity attempt.observedAt)
          (command.productId, candidate.id) with
      | error failure =>
        rw [← hupdated] at hu
        exact bind_of_error (updateOffer_error hu)
      | ok row =>
        rw [← hupdated] at hu
        refine ⟨rfl, ?_⟩
        cases row with
        | none => exact ⟨_, bind_of_ok (updateOffer_none hu), hidle⟩
        | some offer =>
          obtain ⟨offers, hupdate, hfind, hproducts⟩ := updateOffer_some hu
          refine ⟨_, bind_of_ok hupdate, ⟨rfl, rfl, hproducts, ⟨hadds.grants, hadds.releases⟩⟩,
            fun providerId hne => ?_, fun h => by cases hk.symm.trans h⟩
          refine (hfind _).trans (if_neg ?_)
          intro he
          exact hne (congrArg Prod.snd he)

/-- The check of availability ends as the plan says. -/
theorem checkAvailability_looked (hp : holdProvider environment candidate = some provider)
    (hobserver : router.availabilityObserver = some (observeAvailability command.productId))
    (hlisted : candidate.id ∈ router.availabilityProviderIds ↔
      candidate.kind = .external ∧ candidate.supportsAvailability)
    (hsame : s.database.offers.find? (command.productId, candidate.id) =
      database.offers.find? (command.productId, candidate.id)) :
    match database.looked environment command candidate with
    | .error failure => ∃ t, router.checkAvailability provider command s = .error failure t ∧ Adds [] [] s t
    | .ok skipped =>
      ∃ t, router.checkAvailability provider command s = .ok skipped t ∧ Looked command candidate s t := by
  have hid := holdProvider_providerId hp
  unfold Database.looked ProviderRouter.checkAvailability
  rw [hid]
  by_cases hl : candidate.kind = .external ∧ candidate.supportsAvailability
  · have hprovider : provider = externalProvider environment candidate.id := by
      unfold holdProvider at hp
      rw [hl.1] at hp
      exact (Option.some.inj (Option.ite_none_right_eq_some.mp hp).2).symm
    rw [if_pos hl, if_pos (hlisted.mpr hl), hobserver, hprovider]
    simp only [externalProvider]
    generalize hreply : environment.availability candidate.id ⟨command.productId⟩ = reply
    have hadds := Adds.call s (s.database, .availability candidate.id ⟨command.productId⟩ reply)
    cases hr : reply.attempt with
    | none => exact ⟨_, bind_of_error (recordExchange_bind _ _), hadds⟩
    | some attempt =>
      have hcall : (do
          recordExchange (.availability candidate.id ⟨command.productId⟩ reply)
          pure attempt : TransactionM ProviderAvailabilityAttempt) s = .ok attempt { s with
            exchanges := s.exchanges ++
              [(s.database, .availability candidate.id ⟨command.productId⟩ reply)] } :=
        recordExchange_bind _ _
      dsimp only
      have hlooked := observe_looked attempt hadds hl.1 hsame
      cases hn : database.noted command candidate.id attempt with
      | error failure =>
        rw [hn] at hlooked
        exact ⟨_, (bind_of_ok hcall).trans (bind_of_error hlooked), hadds⟩
      | ok skipped =>
        rw [hn] at hlooked
        obtain ⟨rfl, t, ht, hlook⟩ := hlooked
        exact ⟨t, (bind_of_ok hcall).trans (bind_of_ok ht), hlook⟩
  · rw [if_neg hl, if_neg (fun h => hl (hlisted.mp h))]
    exact ⟨s, rfl, .refl _ _, fun _ _ => rfl, fun _ => rfl⟩

/-- What a hold request comes to. -/
inductive AskedAs (database : Database) (command : HoldCommand) (candidate : InventoryProviderModel)
    (s : Session) : Option Routing → EStateM.Result Failure Session ProviderHoldAttempt → Prop
  | granted (hold : ProviderHold) (t : Session) (hid : hold.providerId = candidate.id)
      (h : Visited command.productId (hold.grants command) s t)
      (hinternal : candidate.kind = .internal → hold.reference = none ∧
        database.Reserves command.productId command.quantity hold.providerId t.database) :
      AskedAs database command candidate s (some (.granted hold)) (.ok ⟨.held, hold.reference⟩ t)
  | passed (attempt : ProviderHoldAttempt) (t : Session)
      (ho : attempt.outcome = .outOfStock ∨ attempt.outcome = .temporarilyUnavailable)
      (h : Visited command.productId [] s t) (hoffers : t.database.offers = s.database.offers) :
      AskedAs database command candidate s none (.ok attempt t)
  | unknown (reference : Option String) (t : Session) (h : Adds [] [] s t) :
      AskedAs database command candidate s (some .raised) (.ok ⟨.unknown, reference⟩ t)
  | raised (failure : Failure) (t : Session) (h : Adds [] [] s t) :
      AskedAs database command candidate s (some .raised) (.error failure t)

theorem hold_asked (hp : holdProvider environment candidate = some provider)
    (hsame : candidate.kind = .internal → s.database.offers.find? (command.productId, candidate.id) =
      database.offers.find? (command.productId, candidate.id)) :
    AskedAs database command candidate s (database.asked environment command candidate)
      (provider.hold command s) := by
  unfold holdProvider at hp
  unfold Database.asked
  cases hk : candidate.kind with
  | internal =>
    rw [hk] at hp
    cases hp
    rw [internalInventoryProvider]
    dsimp only
    unfold tryHold
    have hupdated := Database.updated_congr (hsame hk) (.tryHold command.quantity)
    cases hu : database.updated (.tryHold command.quantity) (command.productId, candidate.id) with
    | error failure =>
      rw [hu] at hupdated
      rw [bind_of_error (updateOffer_error hupdated)]
      exact .raised failure s (.of_exchanges rfl)
    | ok row =>
      rw [hu] at hupdated
      cases row with
      | none =>
        rw [bind_of_ok (updateOffer_none hupdated)]
        exact .passed ⟨.outOfStock, none⟩ s (Or.inl rfl) (.refl _ _) rfl
      | some offer =>
        obtain ⟨offers, hupdate, hfind, hproducts⟩ := updateOffer_some hupdated
        rw [bind_of_ok hupdate]
        refine .granted ⟨candidate.id, none⟩ _ rfl ⟨rfl, rfl, hproducts, .of_exchanges rfl⟩ fun _ => ?_
        exact ⟨rfl, offer, hu, (hfind _).trans (if_pos rfl)⟩
  | external =>
    rw [hk] at hp
    obtain ⟨-, ⟨⟩⟩ := Option.ite_none_right_eq_some.mp hp
    rw [externalProvider]
    dsimp only
    rw [recordExchange_bind]
    generalize environment.hold candidate.id command = reply
    have hadds := Adds.call s (s.database, .hold candidate.id command reply)
    cases reply with
    | held reference =>
      exact .granted ⟨candidate.id, some reference⟩ _ rfl (.of_exchanges hadds)
        fun h => by cases hk.symm.trans h
    | outOfStock => exact .passed ⟨.outOfStock, none⟩ _ (Or.inl rfl) (.of_exchanges hadds) rfl
    | temporarilyUnavailable =>
      exact .passed ⟨.temporarilyUnavailable, none⟩ _ (Or.inr rfl) (.of_exchanges hadds) rfl
    | unknown => exact .unknown none _ hadds
    | raised => exact .raised _ _ hadds

/-- Trying the candidates ends as the plan says. -/
theorem holdAmong_route {configured : List (InventoryProviderModel × HoldProvider TransactionM)}
    (hadapt : ∀ c ∈ configured, holdProvider environment c.1 = some c.2)
    (hobserver : router.availabilityObserver = some (observeAvailability command.productId))
    (hlisted : ∀ c ∈ configured, c.1.id ∈ router.availabilityProviderIds ↔
      c.1.kind = .external ∧ c.1.supportsAvailability)
    (hnodup : (configured.map fun c => c.1.id).Nodup)
    (hknown : ∀ c ∈ configured, database.providers.find? c.1.id = some c.1)
    (hsame : ∀ c ∈ configured, s.database.offers.find? (command.productId, c.1.id) =
      database.offers.find? (command.productId, c.1.id)) :
    RoutedAs database command s (database.routeAmong environment command (configured.map Prod.fst))
      (router.holdAmong command (configured.map Prod.snd) s) := by
  induction configured generalizing s with
  | nil => exact .refused s (.refl _ _)
  | cons c configured ih =>
    obtain ⟨candidate, provider⟩ := c
    have hp := hadapt _ List.mem_cons_self
    have hrow := hsame _ List.mem_cons_self
    obtain ⟨hnew, hnodup⟩ := List.nodup_cons.mp hnodup
    have hne : ∀ c ∈ configured, c.1.id ≠ candidate.id := fun c hc he =>
      hnew (List.mem_map.mpr ⟨c, hc, he⟩)
    have hrest : ∀ t : Session, (∀ c ∈ configured, t.database.offers.find? (command.productId, c.1.id) =
        s.database.offers.find? (command.productId, c.1.id)) →
        RoutedAs database command t (database.routeAmong environment command (configured.map Prod.fst))
          (router.holdAmong command (configured.map Prod.snd) t) := by
      intro t ht
      refine ih (fun c hc => hadapt c (List.mem_cons_of_mem _ hc))
        (fun c hc => hlisted c (List.mem_cons_of_mem _ hc)) hnodup
        (fun c hc => hknown c (List.mem_cons_of_mem _ hc)) fun c hc => ?_
      exact (ht c hc).trans (hsame c (List.mem_cons_of_mem _ hc))
    have hlooked := checkAvailability_looked hp hobserver (hlisted _ List.mem_cons_self) hrow
    rw [List.map_cons, List.map_cons, Database.routeAmong, ProviderRouter.holdAmong]
    dsimp only
    cases hl : database.looked environment command candidate with
    | error failure =>
      rw [hl] at hlooked
      obtain ⟨t, ht, hadds⟩ := hlooked
      rw [bind_of_error ht]
      exact .raised failure t hadds
    | ok skipped =>
      rw [hl] at hlooked
      obtain ⟨t, ht, hlook⟩ := hlooked
      rw [bind_of_ok ht]
      have hothers : ∀ c ∈ configured, t.database.offers.find? (command.productId, c.1.id) =
          s.database.offers.find? (command.productId, c.1.id) := fun c hc => hlook.others _ (hne c hc)
      cases skipped with
      | true => exact .of_visited hlook.visited (hrest t hothers)
      | false =>
        refine .of_visited hlook.visited ?_
        dsimp only
        rw [if_neg Bool.false_ne_true]
        have hasked : AskedAs database command candidate t (database.asked environment command candidate)
            (provider.hold command t) := by
          refine hold_asked hp fun hk => ?_
          rw [hlook.internal hk]
          exact hrow
        revert hasked
        generalize database.asked environment command candidate = routing
        generalize hresult : provider.hold command t = result
        intro hasked
        cases hasked with
        | granted hold u hid hv hinternal =>
          rw [bind_of_ok hresult, holdProvider_providerId hp, ← hid]
          refine .granted hold u hv fun granted hf hk => hinternal ?_
          have hsame : granted = candidate := by
            rw [hid] at hf
            exact Option.some.inj (hf.symm.trans (hknown _ List.mem_cons_self))
          rw [← hsame]
          exact hk
        | unknown reference u hadds =>
          rw [bind_of_ok hresult]
          exact .raised _ u hadds
        | raised failure u hadds =>
          rw [bind_of_error hresult]
          exact .raised failure u hadds
        | passed attempt u ho hv hoffers =>
          rw [bind_of_ok hresult]
          have hnext := hrest u fun c hc => by rw [hoffers, hothers c hc]
          rcases ho with ho | ho
          · rw [ho]
            exact .of_visited hv hnext
          · rw [ho]
            exact .of_visited hv hnext

/-! ## Candidates -/

theorem Database.holdCandidates_congr {database' : Database} {productId : Uuid}
    (hproviders : database'.providers = database.providers)
    (hoffers : database'.offersOf productId = database.offersOf productId) (providerId : Uuid)
    (selectedRoutingGroup : Option Uuid) :
    database'.holdCandidates productId providerId selectedRoutingGroup =
      database.holdCandidates productId providerId selectedRoutingGroup := by
  have hfilter : ∀ d : Database, (d.offers.rows.filter fun offer =>
      offer.productId = productId ∧ offer.selectable selectedRoutingGroup providerId) =
        (d.offersOf productId).filter fun offer => offer.selectable selectedRoutingGroup providerId := by
    intro d
    rw [offersOf, List.filter_filter]
    congr 1
    funext offer
    simp [Bool.and_comm]
  unfold holdCandidates
  rw [hfilter, hfilter, hoffers, hproviders]

/-- No provider is a candidate twice. -/
theorem Database.holdCandidates_nodup (database : Database) (productId providerId : Uuid)
    (selectedRoutingGroup : Option Uuid) :
    ((database.holdCandidates productId providerId selectedRoutingGroup).map
      InventoryProviderModel.id).Nodup := by
  unfold holdCandidates
  refine Table.nodup_filterMap (k := ProductOfferModel.providerId) ?_ ?_
  · intro offer provider hf
    exact Table.key_of_find? (Option.filter_eq_some_iff.mp hf).1
  · rw [((List.perm_insertionSort _ _).map _).nodup_iff]
    have hnodup := (List.filter_sublist (l := database.offers.rows) (p := fun offer =>
      offer.productId = productId ∧ offer.selectable selectedRoutingGroup providerId)).map
        ProductOfferModel.identity |>.nodup database.offers.nodup
    have hidentity : (database.offers.rows.filter fun offer =>
        offer.productId = productId ∧ offer.selectable selectedRoutingGroup providerId).map
          ProductOfferModel.identity =
        ((database.offers.rows.filter fun offer =>
          offer.productId = productId ∧ offer.selectable selectedRoutingGroup providerId).map
            ProductOfferModel.providerId).map fun providerId => (productId, providerId) := by
      rw [List.map_map]
      apply List.map_congr_left
      intro offer ho
      have hp := (of_decide_eq_true (List.mem_filter.mp ho).2).1
      rw [Function.comp_apply, ProductOfferModel.identity, hp]
    rw [hidentity] at hnodup
    exact hnodup.of_map _

/-- The candidates that have an adapter. -/
theorem map_fst_configured {α β : Type} (adapter : α → Option β) (candidates : List α) :
    (candidates.filterMap fun candidate => (adapter candidate).map fun provider => (candidate, provider)).map
      Prod.fst = candidates.filter fun candidate => (adapter candidate).isSome := by
  induction candidates with
  | nil => rfl
  | cons candidate candidates ih => cases h : adapter candidate <;> simp [h, ih]

section Configured
variable {candidates : List InventoryProviderModel} (hnodup : (candidates.map InventoryProviderModel.id).Nodup)
include hnodup

/-- Whether a configured candidate is listed for availability depends on it alone. -/
theorem listed_configured {c : InventoryProviderModel × HoldProvider TransactionM}
    (hc : c ∈ candidates.filterMap fun candidate =>
      (holdProvider environment candidate).map fun provider => (candidate, provider)) :
    c.1.id ∈ ((candidates.filterMap fun candidate =>
        (holdProvider environment candidate).map fun provider => (candidate, provider)).filterMap fun c =>
          if c.1.kind = .external ∧ c.1.supportsAvailability then some c.1.id else none) ↔
      c.1.kind = .external ∧ c.1.supportsAvailability = true := by
  rw [List.mem_filterMap]
  constructor
  · rintro ⟨c', hc', hlisted⟩
    obtain ⟨hk, he⟩ := Option.ite_none_right_eq_some.mp hlisted
    have hsame : c'.1 = c.1 := List.inj_on_of_nodup_map hnodup (mem_configured.mp hc').1
      (mem_configured.mp hc).1 (Option.some.inj he)
    rw [← hsame]
    exact hk
  · intro hk
    exact ⟨c, hc, if_pos hk⟩

/-- No provider is configured twice. -/
theorem configured_nodup : ((candidates.filterMap fun candidate =>
    (holdProvider environment candidate).map fun provider => (candidate, provider)).map fun c =>
      c.1.id).Nodup := by
  have hids := congrArg (List.map InventoryProviderModel.id)
    (map_fst_configured (holdProvider environment) candidates)
  rw [List.map_map] at hids
  rw [show (fun c : InventoryProviderModel × HoldProvider TransactionM => c.1.id) =
    InventoryProviderModel.id ∘ Prod.fst from rfl, hids]
  exact (List.filter_sublist.map _).nodup hnodup

end Configured

variable (environment) in
/-- Routing an item ends as the plan says, in every session with the same offers of its product. -/
theorem tryHoldSelected_route (command : HoldCommand) (providerId : Uuid)
    (hproviders : s.database.providers = database.providers)
    (hoffers : s.database.offersOf command.productId = database.offersOf command.productId) :
    RoutedAs database command s (database.route environment command providerId)
      (tryHoldSelected environment command.productId providerId command.quantity command.idempotencyKey s) := by
  have hfind : ∀ providerId, s.database.offers.find? (command.productId, providerId) =
      database.offers.find? (command.productId, providerId) := by
    intro providerId
    rw [Database.find?_offersOf, Database.find?_offersOf, hoffers]
  rw [tryHoldSelected, readDatabase_bind]
  unfold Database.route
  dsimp only
  rw [hfind, Database.holdCandidates_congr hproviders hoffers]
  generalize hselected : (database.offers.find? (command.productId, providerId)).bind
    ProductOfferModel.routingGroup = selected
  generalize hcandidates : database.holdCandidates command.productId providerId selected = candidates
  have hnodup := database.holdCandidates_nodup command.productId providerId selected
  rw [hcandidates] at hnodup
  rw [← map_fst_configured (holdProvider environment) candidates]
  refine holdAmong_route (fun c hc => (mem_configured.mp hc).2) rfl (fun c hc => listed_configured hnodup hc)
    (configured_nodup hnodup) (fun c hc => ?_) fun c _ => hfind c.1.id
  refine mem_holdCandidates (?_ : c.1 ∈ database.holdCandidates command.productId providerId selected)
  rw [hcandidates]
  exact (mem_configured.mp hc).1

end Router

end InventoryReservation
