import InventoryReservation.Guarantees.OrderBacking
import InventoryReservation.Meaning.Contacts
import InventoryReservation.Meaning.Sparing
import InventoryReservation.System.Deployment

/-! # Creates are all or nothing

A create that returned has either held every item, or it has undone what it held: the stock of every
internal offer is then as before, and what is left to be released is external.
-/

namespace InventoryReservation
set_option autoImplicit false

open Relational Transactional

/-- The units of the allocations of a reservation at an offer. -/
def Database.allocatedAt (database : Database) (reservationId : Uuid) (k : Uuid × Uuid) : ℤ :=
  ((database.allocationRows reservationId).map fun row =>
    if k = (row.productId, row.allocation.providerId) then row.allocation.quantity.units else 0).sum

/-- The stock of an internal offer is as before, but for these units that were reserved. -/
def Reserves (units : Uuid × Uuid → ℤ) (before after : Database) : Prop :=
  ∀ k provider offer, before.providers.find? k.2 = some provider → provider.kind = .internal →
    before.offers.find? k = some offer → ∃ offer', after.offers.find? k = some offer' ∧
      offer'.onHand = offer.onHand ∧ offer'.reserved = offer.reserved + units k

/-- Every item of the reservation is held, once and in full. -/
structure WhollyHeld (reservation : Reservation) (before after : Database) : Prop where
  pending : ∃ row, after.reservations.find? reservation.id = some row ∧ row.status = .pending
  items : (after.itemsOf reservation.id).map ReservationItemModel.toDomain = reservation.items
  allocated : ∀ item ∈ after.itemsOf reservation.id, ∃ allocation ∈ after.allocations,
    allocation.reservationItemId = item.id ∧ allocation.status = .held ∧
      allocation.quantity = item.requestedQuantity ∧
      ∀ other ∈ after.allocations, other.reservationItemId = item.id → other = allocation
  reserved : Reserves (after.allocatedAt reservation.id) before after
  others : SparesOthers reservation.id before after

/-- A release request, if the call is one, that was answered released. -/
def Exchange.IsReleased : Exchange → Prop
  | release _ _ reply => reply = .attempt .released
  | _ => True

instance (call : Exchange) : Decidable call.IsReleased :=
  match call with
  | .release _ _ reply => inferInstanceAs (Decidable (reply = .attempt .released))
  | .availability _ _ _ => isTrue trivial
  | .hold _ _ _ => isTrue trivial
  | .confirm _ _ _ => isTrue trivial

/-- What was held is released, or is asked to be. -/
structure WhollyReleased (reservation : Reservation) (before after : Database) (calls : List Exchange) :
    Prop where
  restored : Reserves (fun _ => 0) before after
  internal : ∀ row ∈ after.allocationRows reservation.id, row.provider.kind = .internal →
    row.allocation.status = .released
  external : ∀ row ∈ after.allocationRows reservation.id, row.provider.kind = .external →
    ∃ command reply, .release row.provider.id command reply ∈ calls
  status : ∃ row, after.reservations.find? reservation.id = some row ∧
    (row.status, row.releaseTargetStatus) =
      if ∀ call ∈ calls, call.IsReleased then (.failed, none) else (.releasing, some .failed)
  others : SparesOthers reservation.id before after

/-! ## Stock on hand -/

/-- The units on hand of the offer `k`, if there is one. -/
def Database.onHandAt (database : Database) (k : Uuid × Uuid) : Option ℤ :=
  (database.offers.find? k).map ProductOfferModel.onHand

/-- Internal offers keep their units on hand. -/
structure KeepsOnHand (s t : Session) : Prop where
  providers : t.database.providers = s.database.providers
  onHand : ∀ k provider, s.database.providers.find? k.2 = some provider → provider.kind = .internal →
    t.database.onHandAt k = s.database.onHandAt k

namespace KeepsOnHand
variable {s t u : Session}

theorem of_offers (hproviders : t.database.providers = s.database.providers)
    (hoffers : t.database.offers = s.database.offers) : KeepsOnHand s t where
  providers := hproviders
  onHand k _ _ _ := by
    unfold Database.onHandAt
    rw [hoffers]

theorem refl (s : Session) : KeepsOnHand s s := .of_offers rfl rfl

theorem trans (h : KeepsOnHand s t) (h' : KeepsOnHand t u) : KeepsOnHand s u where
  providers := h'.providers.trans h.providers
  onHand k provider hp hk := (h'.onHand k provider (h.providers ▸ hp) hk).trans (h.onHand k provider hp hk)

end KeepsOnHand

section Routing
variable {environment : Environment} {router : ProviderRouter TransactionM} {command : HoldCommand}
  {candidate : InventoryProviderModel} {provider : HoldProvider TransactionM}

/-- Units on hand change at the providers whose availability is looked up, at most. -/
def OnHandBut (providerIds : List Uuid) (s t : Session) : Prop :=
  t.database.providers = s.database.providers ∧
    ∀ k, k.2 ∉ providerIds → t.database.onHandAt k = s.database.onHandAt k

variable {providerIds : List Uuid}

theorem OnHandBut.refl (s : Session) : OnHandBut providerIds s s := ⟨rfl, fun _ _ => rfl⟩

theorem OnHandBut.trans (s t u : Session) (h : OnHandBut providerIds s t) (h' : OnHandBut providerIds t u) :
    OnHandBut providerIds s u :=
  ⟨h'.1.trans h.1, fun k hk => (h'.2 k hk).trans (h.2 k hk)⟩

/-- An update of an offer, unless it changes the units on hand of a provider that is not among these. -/
theorem OnHandBut.updateOffer {statement : OfferStatement} {productId providerId : Uuid}
    (h : providerId ∈ providerIds ∨
      ∀ offer offer', statement.apply offer = some offer' → offer'.onHand = offer.onHand) :
    Relates (OnHandBut providerIds) (updateOffer statement productId providerId) := by
  intro s snapshot t ht
  rcases updateOffer_ok ht with ⟨-, rfl⟩ | ⟨offer, offer', offers, hf, happly, -, hoffers, rfl⟩
  · exact .refl t
  · refine ⟨rfl, fun k hk => ?_⟩
    unfold Database.onHandAt
    dsimp only
    rw [hoffers]
    by_cases hkey : k = (productId, providerId)
    · have hkeeps := h.resolve_left fun hlisted => hk (hkey ▸ hlisted)
      rw [if_pos hkey, hkey, hf, Option.map_some, Option.map_some, hkeeps offer offer' happly]
    · rw [if_neg hkey]

theorem OnHandBut.recordExchange (exchange : Exchange) :
    Relates (OnHandBut providerIds) (recordExchange exchange) := by
  intro s result t h
  cases h
  exact .refl s

theorem OnHandBut.availability (hp : holdProvider environment candidate = some provider)
    {command : AvailabilityCommand} : Relates (OnHandBut providerIds) (provider.availability command) := by
  unfold holdProvider at hp
  cases hk : candidate.kind with
  | internal =>
    rw [hk] at hp
    cases hp
    refine Relates.bind OnHandBut.trans (fun s a t h => ?_) fun _ => Relates.pure OnHandBut.refl _
    cases h
    exact .refl s
  | external =>
    rw [hk] at hp
    obtain ⟨-, ⟨⟩⟩ := Option.ite_none_right_eq_some.mp hp
    refine Relates.bind OnHandBut.trans (OnHandBut.recordExchange _) fun _ => ?_
    split
    · exact Relates.pure OnHandBut.refl _
    · exact Relates.throw _

theorem OnHandBut.hold (hp : holdProvider environment candidate = some provider) :
    Relates (OnHandBut providerIds) (provider.hold command) := by
  unfold holdProvider at hp
  cases hk : candidate.kind with
  | internal =>
    rw [hk] at hp
    cases hp
    refine Relates.bind OnHandBut.trans (OnHandBut.updateOffer (Or.inr ?_)) fun snapshot => ?_
    · intro offer offer' happly
      obtain ⟨-, he⟩ := Option.ite_none_right_eq_some.mp happly
      cases he
      rfl
    · cases snapshot <;> exact Relates.pure OnHandBut.refl _
  | external =>
    rw [hk] at hp
    obtain ⟨-, ⟨⟩⟩ := Option.ite_none_right_eq_some.mp hp
    refine Relates.bind OnHandBut.trans (OnHandBut.recordExchange _) fun _ => ?_
    split
    · exact Relates.pure OnHandBut.refl _
    · exact Relates.throw _

theorem OnHandBut.checkAvailability (hp : holdProvider environment candidate = some provider)
    (hobserver : router.availabilityObserver = some (observeAvailability command.productId)) :
    Relates (OnHandBut router.availabilityProviderIds) (router.checkAvailability provider command) := by
  unfold ProviderRouter.checkAvailability
  refine Relates.ite (fun hlisted => ?_) fun _ => Relates.pure OnHandBut.refl _
  rw [hobserver]
  refine Relates.bind OnHandBut.trans (OnHandBut.availability hp) fun attempt =>
    Relates.bind OnHandBut.trans ?_ fun _ => Relates.pure OnHandBut.refl _
  unfold observeAvailability
  split
  · exact Relates.bind OnHandBut.trans (OnHandBut.updateOffer (Or.inl hlisted)) fun _ =>
      Relates.pure OnHandBut.refl _
  · exact Relates.pure OnHandBut.refl _

theorem OnHandBut.holdAmong {providers : List (HoldProvider TransactionM)}
    (hadapts : ∀ provider ∈ providers, ∃ candidate, holdProvider environment candidate = some provider)
    (hobserver : router.availabilityObserver = some (observeAvailability command.productId)) :
    Relates (OnHandBut router.availabilityProviderIds) (router.holdAmong command providers) := by
  induction providers with
  | nil => exact Relates.pure OnHandBut.refl none
  | cons provider rest ih =>
    obtain ⟨candidate, hp⟩ := hadapts provider List.mem_cons_self
    have hrest := ih fun other ho => hadapts other (List.mem_cons_of_mem _ ho)
    refine Relates.bind OnHandBut.trans (OnHandBut.checkAvailability hp hobserver) fun skipped => ?_
    refine Relates.ite (fun _ => hrest) fun _ => ?_
    refine Relates.bind OnHandBut.trans (OnHandBut.hold hp) fun attempt => ?_
    cases attempt.outcome with
    | held => exact Relates.pure OnHandBut.refl _
    | outOfStock => exact hrest
    | temporarilyUnavailable => exact hrest
    | unknown => exact Relates.throw _

/-- Only external providers are looked up. -/
theorem KeepsOnHand.tryHoldSelected {productId providerId : Uuid} {quantity : ℤ} {key : ProviderKey} :
    Relates KeepsOnHand (tryHoldSelected environment productId providerId quantity key) := by
  intro s hold t h
  rw [tryHoldSelected_eq, readDatabase_bind] at h
  have hadapts : ∀ provider ∈ (s.database.holdRouter environment productId providerId).providers,
      ∃ candidate, holdProvider environment candidate = some provider := by
    intro provider hmem
    obtain ⟨candidate, -, hp⟩ := exists_candidate hmem
    exact ⟨candidate, hp⟩
  have honHand : OnHandBut _ s t := OnHandBut.holdAmong hadapts rfl s hold t h
  refine ⟨honHand.1, fun k provider hp hk => honHand.2 k fun hlisted => ?_⟩
  obtain ⟨c, hc, hlisted⟩ := List.mem_filterMap.mp hlisted
  obtain ⟨⟨hexternal, -⟩, hid⟩ := Option.ite_none_right_eq_some.mp hlisted
  have hstored := mem_holdCandidates (mem_configured.mp hc).1
  rw [Option.some.inj hid, hp] at hstored
  rw [Option.some.inj hstored] at hk
  cases hk.symm.trans hexternal

end Routing

section Creating
variable {environment : Environment} {s t u : Session}

theorem KeepsOnHand.releaseReservation {reservation : ReservationModel}
    {terminalStatus : ReservationStatusModel} :
    Relates KeepsOnHand (releaseReservation environment reservation terminalStatus none) := by
  intro s result t h
  obtain ⟨heffect, -⟩ := releaseReservation_ok rfl rfl h
  obtain ⟨rows, -, hpass⟩ := heffect.walk
  refine ⟨hpass.providers, fun k _ _ _ => ?_⟩
  unfold Database.onHandAt
  rw [hpass.offers, Option.map_map]
  rfl

theorem KeepsOnHand.holdItems {reservation : ReservationModel} {items : List ReservationItemModel} :
    Relates KeepsOnHand (holdItems environment reservation items) := by
  have htrans : ∀ s t u, KeepsOnHand s t → KeepsOnHand t u → KeepsOnHand s u := fun _ _ _ => .trans
  induction items with
  | nil => exact Relates.pure .refl true
  | cons item items ih =>
    refine Relates.bind htrans KeepsOnHand.tryHoldSelected fun hold => ?_
    cases hold with
    | none =>
      refine Relates.bind htrans (fun s result t h => ?_) fun _ =>
        Relates.bind htrans KeepsOnHand.releaseReservation fun _ => Relates.pure .refl false
      cases h
      exact .of_offers rfl rfl
    | some hold =>
      refine Relates.bind htrans (fun s result t h => ?_) fun _ => ih
      obtain ⟨allocation, allocations, generated, -, -, -, -, -, rfl⟩ := insertAllocation_ok h
      exact .of_offers rfl rfl

theorem KeepsOnHand.addWithHold {reservation : Reservation} :
    Relates KeepsOnHand (addWithHold environment reservation) := by
  have htrans : ∀ s t u, KeepsOnHand s t → KeepsOnHand t u → KeepsOnHand s u := fun _ _ _ => .trans
  refine Relates.bind htrans (fun s models t h => ?_) fun _ => KeepsOnHand.holdItems
  have htables := (addReservation_ok h).tables
  refine .of_offers ?_ ?_
  · rw [htables]
  · rw [htables]

end Creating

/-! ## Units of one reservation -/

section Units
variable {environment : Environment} {done : List ReservationItemModel} {s t u : Session} {r : Uuid}
  {k : Uuid × Uuid} {provider : InventoryProviderModel}

/-- Holding items reserves their units at internal offers. -/
theorem HoldPhase.reservedAt (h : HoldPhase done s u)
    (hdone : ∀ item ∈ done, item ∈ s.database.items ∧ item.reservationId = r)
    (hfree : s.database.allocationRows r = []) (hp : s.database.providers.find? k.2 = some provider)
    (hk : provider.kind = .internal) :
    u.database.reservedAt k = s.database.reservedAt k + u.database.allocatedAt r k := by
  obtain ⟨news, hrows, hmap, hheld⟩ := h.allocated
  have hconserves := h.conserves.internal k provider hp hk
  have hunits : u.database.unitsHeld k = s.database.unitsHeld k :=
    funext fun _ => Database.unitsHeld_congr (by rw [h.items]) k
  have hheldAt : u.database.heldAt k = s.database.heldAt k + (news.map (s.database.unitsHeld k)).sum := by
    unfold Database.heldAt Table.total
    rw [hunits, hrows, List.map_append, List.sum_append]
  have hold : ∀ allocation ∈ s.database.allocations.rows, s.database.joinAllocation r allocation = none := by
    unfold Database.allocationRows at hfree
    exact List.filterMap_eq_nil_iff.mp hfree
  have hnews : ∀ allocation ∈ news, ((s.database.joinAllocation r allocation).map fun row =>
      if k = (row.productId, row.allocation.providerId) then row.allocation.quantity.units else 0).getD 0 =
        s.database.unitsHeld k allocation := by
    intro allocation ha
    obtain ⟨item, hi, hid⟩ := heldItem hmap ha
    obtain ⟨hstatus, hknown⟩ := hheld allocation ha
    obtain ⟨provider', hp'⟩ := Option.isSome_iff_exists.mp hknown
    have hfound : s.database.items.find? allocation.reservationItemId = some item :=
      hid ▸ Table.find?_of_mem (hdone item hi).1
    rw [Database.joinAllocation_eq_some_iff.mpr ⟨item, provider', hfound, hp', (hdone item hi).2, rfl⟩,
      Option.map_some, Option.getD_some]
    have hholds : s.database.holdsAt k allocation ↔
        allocation.status = .held ∧ k = (item.productId, allocation.providerId) :=
      Database.holdsAt_iff hfound k allocation.status
    exact if_congr (hholds.trans ⟨fun h => h.2, fun h => ⟨hstatus, h⟩⟩).symm rfl rfl
  have hallocated : u.database.allocatedAt r k = (news.map (s.database.unitsHeld k)).sum := by
    unfold Database.allocatedAt Database.allocationRows
    rw [h.joinAllocation, Table.total_filterMap, Table.total, hrows, List.map_append, List.sum_append,
      List.map_congr_left hnews]
    have hzero : (s.database.allocations.rows.map fun allocation =>
        ((s.database.joinAllocation r allocation).map fun row =>
          if k = (row.productId, row.allocation.providerId) then row.allocation.quantity.units
          else 0).getD 0).sum = 0 := by
      apply List.sum_eq_zero
      intro units hu
      obtain ⟨allocation, ha, rfl⟩ := List.mem_map.mp hu
      rw [hold allocation ha]
      rfl
    rw [hzero, zero_add]
  omega

/-- A compensating walk draws the units of internal offers that were held. -/
theorem releasing_drawn {database : Database} {rows : List AllocationRow}
    (hrows : rows.Perm (database.allocationRows r))
    (hheld : ∀ row ∈ database.allocationRows r, row.allocation.status = .held)
    (hp : database.providers.find? k.2 = some provider) (hk : provider.kind = .internal) :
    releasing.drawn k rows = database.allocatedAt r k := by
  unfold Settlement.drawn Database.allocatedAt
  rw [(hrows.map _).sum_eq]
  congr 1
  apply List.map_congr_left
  intro row hrow
  refine if_congr ⟨fun h => h.2, fun hkk => ⟨⟨fun hpasses => ?_, ?_⟩, hkk⟩⟩ rfl rfl
  · unfold Settlement.passes at hpasses
    rw [hheld row hrow] at hpasses
    cases hpasses
  · obtain ⟨-, hj⟩ := Database.mem_allocationRows.mp hrow
    obtain ⟨item, provider', -, hp', -, heq⟩ := Database.joinAllocation_eq_some_iff.mp hj
    rw [hkk] at hp
    have hprovider : provider' = provider := Option.some.inj (hp'.symm.trans hp)
    rw [heq, hprovider]
    exact hk

end Units

/-- Stock read off an offer. -/
theorem Reserves.of_stock {s t : Database} {units : Uuid × Uuid → ℤ}
    (honHand : ∀ k provider, s.providers.find? k.2 = some provider → provider.kind = .internal →
      t.onHandAt k = s.onHandAt k)
    (hreserved : ∀ k provider, s.providers.find? k.2 = some provider → provider.kind = .internal →
      t.reservedAt k = s.reservedAt k + units k) : Reserves units s t := by
  intro k provider offer hp hk ho
  have honHandAt := honHand k provider hp hk
  have hreservedAt := hreserved k provider hp hk
  unfold Database.onHandAt at honHandAt
  unfold Database.reservedAt at hreservedAt
  rw [ho, Option.map_some] at honHandAt
  obtain ⟨offer', ho', hunits⟩ := Option.map_eq_some_iff.mp honHandAt
  rw [ho, ho', Option.map_some, Option.map_some, Option.getD_some, Option.getD_some] at hreservedAt
  exact ⟨offer', ho', hunits, hreservedAt⟩

/-! ## Creates -/

section Creates
variable {environment : Environment} {reservation : Reservation} {database : Database} {t : Session}

theorem addWithHold_held (hwf : database.WellFormed) (hpending : reservation.status = .pending)
    (h : addWithHold environment reservation (.start database) = .ok true t) :
    WhollyHeld reservation database t.database := by
  have hcreation := addWithHold_ok hwf rfl h
  have hkeeps := KeepsOnHand.addWithHold _ _ _ h
  rw [addWithHold] at h
  obtain ⟨models, v, hv, h⟩ := bind_ok_iff.mp h
  have hstored := addReservation_ok hv
  have howned : ∀ item ∈ models, item ∈ v.database.items ∧ item.reservationId = reservation.id :=
    fun item hi => ⟨(Table.mem_of_append hstored.items item).mpr (Or.inr hi), hstored.owner item hi⟩
  rcases holdItems_ok (fun item hi => (howned item hi).1) h with ⟨-, hphase⟩ | ⟨⟨⟩, -⟩
  obtain ⟨aggregate, hagg, hcreated⟩ := hcreation.aggregate
  cases hcreated with
  | held aggregate hopened =>
    obtain ⟨hfound, hitems, hviews, -⟩ := Database.aggregate?_eq_some_iff.mp hagg
    constructor
    · refine ⟨_, hfound, ?_⟩
      rw [hopened.status, hpending]
      rfl
    · rw [← hitems]
      exact hopened.items
    · intro item hi
      have hcovered : aggregate.Covered := hopened.covers
      obtain ⟨view, hview, hid, hquantity, hunique⟩ := hcovered.unique hcreation.wellFormed hagg (hitems ▸ hi)
      refine ⟨view.allocation, ?_, hid, hopened.held view hview, hquantity, hunique⟩
      rw [hviews] at hview
      obtain ⟨row, hrow, rfl⟩ := List.mem_map.mp hview
      exact (Database.mem_allocationRows.mp hrow).1
    · refine .of_stock hkeeps.onHand fun k provider hp hk => ?_
      have hfree : v.database.allocationRows reservation.id = [] := by
        rw [hstored.allocationRows hwf]
        exact hwf.allocationRows_of_none hstored.free
      rw [hphase.reservedAt howned hfree (hstored.providers ▸ hp) hk]
      unfold Database.reservedAt
      rw [hstored.tables]
      rfl
    · exact hstored.sparesOthers.trans hwf (hphase.sparesOthers howned) hphase.items hphase.orders

/-- The requests of a compensation are all answered released, or some outcome of its walk is another. -/
theorem released_iff_flags {calls : List Exchange} {views : List AllocationView}
    (hfresh : ∀ view ∈ views, ∀ kind, view.operation kind = none)
    (hreplies : ∀ reply, (∃ view ∈ views, releasing.asks (.request reservation.id) view ∧
        releasing.reply environment (.request reservation.id) view = reply) ↔
      ∃ providerId command, .release providerId command reply ∈ calls) :
    (∀ call ∈ calls, call.IsReleased) ↔
      (releasing.flags environment (.request reservation.id) views).pending = false := by
  rw [← Bool.not_eq_true, releasing_flags_pending]
  constructor
  · rintro hreleased ⟨view, hview, hne⟩
    rcases Settlement.outcome_ne_settled hne with ⟨hasks, houtcome⟩ | ⟨⟨-, -, operation, ho, -⟩, -⟩
    · obtain ⟨providerId, command, hcall⟩ := (hreplies _).mp ⟨view, hview, hasks, rfl⟩
      have hreply : releasing.reply environment (.request reservation.id) view = .attempt .released :=
        hreleased _ hcall
      refine hne (houtcome.trans ?_)
      unfold Settlement.answer
      rw [hreply]
    · rw [hfresh view hview] at ho
      cases ho
  · intro hsettled call hcall
    cases call with
    | release providerId command reply =>
      obtain ⟨view, hview, hasks, hreply⟩ := (hreplies reply).mpr ⟨providerId, command, hcall⟩
      have houtcome : releasing.outcome environment (.request reservation.id) view = .released := by
        by_contra hne
        exact hsettled ⟨view, hview, hne⟩
      rw [Settlement.outcome_of_asks hasks] at houtcome
      unfold Settlement.answer at houtcome
      rw [hreply] at houtcome
      cases reply with
      | attempt outcome => exact congrArg OperationReply.attempt houtcome
      | raised => cases houtcome
    | availability providerId command reply => trivial
    | hold providerId command reply => trivial
    | confirm providerId command reply => trivial

/-- The status a compensation leaves. -/
theorem Creation.released_status (h : Creation environment reservation false (.start database) t) :
    ∃ row, t.database.reservations.find? reservation.id = some row ∧
      (row.status, row.releaseTargetStatus) =
        if ∀ call ∈ t.exchanges.map Prod.snd, call.IsReleased then (.failed, none)
        else (.releasing, some .failed) := by
  obtain ⟨aggregate, hagg, hcreated⟩ := h.aggregate
  cases hcreated with
  | compensated before aggregate done hdone hopened hreleased hreplies =>
    refine ⟨_, (Database.aggregate?_eq_some_iff.mp hagg).1, ?_⟩
    have hflags := released_iff_flags hopened.fresh hreplies
    rw [hreleased.status]
    unfold PassFlags.releasedStatus
    split_ifs with hpending hcalls hcalls
    · rw [hflags.mp hcalls] at hpending
      cases hpending
    · rfl
    · rfl
    · exact absurd (hflags.mpr (Bool.eq_false_iff.mpr hpending)) hcalls

theorem addWithHold_released (hwf : database.WellFormed)
    (h : addWithHold environment reservation (.start database) = .ok false t) :
    WhollyReleased reservation database t.database (t.exchanges.map Prod.snd) := by
  have hcreation := addWithHold_ok hwf rfl h
  have hkeeps := KeepsOnHand.addWithHold _ _ _ h
  rw [addWithHold] at h
  obtain ⟨models, v, hv, h⟩ := bind_ok_iff.mp h
  have hstored := addReservation_ok hv
  have howned : ∀ item ∈ models, item ∈ v.database.items ∧ item.reservationId = reservation.id :=
    fun item hi => ⟨(Table.mem_of_append hstored.items item).mpr (Or.inr hi), hstored.owner item hi⟩
  rcases holdItems_ok (fun item hi => (howned item hi).1) h with ⟨⟨⟩, -⟩ | ⟨-, done, u, hpart, hphase, hcompensated⟩
  have howned' : ∀ item ∈ done, item ∈ v.database.items ∧ item.reservationId = reservation.id :=
    fun item hi => howned item (hpart.subset hi)
  have hfree : v.database.allocationRows reservation.id = [] := by
    rw [hstored.allocationRows hwf]
    exact hwf.allocationRows_of_none hstored.free
  obtain ⟨hwalk, horders, -⟩ := hcompensated.walkEffect
  obtain ⟨rows, hperm, hpass⟩ := hwalk.walk
  have hheld : ∀ row ∈ u.database.allocationRows reservation.id, row.allocation.status = .held := by
    intro row hrow
    obtain ⟨news, hrows, -, hnews⟩ := (hphase.allocationRows howned').1
    rw [hrows, hfree, List.nil_append] at hrow
    exact (hnews row hrow).1
  have hlines : t.database.orderItems = database.orderItems := by
    obtain ⟨w, result, hrelease, -, hdatabase, -⟩ := hcompensated.release
    rw [releaseReservation_orderItems hrelease, hdatabase, hphase.tables, hstored.tables]
    rfl
  have hrows : ∀ row ∈ t.database.allocationRows reservation.id,
      ∃ before ∈ u.database.allocationRows reservation.id,
        row = { before with allocation := { before.allocation with
          status := releasing.allocationStatus (releasing.outcome environment (.request reservation.id)
            (u.database.view reservation.id before)) } } := by
    intro row hrow
    rw [hpass.allocationRows] at hrow
    obtain ⟨before, hbefore, rfl⟩ := List.mem_map.mp hrow
    exact ⟨before, hbefore, by rw [Settlement.relabel_of_mem hperm hbefore]; rfl⟩
  obtain ⟨held, hagg, -, hopened⟩ := hphase.opened (hstored.wellFormed hwf) howned' hstored.models
    (hstored.aggregate_self hwf)
  have hviews : held.allocations = u.database.allocationViews reservation.id :=
    (Database.aggregate?_eq_some_iff.mp hagg).2.2.1
  constructor
  · refine .of_stock hkeeps.onHand fun k provider hp hk => ?_
    have hpv : v.database.providers.find? k.2 = some provider := hstored.providers ▸ hp
    have hpu : u.database.providers.find? k.2 = some provider := hphase.conserves.providers ▸ hpv
    have hreserved := hphase.reservedAt howned' hfree hpv hk
    have hdrawn : releasing.drawn k rows = u.database.allocatedAt reservation.id k :=
      releasing_drawn hperm hheld hpu hk
    have hbefore : v.database.reservedAt k = database.reservedAt k := by
      unfold Database.reservedAt
      rw [hstored.tables]
      rfl
    rw [hpass.reservedAt, hdrawn, hreserved, hbefore]
    omega
  · intro row hrow hinternal
    obtain ⟨before, -, rfl⟩ := hrows row hrow
    dsimp only
    rw [Settlement.outcome_of_internal hinternal]
    rfl
  · intro row hrow hexternal
    obtain ⟨before, hbefore, rfl⟩ := hrows row hrow
    have hview : u.database.view reservation.id before ∈ held.allocations := by
      rw [hviews]
      exact List.mem_map_of_mem hbefore
    have hasks : releasing.asks (.request reservation.id) (u.database.view reservation.id before) := by
      refine ⟨fun hpasses => ?_, hexternal, fun operation ho => ?_⟩
      · cases (hheld before hbefore).symm.trans hpasses
      · cases (hopened.fresh _ hview _).symm.trans ho
    obtain ⟨-, called, hcalled⟩ := hpass.asked before (hperm.mem_iff.mpr hbefore) hasks
    exact ⟨_, _, List.mem_map_of_mem hcalled⟩
  · exact hcreation.released_status
  · refine (hstored.sparesOthers.trans hwf (hphase.sparesOthers howned') hphase.items hphase.orders).trans hwf
      (hwalk.sparesOthers ⟨[], ?_, fun line hl => absurd hl List.not_mem_nil⟩) hpass.items horders
    rw [hlines, hphase.tables, hstored.tables, List.append_nil]
    rfl

end Creates

/-- For every well-formed database, pending reservation and replies, whatever the create returned. -/
theorem add_with_hold_all_or_nothing {environment : Environment} {reservation : Reservation}
    {database : Database} {held : Bool} {t : Session} (hwf : database.WellFormed)
    (hpending : reservation.status = .pending)
    (h : addWithHold environment reservation (.start database) = .ok held t) :
    if held then WhollyHeld reservation database t.database
    else WhollyReleased reservation database t.database (t.exchanges.map Prod.snd) := by
  cases held with
  | true => exact addWithHold_held hwf hpending h
  | false => exact addWithHold_released hwf h

namespace Deployment

/-- Two units at the internal provider, one at the external one. -/
def pendingItems : List ReservationItem := [line 1 10 2 two_units, line 2 20 1 one_unit]

theorem pendingItems_ne_nil : pendingItems ≠ [] := List.cons_ne_nil _ _

def pendingReservation : Reservation where
  id := 100
  userId := 7
  items := pendingItems
  idempotencyKey := "key"
  requestFingerprint := sha256 ""
  createdAt := 0
  expiresAt := 900
  status := .pending
  releaseTargetStatus := none
  items_ne_nil := pendingItems_ne_nil
  createdAt_lt := lasts

/-- The external provider is out of stock. -/
def soldOut : Environment := (outOfStock (create 1000 100 0 [] "key")).environment

end Deployment

open Deployment in
/-- The second item is refused, and the two units held for the first are given back. -/
theorem refused_create_restores : ∃ t,
    addWithHold soldOut pendingReservation (.start database) = .ok false t ∧
      WhollyReleased pendingReservation database t.database (t.exchanges.map Prod.snd) := by
  have hrefused : outcome (addWithHold soldOut pendingReservation (.start database)) = .ok false := by
    decide +kernel
  obtain ⟨t, h⟩ := exists_ok_of_outcome hrefused
  exact ⟨t, h, add_with_hold_all_or_nothing (.of_initial initial) rfl h⟩

end InventoryReservation
