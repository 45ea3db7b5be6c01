import InventoryReservation.Foundations.Replaying
import InventoryReservation.Guarantees.NoOversell
import InventoryReservation.System.Deployment
import InventoryReservation.Meaning.Commit

/-! # The writes of an offer

What a transaction makes of the row of an offer is what a sequence of the statements of `OfferWrite` makes
of it. Which statements these can be depends on the request and on the kind of the provider: the units of an
internal offer are held, confirmed and released, those of an external offer are only observed.
-/

namespace InventoryReservation
set_option autoImplicit false

open Relational Transactional Replaying

/-- The provider of the offer is of this kind. -/
def ProviderOf (providers : Table InventoryProviderModel.id) (kind : ProviderKind) (k : OfferKey) : Prop :=
  ∃ provider, providers.find? k.2 = some provider ∧ provider.kind = kind

namespace OfferWrite

/-- The statements that may be made of an offer, by the kind of its provider. -/
def Permitted (providers : Table InventoryProviderModel.id) (k : OfferKey) : OfferWrite → Prop
  | tryHold quantity => 0 < quantity ∧ ProviderOf providers .internal k
  | confirmHold quantity => 0 < quantity ∧ ProviderOf providers .internal k
  | releaseHold quantity => 0 < quantity ∧ ProviderOf providers .internal k
  | observe availableQuantity _ => 0 ≤ availableQuantity ∧ ProviderOf providers .external k
  | setLevel onHand allocationPriority _ => 0 ≤ onHand ∧ 0 ≤ allocationPriority
  | removeLevel => True

/-- Such statements keep within the bounds that the guards rely on. -/
theorem Permitted.bounded {providers : Table InventoryProviderModel.id} {k : OfferKey} {write : OfferWrite}
    (h : write.Permitted providers k) : write.Bounded := by
  cases write with
  | tryHold quantity => exact h.1
  | confirmHold quantity => exact h.1
  | releaseHold quantity => exact h.1
  | observe availableQuantity observedAt => exact h.1
  | setLevel onHand allocationPriority routingGroup => exact h.1
  | removeLevel => trivial

theorem Permitted.prioritized {providers : Table InventoryProviderModel.id} {k : OfferKey} {write : OfferWrite}
    (h : write.Permitted providers k) : write.Prioritized := by
  cases write with
  | setLevel onHand allocationPriority routingGroup => exact h.2
  | tryHold quantity => trivial
  | confirmHold quantity => trivial
  | releaseHold quantity => trivial
  | observe availableQuantity observedAt => trivial
  | removeLevel => trivial

/-- The statements of a create, its compensation included. -/
def Opens : OfferWrite → Prop
  | tryHold _ => True
  | releaseHold _ => True
  | observe _ _ => True
  | _ => False

/-- The statement of a walk of this kind. -/
def Settles : SettlementKind → OfferWrite → Prop
  | .confirm, confirmHold _ => True
  | .release, releaseHold _ => True
  | _, _ => False

end OfferWrite

/-- The statements that a request can make of the offer `k`. -/
def Request.Writes (k : OfferKey) (write : OfferWrite) : Request → Prop
  | .create _ _ _ => write.Opens
  | .confirm _ _ => write.Settles .confirm
  | .cancel _ _ => write.Settles .release
  | .expireBatch _ => write.Settles .release
  | .reconcileBatch _ _ _ => ∃ kind, write.Settles kind
  | .setLevel productId providerId onHand allocationPriority routingGroup =>
    k = (productId, providerId) ∧ write = .setLevel onHand allocationPriority routingGroup
  | .removeLevel productId providerId => k = (productId, providerId) ∧ write = .removeLevel

/-- Statements with the property lead from the offer `k` of one database to that of the other. -/
structure Rewrites (ok : OfferWrite → Prop) (k : OfferKey) (s t : Database) : Prop where
  products : t.products = s.products
  providers : t.providers = s.providers
  history : History (fun write => write.effect k) ok (s.offers.find? k) (t.offers.find? k)

namespace Rewrites
variable {ok ok' : OfferWrite → Prop} {k : OfferKey} {s t u : Database}

theorem of_same (hproducts : t.products = s.products) (hproviders : t.providers = s.providers)
    (hoffers : t.offers.find? k = s.offers.find? k) : Rewrites ok k s t where
  products := hproducts
  providers := hproviders
  history := hoffers ▸ .refl _

theorem refl (s : Database) : Rewrites ok k s s := of_same rfl rfl rfl

theorem trans (h : Rewrites ok k s t) (h' : Rewrites ok k t u) : Rewrites ok k s u where
  products := h'.products.trans h.products
  providers := h'.providers.trans h.providers
  history := h.history.trans h'.history

theorem mono (h : Rewrites ok k s t) (himp : ∀ write, ok write → ok' write) : Rewrites ok' k s t where
  products := h.products
  providers := h.providers
  history := h.history.mono himp

/-- An update of one offer. -/
theorem of_update {statement : OfferStatement} (write : OfferWrite) {productId providerId : Uuid} {s t : Session}
    {snapshot : Option InventorySnapshot}
    (heffect : ∀ row, write.effect (productId, providerId) row = (row.bind statement.apply).map some)
    (hok : k = (productId, providerId) → ok write)
    (h : updateOffer statement productId providerId s = .ok snapshot t) :
    Rewrites ok k s.database t.database := by
  rcases updateOffer_ok h with ⟨-, rfl⟩ | ⟨offer, offer', offers, hf, ha, -, hoffers, rfl⟩
  · exact .refl _
  · refine ⟨rfl, rfl, ?_⟩
    change History _ _ _ (offers.find? k)
    by_cases hk : k = (productId, providerId)
    · rw [hoffers, if_pos hk]
      refine .single (hok hk) ?_
      rw [hk, heffect, hf, Option.bind_some, ha]
      rfl
    · rw [hoffers, if_neg hk]
      exact .refl _

end Rewrites

/-- The statements of a create that are permitted of the offer. -/
def OfferWrite.Routes (providers : Table InventoryProviderModel.id) (k : OfferKey) (write : OfferWrite) : Prop :=
  write.Permitted providers k ∧ write.Opens

/-! ## Routing a hold -/

section Routing
variable {environment : Environment} {providers : Table InventoryProviderModel.id} {k : OfferKey}

/-- The link between the two ends of a run of a session. -/
abbrev RewritesOf (ok : OfferWrite → Prop) (k : OfferKey) (s t : Session) : Prop :=
  Rewrites ok k s.database t.database

theorem rewrites_pure {ok : OfferWrite → Prop} {α : Type} (a : α) :
    Relates (RewritesOf ok k) (pure a : TransactionM α) :=
  Relates.pure (fun s => Rewrites.refl s.database) a

theorem rewrites_bind {ok : OfferWrite → Prop} {α β : Type} {x : TransactionM α} {f : α → TransactionM β}
    (hx : Relates (RewritesOf ok k) x) (hf : ∀ a, Relates (RewritesOf ok k) (f a)) :
    Relates (RewritesOf ok k) (x >>= f) :=
  Relates.bind (R := RewritesOf ok k) (fun _ _ _ => Rewrites.trans) hx hf

theorem availability_rewrites {ok : OfferWrite → Prop} {candidate : InventoryProviderModel}
    {provider : HoldProvider TransactionM} (hp : holdProvider environment candidate = some provider)
    (command : AvailabilityCommand) : Relates (RewritesOf ok k) (provider.availability command) := by
  unfold holdProvider at hp
  cases hk : candidate.kind with
  | internal =>
    rw [hk] at hp
    cases hp
    exact rewrites_bind (fun s a t h => by cases h; exact .refl _) fun _ => rewrites_pure _
  | external =>
    rw [hk] at hp
    obtain ⟨-, ⟨⟩⟩ := Option.ite_none_right_eq_some.mp hp
    refine rewrites_bind (fun s a t h => by cases h; exact .refl _) fun _ => ?_
    cases (environment.availability candidate.id command).attempt with
    | none => exact Relates.throw _
    | some attempt => exact rewrites_pure _

/-- An internal provider takes the units off its offer. -/
theorem hold_rewrites {candidate : InventoryProviderModel} {provider : HoldProvider TransactionM}
    (hp : holdProvider environment candidate = some provider)
    (hstored : providers.find? candidate.id = some candidate) {command : HoldCommand}
    (hquantity : 0 < command.quantity) :
    Relates (RewritesOf (OfferWrite.Routes providers k) k) (provider.hold command) := by
  unfold holdProvider at hp
  cases hk : candidate.kind with
  | internal =>
    rw [hk] at hp
    cases hp
    refine rewrites_bind (fun s snapshot t h => ?_) fun snapshot => ?_
    · refine .of_update (.tryHold command.quantity) (fun _ => rfl) (fun hkey => ?_) h
      exact ⟨⟨hquantity, candidate, hkey ▸ hstored, hk⟩, trivial⟩
    · cases snapshot <;> exact rewrites_pure _
  | external =>
    rw [hk] at hp
    obtain ⟨-, ⟨⟩⟩ := Option.ite_none_right_eq_some.mp hp
    refine rewrites_bind (fun s a t h => by cases h; exact .refl _) fun _ => ?_
    cases (environment.hold candidate.id command).attempt with
    | none => exact Relates.throw _
    | some attempt => exact rewrites_pure _

/-- The response schema of external providers has no negative quantities. -/
theorem availability_nonneg {candidate : InventoryProviderModel} {provider : HoldProvider TransactionM}
    (hp : holdProvider environment candidate = some provider) (hk : candidate.kind = .external)
    {command : AvailabilityCommand} {s t : Session} {attempt : ProviderAvailabilityAttempt}
    (h : provider.availability command s = .ok attempt t) :
    ∀ availableQuantity ∈ attempt.availableQuantity, 0 ≤ availableQuantity := by
  unfold holdProvider at hp
  rw [hk] at hp
  obtain ⟨-, ⟨⟩⟩ := Option.ite_none_right_eq_some.mp hp
  rw [externalProvider] at h
  dsimp only at h
  rw [recordExchange_bind] at h
  intro availableQuantity hq
  cases hr : environment.availability candidate.id command with
  | fresh quantity observedAt =>
    rw [hr] at h
    cases h
    exact Option.some.inj hq ▸ Int.natCast_nonneg quantity
  | stale quantity observedAt =>
    rw [hr] at h
    cases h
    exact Option.some.inj hq ▸ Int.natCast_nonneg quantity
  | temporarilyUnavailable =>
    rw [hr] at h
    cases h
    cases hq
  | raised =>
    rw [hr] at h
    cases h

theorem observeAvailability_rewrites {productId providerId : Uuid}
    (hexternal : ProviderOf providers .external (productId, providerId)) {attempt : ProviderAvailabilityAttempt}
    (hnonneg : ∀ availableQuantity ∈ attempt.availableQuantity, 0 ≤ availableQuantity) :
    Relates (RewritesOf (OfferWrite.Routes providers k) k) (observeAvailability productId providerId attempt) := by
  unfold observeAvailability
  split
  · next availableQuantity houtcome hq =>
    refine rewrites_bind (fun s snapshot t h => ?_) fun _ => rewrites_pure ()
    exact .of_update (.observe availableQuantity attempt.observedAt) (fun _ => rfl)
      (fun hkey => ⟨⟨hnonneg _ hq, hkey ▸ hexternal⟩, trivial⟩) h
  · exact rewrites_pure ()

/-- Only external providers are asked for their stock. -/
theorem holdAmong_rewrites {router : ProviderRouter TransactionM} {command : HoldCommand}
    (hquantity : 0 < command.quantity)
    (hobserver : router.availabilityObserver = some (observeAvailability command.productId))
    (hexternal : ∀ providerId ∈ router.availabilityProviderIds,
      ProviderOf providers .external (command.productId, providerId))
    {adapters : List (HoldProvider TransactionM)}
    (hadapters : ∀ provider ∈ adapters, ∃ candidate, holdProvider environment candidate = some provider ∧
      providers.find? candidate.id = some candidate) :
    Relates (RewritesOf (OfferWrite.Routes providers k) k) (router.holdAmong command adapters) := by
  induction adapters with
  | nil => exact rewrites_pure none
  | cons provider rest ih =>
    obtain ⟨candidate, hp, hstored⟩ := hadapters provider List.mem_cons_self
    have hrest := ih fun provider' hmem => hadapters provider' (List.mem_cons_of_mem _ hmem)
    have hcheck : Relates (RewritesOf (OfferWrite.Routes providers k) k)
        (router.checkAvailability provider command) := by
      unfold ProviderRouter.checkAvailability
      refine Relates.ite (fun hlisted => ?_) fun _ => rewrites_pure false
      rw [hobserver]
      have hkind : candidate.kind = .external := by
        obtain ⟨external, he, hk⟩ := hexternal _ hlisted
        rw [holdProvider_providerId hp] at he
        cases hstored.symm.trans he
        exact hk
      intro s skipped t h
      obtain ⟨attempt, u, hu, h⟩ := bind_ok_iff.mp h
      obtain ⟨_, v, hv, h⟩ := bind_ok_iff.mp h
      obtain ⟨-, rfl⟩ := pure_ok_iff.mp h
      exact (availability_rewrites hp _ s attempt u hu).trans
        (observeAvailability_rewrites (hexternal _ hlisted) (availability_nonneg hp hkind hu) _ _ _ hv)
    rw [ProviderRouter.holdAmong]
    refine rewrites_bind hcheck fun skipped => Relates.ite (fun _ => hrest) fun _ => ?_
    refine rewrites_bind (hold_rewrites hp hstored hquantity) fun attempt => ?_
    cases attempt.outcome with
    | held => exact rewrites_pure _
    | unknown => exact Relates.throw _
    | outOfStock => exact hrest
    | temporarilyUnavailable => exact hrest

theorem tryHoldSelected_rewrites {productId providerId : Uuid} {quantity : ℤ} {idempotencyKey : ProviderKey}
    (hquantity : 0 < quantity) {s t : Session} {hold : Option ProviderHold}
    (hs : s.database.providers = providers)
    (h : tryHoldSelected environment productId providerId quantity idempotencyKey s = .ok hold t) :
    RewritesOf (OfferWrite.Routes providers k) k s t := by
  rw [tryHoldSelected, readDatabase_bind] at h
  refine holdAmong_rewrites hquantity rfl ?_ (?_ : ∀ provider ∈ _, ∃ candidate,
    holdProvider environment candidate = some provider ∧ _) s hold t h
  · intro observed hlisted
    obtain ⟨⟨candidate, provider⟩, hc, hkind⟩ := List.mem_filterMap.mp hlisted
    obtain ⟨⟨hk, -⟩, ⟨⟩⟩ := Option.ite_none_right_eq_some.mp hkind
    exact ⟨candidate, hs ▸ mem_holdCandidates (mem_configured.mp hc).1, hk⟩
  · intro provider hmem
    obtain ⟨candidate, hc, hp⟩ := exists_candidate hmem
    exact ⟨candidate, hp, hs ▸ mem_holdCandidates hc⟩

end Routing

/-! ## Walks -/

section Walks
variable {environment : Environment} {providers : Table InventoryProviderModel.id} {k : OfferKey}

/-- The statements of a walk that are permitted of the offer. -/
def OfferWrite.SettlesAt (providers : Table InventoryProviderModel.id) (k : OfferKey) (kind : SettlementKind)
    (write : OfferWrite) : Prop :=
  write.Permitted providers k ∧ write.Settles kind

/-- The statement of the walk is one of the writes of an offer. -/
structure Settlement.Draws {ω : Type} (S : Settlement ω) (write : ℤ → OfferWrite) : Prop where
  effect : ∀ quantity k row, (write quantity).effect k row = (row.bind (S.statement quantity).apply).map some
  permitted : ∀ quantity k providers, 0 < quantity → ProviderOf providers .internal k →
    (write quantity).SettlesAt providers k S.kind

theorem confirmation_draws : confirmation.Draws .confirmHold where
  effect _ _ _ := rfl
  permitted _ _ _ hquantity hinternal := ⟨⟨hquantity, hinternal⟩, trivial⟩

theorem releasing_draws : releasing.Draws .releaseHold where
  effect _ _ _ := rfl
  permitted _ _ _ hquantity hinternal := ⟨⟨hquantity, hinternal⟩, trivial⟩

variable {ω : Type} [DecidableEq ω] {S : Settlement ω} {context : ProviderOperationContext}

theorem settleAllocation_rewrites (hS : S.Lawful) {write : ℤ → OfferWrite} (hdraws : S.Draws write)
    {row : AllocationRow} (hrow : providers.find? row.allocation.providerId = some row.provider) :
    Relates (RewritesOf (OfferWrite.SettlesAt providers k S.kind) k)
      (S.settleAllocation environment context row) := by
  intro s outcome t h
  by_cases hd : S.draws row
  · have hp : ¬ row.allocation.status = S.settledStatus := hd.1
    unfold Settlement.settleAllocation at h
    rw [if_neg hp, hd.2] at h
    obtain ⟨inventory, u, hu, h⟩ := bind_ok_iff.mp h
    cases inventory with
    | none => cases h
    | some _ =>
      obtain ⟨-, rfl⟩ := pure_ok_iff.mp h
      refine .of_update (write row.allocation.quantity.units) (hdraws.effect _ _) (fun hkey => ?_) hu
      exact hdraws.permitted _ _ _ row.allocation.quantity.positive ⟨row.provider, hkey ▸ hrow, hd.2⟩
  · have heffect := (Settlement.settleAllocation_ok hS h).2
    exact .of_same heffect.products heffect.providers ((heffect.offers k).trans (if_neg fun hat => hd hat.1))

theorem settleAllocations_rewrites (hS : S.Lawful) {write : ℤ → OfferWrite} (hdraws : S.Draws write)
    {rows : List AllocationRow}
    (hrows : ∀ row ∈ rows, providers.find? row.allocation.providerId = some row.provider) (flags : PassFlags) :
    Relates (RewritesOf (OfferWrite.SettlesAt providers k S.kind) k)
      (S.settleAllocations environment context rows flags) := by
  induction rows generalizing flags with
  | nil => exact rewrites_pure flags
  | cons row rows ih =>
    refine rewrites_bind (settleAllocation_rewrites hS hdraws (hrows row List.mem_cons_self)) fun outcome => ?_
    refine rewrites_bind (fun s a t h => ?_) fun _ => ih (fun row' hmem => hrows row' (List.mem_cons_of_mem _ hmem)) _
    cases h
    exact .of_same rfl rfl rfl

/-- The rows of a walk are joined with the providers of the database. -/
theorem Database.scanned_provider {database : Database} {reservationId : Uuid} {row : AllocationRow}
    (h : row ∈ database.scanAllocations environment reservationId) :
    database.providers.find? row.allocation.providerId = some row.provider := by
  have hrow := (database.scanAllocations_perm environment reservationId).mem_iff.mp h
  obtain ⟨-, hj⟩ := Database.mem_allocationRows.mp hrow
  obtain ⟨item, provider, -, hp, -, hjoined⟩ := Database.joinAllocation_eq_some_iff.mp hj
  rw [hjoined]
  exact hp

theorem releaseReservation_rewrites {reservation : ReservationModel} {terminalStatus : ReservationStatusModel}
    {context? : Option ProviderOperationContext} {s t : Session} {u : Unit}
    (hs : s.database.providers = providers)
    (h : releaseReservation environment reservation terminalStatus context? s = .ok u t) :
    RewritesOf (OfferWrite.SettlesAt providers k .release) k s t := by
  rw [releaseReservation, readDatabase_bind, writeReservation_bind] at h
  obtain ⟨flags, v, hv, h⟩ := bind_ok_iff.mp h
  obtain ⟨reservations, rfl, -⟩ := concludeRelease_ok h
  have hsettled := settleAllocations_rewrites (k := k) releasing_lawful releasing_draws
    (fun row hrow => hs ▸ Database.scanned_provider hrow) _ _ _ _ hv
  exact ⟨hsettled.products, hsettled.providers, hsettled.history⟩

theorem confirmReservation_rewrites {reservation : ReservationModel} {context : ProviderOperationContext}
    {s t : Session} {result : Option Reservation} (hs : s.database.providers = providers)
    (h : confirmReservation environment reservation context s = .ok result t) :
    RewritesOf (OfferWrite.SettlesAt providers k .confirm) k s t := by
  rw [confirmReservation, readDatabase_bind] at h
  obtain ⟨flags, v, hv, h⟩ := bind_ok_iff.mp h
  obtain ⟨_, w, hw, h⟩ := bind_ok_iff.mp h
  obtain ⟨⟨reservations, orders, orderItems, generated, rfl⟩, -, -⟩ := concludeConfirmation_ok hw
  cases getReservation_ok h
  have hsettled := settleAllocations_rewrites (k := k) confirmation_lawful confirmation_draws
    (fun row hrow => hs ▸ Database.scanned_provider hrow) _ _ _ _ hv
  exact ⟨hsettled.products, hsettled.providers, hsettled.history⟩

theorem Walk.run_rewrites {walk : Walk} {s t : Session} {u : Unit} (hs : s.database.providers = providers)
    (h : walk.run environment s = .ok u t) :
    RewritesOf (OfferWrite.SettlesAt providers k walk.pass.kind) k s t := by
  obtain ⟨reservation, pass⟩ := walk
  cases pass with
  | confirm context =>
    obtain ⟨result, v, hv, h⟩ := bind_ok_iff.mp h
    obtain ⟨-, rfl⟩ := pure_ok_iff.mp h
    exact confirmReservation_rewrites hs hv
  | release context terminalStatus => exact releaseReservation_rewrites hs h

theorem walks_rewrites {walks : List Walk} {s t : Session} {u : Unit} (hs : s.database.providers = providers)
    (h : forEach (Walk.run environment) walks s = .ok u t) :
    RewritesOf (fun write => ∃ walk ∈ walks, write.SettlesAt providers k walk.pass.kind) k s t := by
  induction walks generalizing s with
  | nil =>
    obtain ⟨-, rfl⟩ := pure_ok_iff.mp h
    exact .refl _
  | cons walk walks ih =>
    rw [forEach] at h
    obtain ⟨_, v, hv, h⟩ := bind_ok_iff.mp h
    have hfirst := Walk.run_rewrites (k := k) hs hv
    refine (hfirst.mono fun write hok => ?_).trans ((ih (hfirst.providers.trans hs) h).mono fun write hok => ?_)
    · exact ⟨walk, List.mem_cons_self, hok⟩
    · obtain ⟨walk', hmem, hok⟩ := hok
      exact ⟨walk', List.mem_cons_of_mem _ hmem, hok⟩

end Walks

/-! ## Creating -/

section Creating
variable {environment : Environment} {providers : Table InventoryProviderModel.id} {k : OfferKey}

/-- The compensation gives units back. -/
theorem OfferWrite.SettlesAt.routes {write : OfferWrite} (h : write.SettlesAt providers k .release) :
    write.Routes providers k := by
  obtain ⟨hpermitted, hsettles⟩ := h
  cases write with
  | releaseHold quantity => exact ⟨hpermitted, trivial⟩
  | tryHold quantity => cases hsettles
  | confirmHold quantity => cases hsettles
  | observe availableQuantity observedAt => cases hsettles
  | setLevel onHand allocationPriority routingGroup => cases hsettles
  | removeLevel => cases hsettles

theorem holdItems_rewrites {reservation : ReservationModel} {items : List ReservationItemModel} {held : Bool}
    {s t : Session} (hs : s.database.providers = providers)
    (h : holdItems environment reservation items s = .ok held t) :
    RewritesOf (OfferWrite.Routes providers k) k s t := by
  induction items generalizing s with
  | nil =>
    obtain ⟨-, rfl⟩ := pure_ok_iff.mp h
    exact .refl _
  | cons item items ih =>
    rw [holdItems] at h
    obtain ⟨hold, v, hv, h⟩ := bind_ok_iff.mp h
    have hrouted := tryHoldSelected_rewrites (k := k) item.requestedQuantity.positive hs hv
    have hproviders : v.database.providers = providers := hrouted.providers.trans hs
    cases hold with
    | none =>
      dsimp only at h
      rw [writeReservation_bind] at h
      obtain ⟨result, w, hw, h⟩ := bind_ok_iff.mp h
      obtain ⟨-, rfl⟩ := pure_ok_iff.mp h
      have hreleased := (releaseReservation_rewrites (k := k) (by exact hproviders) hw).mono
        fun _ => OfferWrite.SettlesAt.routes
      exact hrouted.trans ⟨hreleased.products, hreleased.providers, hreleased.history⟩
    | some hold =>
      dsimp only at h
      obtain ⟨_, w, hw, h⟩ := bind_ok_iff.mp h
      obtain ⟨allocation, allocations, generated, -, -, -, -, -, rfl⟩ := insertAllocation_ok hw
      have hrest := ih (by exact hproviders) h
      exact hrouted.trans ⟨hrest.products, hrest.providers, hrest.history⟩

theorem addWithHold_rewrites {reservation : Reservation} {held : Bool} {s t : Session}
    (hs : s.database.providers = providers) (h : addWithHold environment reservation s = .ok held t) :
    RewritesOf (OfferWrite.Routes providers k) k s t := by
  rw [addWithHold] at h
  obtain ⟨models, v, hv, h⟩ := bind_ok_iff.mp h
  have hstored := addReservation_ok hv
  have hsame : RewritesOf (OfferWrite.Routes providers k) k s v :=
    .of_same (by rw [hstored.tables]) hstored.providers (by rw [hstored.tables])
  exact hsame.trans (holdItems_rewrites (hstored.providers.trans hs) h)

end Creating

/-! ## Levels -/

section Levels
variable {k : OfferKey} {s t : Session}

/-- A query that returned has made its statement of the offer, or found nothing to change. -/
theorem OfferWrite.perform_rewrites {write : OfferWrite} {at_ : OfferKey} {ok : OfferWrite → Prop}
    (hok : k = at_ → ok write) (h : write.perform at_ s = .ok () t) : RewritesOf ok k s t := by
  have hperformed := write.performed at_ s
  rw [h] at hperformed
  cases hperformed with
  | returned offers hrow hothers =>
    refine ⟨rfl, rfl, ?_⟩
    change History _ _ _ (offers.find? k)
    by_cases hk : k = at_
    · subst hk
      rw [hrow]
      cases he : write.effect k (s.database.offers.find? k) with
      | none => exact .refl _
      | some row => exact .single (hok rfl) he
    · rw [hothers k hk]
      exact .refl _

theorem setLevel_rewrites {productId providerId : Uuid} {onHand allocationPriority : ℤ}
    {routingGroup : Option Uuid} {level : InventoryLevel} (providers : Table InventoryProviderModel.id)
    (h : setLevel productId providerId onHand allocationPriority routingGroup s = .ok level t) :
    RewritesOf (fun write => write.Permitted providers k ∧
      Request.Writes k write (.setLevel productId providerId onHand allocationPriority routingGroup)) k s t := by
  have hperform : (OfferWrite.setLevel onHand allocationPriority routingGroup).perform
      (productId, providerId) s = .ok () t := bind_of_ok h
  refine OfferWrite.perform_rewrites (fun hkey => ⟨?_, hkey, rfl⟩) hperform
  obtain ⟨hviolation, -⟩ := raiseIf_bind_ok_iff.mp h
  obtain ⟨-, hrange, hranked⟩ := ProductOfferModel.violation_eq_none_iff.mp hviolation
  exact ⟨hrange.onHand, hranked.allocationPriority⟩

theorem removeLevel_rewrites {productId providerId : Uuid} {removed : Bool}
    (providers : Table InventoryProviderModel.id)
    (h : removeLevel productId providerId s = .ok removed t) :
    RewritesOf (fun write => write.Permitted providers k ∧
      Request.Writes k write (.removeLevel productId providerId)) k s t := by
  have hperform : OfferWrite.removeLevel.perform (productId, providerId) s = .ok () t := bind_of_ok h
  refine OfferWrite.perform_rewrites (fun hkey => ?_) hperform
  exact ⟨trivial, hkey, rfl⟩

end Levels

/-! ## Steps and runs -/

/-- A create found its reservation, or has stored it. -/
theorem createTransaction_stores {sha256 : String → String} {environment : Environment} {userId : Uuid}
    {items : List ReservationItem} {idempotencyKey : String} {result : Reservation × Bool} {s t : Session}
    (h : ReservationService.createTransaction sha256 environment userId items idempotencyKey s = .ok result t) :
    t = s ∨ ∃ reservation held, addWithHold environment reservation s = .ok held t := by
  rw [ReservationService.createTransaction] at h
  obtain ⟨existing, v, hv, h⟩ := bind_ok_iff.mp h
  rw [getByIdempotencyKey, readDatabase_bind] at hv
  cases toDomain_ok hv
  cases existing with
  | some existing =>
    obtain ⟨resolved, -, h⟩ := ofExcept_bind_ok_iff.mp h
    exact Or.inl (pure_ok_iff.mp h).2.symm
  | none =>
    obtain ⟨reservation, -, h⟩ := ofExcept_bind_ok_iff.mp h
    obtain ⟨held, w, hw, h⟩ := bind_ok_iff.mp h
    obtain ⟨-, rfl⟩ := pure_ok_iff.mp h
    exact Or.inr ⟨reservation, held, hw⟩

/-- The walks of a request make its statements. -/
theorem Event.walk_writes {event : Event} {database : Database} {walk : Walk} (hwalk : walk ∈ event.walks database)
    {k : OfferKey} {write : OfferWrite} (h : write.Settles walk.pass.kind) : event.request.Writes k write := by
  obtain ⟨hoccasion, -⟩ := event.occasion hwalk
  cases hoccasion with
  | confirm reservation hrequest hconfirmed hcancelled =>
    rw [hrequest]
    exact h
  | cancel reservation hrequest hcancelled hconfirmed hconfirming =>
    rw [hrequest]
    exact h
  | expire reservation limit hrequest hpending =>
    rw [hrequest]
    exact h
  | resumeRelease reservation limit maxAttempts retryBaseDelay terminalStatus hrequest hreleasing htarget hterminal =>
    rw [hrequest]
    exact ⟨.release, h⟩
  | resumeConfirm reservation limit maxAttempts retryBaseDelay hrequest hconfirming =>
    rw [hrequest]
    exact ⟨.confirm, h⟩

/-- What the requests may make of the offer `k`. -/
def Written (providers : Table InventoryProviderModel.id) (k : OfferKey) (events : List Event)
    (write : OfferWrite) : Prop :=
  write.Permitted providers k ∧ ∃ event ∈ events, event.request.Writes k write

namespace System
variable (sha256 : String → String)

theorem step_rewrites {database : Database} (hbooked : database.Booked) (event : Event) (k : OfferKey) :
    Rewrites (Written database.providers k [event]) k database (step sha256 database event) := by
  refine step_of_commit (J := Rewrites (Written database.providers k [event]) k database) (.refl database)
    fun t ht => ?_
  have hwalks : forEach (Walk.run event.environment) (event.walks database) (.start database) = .ok () t →
      Rewrites (Written database.providers k [event]) k database t.database := by
    intro h
    refine (walks_rewrites (s := .start database) rfl h).mono ?_
    rintro write ⟨walk, hwalk, hpermitted, hsettles⟩
    exact ⟨hpermitted, event, List.mem_singleton_self event, event.walk_writes hwalk hsettles⟩
  obtain ⟨environment, request⟩ := event
  cases request with
  | create userId items idempotencyKey =>
    obtain ⟨result, hr⟩ := commitOf_eq_some_iff.mp ht
    rcases createTransaction_stores hr with rfl | ⟨reservation, held, hstores⟩
    · exact .refl database
    · refine (addWithHold_rewrites (s := .start database) rfl hstores).mono fun write hok => ?_
      exact ⟨hok.1, _, List.mem_singleton_self _, hok.2⟩
  | confirm reservationId userId =>
    obtain ⟨result, hr⟩ := commitOf_eq_some_iff.mp ht
    exact hwalks (confirm_makes (s := .start database) hbooked result t hr)
  | cancel reservationId userId =>
    obtain ⟨result, hr⟩ := commitOf_eq_some_iff.mp ht
    exact hwalks (cancel_makes (s := .start database) result t hr)
  | expireBatch limit =>
    obtain ⟨result, hr⟩ := commitOf_eq_some_iff.mp ht
    exact hwalks (expireBatch_makes (s := .start database) result t hr)
  | reconcileBatch limit maxAttempts retryBaseDelay =>
    obtain ⟨result, hr⟩ := commitOf_eq_some_iff.mp ht
    exact hwalks (reconcileBatch_makes (s := .start database) result t hr)
  | setLevel productId providerId onHand allocationPriority routingGroup =>
    obtain ⟨result, hr⟩ := commitOf_eq_some_iff.mp ht
    refine (setLevel_rewrites database.providers hr).mono fun write hok => ?_
    exact ⟨hok.1, _, List.mem_singleton_self _, hok.2⟩
  | removeLevel productId providerId =>
    obtain ⟨result, hr⟩ := commitOf_eq_some_iff.mp ht
    refine (removeLevel_rewrites database.providers hr).mono fun write hok => ?_
    exact ⟨hok.1, _, List.mem_singleton_self _, hok.2⟩

theorem run_rewrites {database : Database} (hsound : database.Sound) (events : List Event) (k : OfferKey) :
    Rewrites (Written database.providers k events) k database (run sha256 database events) := by
  induction events generalizing database with
  | nil => exact .refl database
  | cons event events ih =>
    have hfirst := step_rewrites sha256 hsound.booked event k
    have hrest := ih (step_sound sha256 hsound event)
    rw [hfirst.providers] at hrest
    refine (hfirst.mono ?_).trans (hrest.mono ?_)
    · rintro write ⟨hpermitted, event', hmem, hwrites⟩
      exact ⟨hpermitted, event, List.mem_cons_self, List.mem_singleton.mp hmem ▸ hwrites⟩
    · rintro write ⟨hpermitted, event', hmem, hwrites⟩
      exact ⟨hpermitted, event', List.mem_cons_of_mem _ hmem, hwrites⟩

end System

/-! ## Versions -/

namespace OfferWrite
variable {k : OfferKey} {write : OfferWrite} {offer : ProductOfferModel} {row : Option ProductOfferModel}

/-- Every statement that does not remove the offer raises its version by one. -/
theorem effect_version (hkept : write ≠ .removeLevel) (h : write.effect k (some offer) = some row) :
    ∃ offer', row = some offer' ∧ offer'.version = offer.version + 1 := by
  have hupdate : ∀ statement : OfferStatement,
      (∀ offer', statement.apply offer = some offer' → offer'.version = offer.version + 1) →
        (statement.apply offer).map some = some row → ∃ offer', row = some offer' ∧
          offer'.version = offer.version + 1 := by
    intro statement hversion hrow
    obtain ⟨offer', ha, rfl⟩ := Option.map_eq_some_iff.mp hrow
    exact ⟨offer', rfl, hversion offer' ha⟩
  cases write with
  | tryHold quantity =>
    refine hupdate (.tryHold quantity) (fun offer' ha => ?_) h
    obtain ⟨-, ⟨⟩⟩ := Option.ite_none_right_eq_some.mp ha
    rfl
  | confirmHold quantity =>
    refine hupdate (.confirmHold quantity) (fun offer' ha => ?_) h
    obtain ⟨-, ⟨⟩⟩ := Option.ite_none_right_eq_some.mp ha
    rfl
  | releaseHold quantity =>
    refine hupdate (.releaseHold quantity) (fun offer' ha => ?_) h
    obtain ⟨-, ⟨⟩⟩ := Option.ite_none_right_eq_some.mp ha
    rfl
  | observe availableQuantity observedAt =>
    refine hupdate (.observe availableQuantity observedAt) (fun offer' ha => ?_) h
    cases ha
    rfl
  | setLevel onHand allocationPriority routingGroup =>
    refine hupdate (.assign onHand allocationPriority routingGroup) (fun offer' ha => ?_) h
    obtain ⟨-, ⟨⟩⟩ := Option.ite_none_right_eq_some.mp ha
    rfl
  | removeLevel => exact absurd rfl hkept

/-- The version counts the statements: the row is the same just when there were none. -/
theorem replay_version {writes : List OfferWrite} (hkept : .removeLevel ∉ writes)
    (h : replay (fun write => write.effect k) (some offer) writes = some row) :
    ∃ offer', row = some offer' ∧ offer'.version = offer.version + writes.length ∧
      (offer'.version = offer.version → offer' = offer) := by
  have hstep : ∀ write ∈ writes, ∀ a b : Option ProductOfferModel, write.effect k a = some b →
      a.isSome = true → b.isSome = true ∧ (b.map ProductOfferModel.version).getD 0 =
        (a.map ProductOfferModel.version).getD 0 + 1 := by
    intro write hmem a b heffect ha
    obtain ⟨before, rfl⟩ := Option.isSome_iff_exists.mp ha
    obtain ⟨after, rfl, hafter⟩ := effect_version (fun he => hkept (he ▸ hmem)) heffect
    exact ⟨rfl, hafter⟩
  obtain ⟨hsome, hversion⟩ := replay_counts h hstep rfl
  obtain ⟨offer', rfl⟩ := Option.isSome_iff_exists.mp hsome
  have hcount : offer'.version = offer.version + writes.length := hversion
  refine ⟨offer', rfl, hcount, fun hsame => ?_⟩
  have hnil : writes = [] := List.eq_nil_of_length_eq_zero (by omega)
  rw [hnil, replay_nil, Option.some.injEq, Option.some.injEq] at h
  exact h.symm

end OfferWrite

/-- How the row of an offer came about from an earlier one: by these statements, each of them made by one of
the requests and permitted of the offer. Unless the offer was removed, its version counts them. -/
structure OfferHistory (providers : Table InventoryProviderModel.id) (k : OfferKey) (events : List Event)
    (before after : Option ProductOfferModel) (writes : List OfferWrite) : Prop where
  written : ∀ write ∈ writes, Written providers k events write
  replayed : replay (fun write => write.effect k) before writes = some after
  counted : .removeLevel ∉ writes → ∀ offer ∈ before, ∃ offer' ∈ after,
    offer'.version = offer.version + writes.length ∧ (offer'.version = offer.version → offer' = offer)

namespace System

theorem run_offer_history (sha256 : String → String) {database : Database} (hinit : database.Initial)
    (earlier later : List Event) (k : OfferKey) :
    ∃ writes, OfferHistory database.providers k later ((run sha256 database earlier).offers.find? k)
      ((run sha256 database (earlier ++ later)).offers.find? k) writes := by
  have hbefore := run_rewrites sha256 (.of_initial hinit) earlier k
  have hafter := run_rewrites sha256 (run_sound sha256 hinit earlier) later k
  rw [hbefore.providers] at hafter
  have happend : run sha256 database (earlier ++ later) = run sha256 (run sha256 database earlier) later :=
    Runs.run_append _ _ _ _
  obtain ⟨writes, hwritten, hreplay⟩ := hafter.history
  rw [← happend] at hreplay
  refine ⟨writes, hwritten, hreplay, fun hkept offer hoffer => ?_⟩
  rw [Option.mem_def] at hoffer
  rw [hoffer] at hreplay
  obtain ⟨offer', hrow, hversion⟩ := OfferWrite.replay_version hkept hreplay
  exact ⟨offer', hrow, hversion⟩

/-- Stock is added between two creates, and the second of them is confirmed. -/
theorem run_offer_history_restocked :
    ∃ writes, OfferHistory Deployment.database.providers (1, 10)
      [⟨Deployment.environment 1200 0 0, .setLevel 1 10 20 0 none⟩,
        Deployment.create 1300 200 0 [Deployment.line 1 10 3] "b", Deployment.confirm 1400 200 10]
      ((run Deployment.sha256 Deployment.database
        [Deployment.create 1000 100 0 [Deployment.line 1 10 2] "a"]).offers.find? (1, 10))
      ((run Deployment.sha256 Deployment.database
        ([Deployment.create 1000 100 0 [Deployment.line 1 10 2] "a"] ++
          [⟨Deployment.environment 1200 0 0, .setLevel 1 10 20 0 none⟩,
            Deployment.create 1300 200 0 [Deployment.line 1 10 3] "b",
            Deployment.confirm 1400 200 10])).offers.find? (1, 10)) writes :=
  run_offer_history Deployment.sha256 Deployment.initial _ _ _

end System
end InventoryReservation
