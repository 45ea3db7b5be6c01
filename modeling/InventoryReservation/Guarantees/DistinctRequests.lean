import InventoryReservation.Foundations.Emitting
import InventoryReservation.Meaning.Calls
import InventoryReservation.Meaning.HoldPlan
import InventoryReservation.Meaning.ProviderRequests

/-! # Requests of one transaction

Within one transaction no provider is sent the same request twice, whether the transaction commits or not:
what a provider answers can be given as a function of the request.
-/

namespace InventoryReservation
set_option autoImplicit false

open Relational Transactional

namespace ProviderRequest

/-- A request to route a hold of the product to the provider has this address. -/
def Routes (productId providerId : Uuid) (address : Uuid × IdempotencyKey) : Prop :=
  address.1 = providerId ∧ (address.2 = .availability productId ∨
    ∃ reservationId selected, address.2 = .operation (.hold reservationId productId selected))

/-- A request to confirm or release the hold of this key has this address. -/
def Settles (key : ProviderKey) (address : Uuid × IdempotencyKey) : Prop := address.2 = .operation key

variable {address : Uuid × IdempotencyKey}

theorem Routes.not_settles {productId providerId r a : Uuid} {kind : SettlementKind}
    (h : Routes productId providerId address) : ¬ Settles (kind.key r a) address := by
  intro h'
  rcases h.2 with hkey | ⟨reservationId, selected, hkey⟩
  · cases hkey.symm.trans h'
  · exact kind.key_ne_hold r a _ _ _ (IdempotencyKey.operation.inj (hkey.symm.trans h'))

theorem Routes.unique {productId providerId productId' providerId' : Uuid}
    (h : Routes productId providerId address) (h' : Routes productId' providerId' address) :
    productId = productId' ∧ providerId = providerId' := by
  refine ⟨?_, h.1.symm.trans h'.1⟩
  rcases h.2 with hkey | ⟨reservationId, selected, hkey⟩
  · rcases h'.2 with hkey' | ⟨reservationId', selected', hkey'⟩
    · exact IdempotencyKey.availability.inj (hkey.symm.trans hkey')
    · cases hkey.symm.trans hkey'
  · rcases h'.2 with hkey' | ⟨reservationId', selected', hkey'⟩
    · cases hkey.symm.trans hkey'
    · exact (ProviderKey.hold.inj (IdempotencyKey.operation.inj (hkey.symm.trans hkey'))).2.1

theorem Settles.unique {key key' : ProviderKey} (h : Settles key address) (h' : Settles key' address) :
    key = key' := IdempotencyKey.operation.inj (h.symm.trans h')

end ProviderRequest

/-- Who was asked so far, and under which keys. -/
def Session.addresses (s : Session) : List (Uuid × IdempotencyKey) :=
  s.exchanges.map fun entry => entry.2.request.address

/-- Every run asks at addresses of `D` only, and at none twice. -/
abbrev AsksOnce {α : Type} (D : Uuid × IdempotencyKey → Prop) (x : TransactionM α) : Prop :=
  EmitsOnce Session.addresses D x

/-- No run asks a provider anything. -/
abbrev AsksNothing {α : Type} (x : TransactionM α) : Prop := AsksOnce (fun _ => False) x

/-! ## What asks nothing -/

section Silence
variable {α : Type} {D : Uuid × IdempotencyKey → Prop}

theorem readDatabase_asks : AsksOnce D readDatabase := Emitted.refl

theorem writeDatabase_asks (database : Database) : AsksOnce D (writeDatabase database) :=
  fun _ => Emitted.of_eq rfl

theorem newId_asks (environment : Environment) : AsksOnce D (newId environment) :=
  fun _ => Emitted.of_eq rfl

theorem recordExchange_asks {exchange : Exchange} (h : D exchange.request.address) :
    AsksOnce D (recordExchange exchange) :=
  fun s => Emitted.single (by simp [Session.addresses]) h

theorem raiseIf_asks (violation : Option Failure) : AsksOnce D (raiseIf violation) := by
  cases violation with
  | none => exact EmitsOnce.pure ()
  | some failure => exact EmitsOnce.throw failure

theorem ofExcept_asks (x : Except Failure α) : AsksOnce D (ofExcept x) := by
  cases x with
  | ok a => exact EmitsOnce.pure a
  | error failure => exact EmitsOnce.throw failure

/-- Reading the database first. -/
theorem AsksOnce.reading {body : Database → TransactionM α} (h : ∀ database, AsksOnce D (body database)) :
    AsksOnce D (readDatabase >>= body) :=
  EmitsOnce.bind_silent readDatabase_asks fun _ database _ _ => h database

theorem writeReservation_asks (environment : Environment) (reservationId : Uuid)
    (assign : ReservationModel → ReservationModel)
    (keeps : ∀ reservation, (assign reservation).id = reservation.id) :
    AsksNothing (writeReservation environment reservationId assign keeps) :=
  AsksOnce.reading fun _ => writeDatabase_asks _

theorem updateOffer_asks (statement : OfferStatement) (productId providerId : Uuid) :
    AsksNothing (updateOffer statement productId providerId) := by
  refine EmitsOnce.bind_silent (raiseIf_asks _) fun _ _ _ _ => AsksOnce.reading fun database => ?_
  split
  · exact EmitsOnce.pure none
  · exact EmitsOnce.bind_silent (raiseIf_asks _) fun _ _ _ _ =>
      EmitsOnce.bind_silent (writeDatabase_asks _) fun _ _ _ _ => EmitsOnce.pure _

theorem observeAvailability_asks (productId providerId : Uuid) (attempt : ProviderAvailabilityAttempt) :
    AsksNothing (observeAvailability productId providerId attempt) := by
  unfold observeAvailability
  split
  · exact EmitsOnce.bind_silent (updateOffer_asks _ _ _) fun _ _ _ _ => EmitsOnce.pure ()
  · exact EmitsOnce.pure ()

theorem toDomain_asks (model : Option ReservationModel) : AsksNothing (toDomain model) := by
  cases model with
  | none => exact EmitsOnce.pure none
  | some model =>
    exact AsksOnce.reading fun _ => EmitsOnce.bind_silent (ofExcept_asks _) fun _ _ _ _ => EmitsOnce.pure _

theorem getReservation_asks (reservationId : Uuid) : AsksNothing (getReservation reservationId) :=
  AsksOnce.reading fun _ => toDomain_asks _

theorem toDomainBatch_asks (reservations : List ReservationModel) : AsksNothing (toDomainBatch reservations) := by
  induction reservations with
  | nil => exact EmitsOnce.pure []
  | cons reservation reservations ih =>
    exact EmitsOnce.bind_silent (getReservation_asks _) fun _ _ _ _ =>
      EmitsOnce.bind_silent ih fun _ _ _ _ => EmitsOnce.pure _

theorem forEach_asks {body : α → TransactionM Unit} (h : ∀ x, AsksNothing (body x)) (xs : List α) :
    AsksNothing (forEach body xs) := by
  induction xs with
  | nil => exact EmitsOnce.pure ()
  | cons x xs ih => exact EmitsOnce.bind_silent (h x) fun _ _ _ _ => ih

theorem ensureOrder_asks (environment : Environment) (reservation : ReservationModel) :
    AsksNothing (ensureOrder environment reservation) := by
  refine AsksOnce.reading fun database => ?_
  split
  · exact EmitsOnce.pure ()
  · refine EmitsOnce.bind_silent (newId_asks environment) fun _ _ _ _ =>
      EmitsOnce.bind_silent ?_ fun _ _ _ _ => forEach_asks (fun item => ?_) _
    · refine AsksOnce.reading fun _ => EmitsOnce.ite (fun _ => EmitsOnce.throw _) fun _ => ?_
      split
      · exact EmitsOnce.throw _
      · exact writeDatabase_asks _
    · refine AsksOnce.reading fun _ => ?_
      split
      · exact EmitsOnce.throw _
      · exact writeDatabase_asks _

theorem concludeRelease_asks (environment : Environment) (reservationId : Uuid)
    (terminalStatus : ReservationStatusModel) (flags : PassFlags) :
    AsksNothing (concludeRelease environment reservationId terminalStatus flags) :=
  EmitsOnce.ite (fun _ => writeReservation_asks _ _ _ _) fun _ => writeReservation_asks _ _ _ _

theorem concludeConfirmation_asks (environment : Environment) (reservation : ReservationModel)
    (flags : PassFlags) : AsksNothing (concludeConfirmation environment reservation flags) :=
  EmitsOnce.ite (fun _ => writeReservation_asks _ _ _ _) fun _ =>
    EmitsOnce.ite (fun _ => writeReservation_asks _ _ _ _) fun _ =>
      EmitsOnce.bind_silent (writeReservation_asks _ _ _ _) fun _ _ _ _ => ensureOrder_asks _ _

theorem insertItems_asks (environment : Environment) (reservationId : Uuid) (items : List ReservationItem) :
    AsksNothing (insertItems environment reservationId items) := by
  induction items with
  | nil => exact EmitsOnce.pure []
  | cons item items ih =>
    refine EmitsOnce.bind_silent ?_ fun _ _ _ _ => EmitsOnce.bind_silent ih fun _ _ _ _ => EmitsOnce.pure _
    refine EmitsOnce.bind_silent (newId_asks environment) fun _ _ _ _ => AsksOnce.reading fun _ =>
      EmitsOnce.bind_silent (raiseIf_asks _) fun _ _ _ _ => ?_
    split
    · exact EmitsOnce.throw _
    · exact EmitsOnce.bind_silent (writeDatabase_asks _) fun _ _ _ _ => EmitsOnce.pure _

theorem addReservation_asks (environment : Environment) (reservation : Reservation) :
    AsksNothing (addReservation environment reservation) := by
  refine EmitsOnce.bind_silent ?_ fun _ _ _ _ => insertItems_asks _ _ _
  refine AsksOnce.reading fun _ => EmitsOnce.bind_silent (raiseIf_asks _) fun _ _ _ _ => ?_
  split
  · exact EmitsOnce.throw _
  · exact writeDatabase_asks _

theorem insertAllocation_asks (environment : Environment) (item : ReservationItemModel) (hold : ProviderHold)
    (key : ProviderKey) : AsksNothing (insertAllocation environment item hold key) := by
  refine EmitsOnce.bind_silent (newId_asks environment) fun _ _ _ _ => AsksOnce.reading fun _ =>
    EmitsOnce.bind_silent (raiseIf_asks _) fun _ _ _ _ => ?_
  split
  · exact EmitsOnce.throw _
  · exact writeDatabase_asks _

end Silence

/-! ## Walks -/

namespace Settlement
variable {ω : Type} [DecidableEq ω] {S : Settlement ω}

/-- The requests of a walk carry the keys of its operations. -/
def Keyed (S : Settlement ω) : Prop := ∀ providerId command reply,
  ProviderRequest.Settles command.idempotencyKey (S.exchange providerId command reply).request.address

variable (hS : S.Keyed)
include hS

theorem attempt_asks (environment : Environment) (context : ProviderOperationContext)
    (provider : InventoryProviderModel) (holdReference : String) (operation : ProviderOperationModel) :
    AsksOnce (ProviderRequest.Settles operation.idempotencyKey)
      (S.attempt environment context provider holdReference operation) := by
  refine EmitsOnce.bind_quiet (recordExchange_asks (hS _ _ _)) fun _ => ?_
  split
  · exact EmitsOnce.throw _
  · exact EmitsOnce.bind_silent (ofExcept_asks _) fun _ _ _ _ => AsksOnce.reading fun _ =>
      EmitsOnce.bind_silent (writeDatabase_asks _) fun _ _ _ _ => EmitsOnce.pure _

theorem settleExternalHold_asks (environment : Environment) (context : ProviderOperationContext)
    (allocation : InventoryAllocationModel) (provider : InventoryProviderModel) :
    AsksOnce (ProviderRequest.Settles (S.kind.key context.reservationId allocation.id))
      (S.settleExternalHold environment context allocation provider) := by
  refine EmitsOnce.ite (fun _ => EmitsOnce.throw _) fun _ => ?_
  split
  · exact EmitsOnce.throw _
  · refine AsksOnce.reading fun database => ?_
    split
    · next operation hfound =>
      have hkey : operation.idempotencyKey = S.kind.key context.reservationId allocation.id :=
        Table.key_of_find? hfound
      refine EmitsOnce.ite (fun _ => EmitsOnce.pure _) fun _ => EmitsOnce.ite (fun _ => EmitsOnce.pure _) fun _ =>
        EmitsOnce.bind_silent (writeDatabase_asks _) fun _ _ _ _ => ?_
      rw [← hkey]
      exact attempt_asks hS environment context provider _ operation.restart
    · dsimp only
      split
      · exact EmitsOnce.throw _
      · exact EmitsOnce.bind_silent (writeDatabase_asks _) fun _ _ _ _ => attempt_asks hS _ _ _ _ _

theorem settleAllocation_asks (environment : Environment) (context : ProviderOperationContext)
    (row : AllocationRow) :
    AsksOnce (ProviderRequest.Settles (S.kind.key context.reservationId row.allocation.id))
      (S.settleAllocation environment context row) := by
  refine EmitsOnce.ite (fun _ => EmitsOnce.pure _) fun _ => ?_
  split
  · exact settleExternalHold_asks hS _ _ _ _
  · refine EmitsOnce.bind_silent (updateOffer_asks _ _ _) fun _ snapshot _ _ => ?_
    cases snapshot with
    | none => exact EmitsOnce.throw _
    | some snapshot => exact EmitsOnce.pure _

theorem settleAllocations_asks (environment : Environment) (context : ProviderOperationContext)
    {rows : List AllocationRow} (hrows : (rows.map fun row => row.allocation.id).Nodup) (flags : PassFlags) :
    AsksOnce (fun address => ∃ row ∈ rows,
        ProviderRequest.Settles (S.kind.key context.reservationId row.allocation.id) address)
      (S.settleAllocations environment context rows flags) := by
  induction rows generalizing flags with
  | nil => exact EmitsOnce.pure flags
  | cons row rows ih =>
    obtain ⟨hhead, htail⟩ := List.nodup_cons.mp hrows
    refine (EmitsOnce.bind (settleAllocation_asks hS environment context row) (fun _ outcome _ _ =>
      EmitsOnce.bind_silent (AsksOnce.reading fun _ => writeDatabase_asks _) fun _ _ _ _ =>
        ih htail (S.note flags outcome)) ?_).mono ?_
    · rintro address hrequest ⟨row', hmem, hrequest'⟩
      have hid := (SettlementKind.key_inj.mp (hrequest.unique hrequest')).2.2
      exact hhead (List.mem_map.mpr ⟨row', hmem, hid.symm⟩)
    · rintro address (hrequest | ⟨row', hmem, hrequest⟩)
      · exact ⟨row, List.mem_cons_self, hrequest⟩
      · exact ⟨row', List.mem_cons_of_mem _ hmem, hrequest⟩

end Settlement

theorem confirmation_keyed : confirmation.Keyed := fun _ _ _ => rfl

theorem releasing_keyed : releasing.Keyed := fun _ _ _ => rfl

/-- A request to confirm or release a hold of the reservation has this address. -/
def ProviderRequest.SettlesFor (reservationId : Uuid) (address : Uuid × IdempotencyKey) : Prop :=
  ∃ (kind : SettlementKind) (allocationId : Uuid), Settles (kind.key reservationId allocationId) address

theorem releaseReservation_asks (environment : Environment) (reservation : ReservationModel)
    (terminalStatus : ReservationStatusModel) {context : Option ProviderOperationContext}
    (hcontext : (context.getD (.request reservation.id)).reservationId = reservation.id) :
    AsksOnce (ProviderRequest.SettlesFor reservation.id)
      (releaseReservation environment reservation terminalStatus context) := by
  refine AsksOnce.reading fun database => EmitsOnce.bind_silent (writeReservation_asks _ _ _ _) fun _ _ _ _ =>
    EmitsOnce.bind_quiet ?_ fun flags => concludeRelease_asks _ _ _ _
  refine (Settlement.settleAllocations_asks releasing_keyed environment _
    (database.scanAllocations_nodup environment reservation.id) _).mono ?_
  rintro address ⟨row, -, hrequest⟩
  rw [hcontext] at hrequest
  exact ⟨.release, row.allocation.id, hrequest⟩

theorem confirmReservation_asks (environment : Environment) {reservation : ReservationModel}
    {context : ProviderOperationContext} (hcontext : context.reservationId = reservation.id) :
    AsksOnce (ProviderRequest.SettlesFor reservation.id)
      (confirmReservation environment reservation context) := by
  refine AsksOnce.reading fun database => EmitsOnce.bind_quiet ?_ fun flags =>
    EmitsOnce.bind_silent (concludeConfirmation_asks _ _ _) fun _ _ _ _ => getReservation_asks _
  refine (Settlement.settleAllocations_asks confirmation_keyed environment _
    (database.scanAllocations_nodup environment reservation.id) _).mono ?_
  rintro address ⟨row, -, hrequest⟩
  rw [hcontext] at hrequest
  exact ⟨.confirm, row.allocation.id, hrequest⟩

/-- Walks over distinct reservations have no request in common. -/
theorem batch_asks {body : ReservationModel → TransactionM Unit} {reservations : List ReservationModel}
    (hbody : ∀ reservation ∈ reservations, AsksOnce (ProviderRequest.SettlesFor reservation.id) (body reservation))
    (hdistinct : (reservations.map ReservationModel.id).Nodup) :
    AsksOnce (fun address => ∃ reservation ∈ reservations, ProviderRequest.SettlesFor reservation.id address)
      (forEach body reservations) := by
  induction reservations with
  | nil => exact EmitsOnce.pure ()
  | cons reservation reservations ih =>
    obtain ⟨hhead, htail⟩ := List.nodup_cons.mp hdistinct
    refine (EmitsOnce.bind (hbody reservation List.mem_cons_self) (fun _ _ _ _ =>
      ih (fun reservation' hmem => hbody reservation' (List.mem_cons_of_mem _ hmem)) htail) ?_).mono ?_
    · rintro address ⟨kind, allocationId, hrequest⟩ ⟨reservation', hmem, kind', allocationId', hrequest'⟩
      have hid := (SettlementKind.key_inj.mp (hrequest.unique hrequest')).2.1
      exact hhead (List.mem_map.mpr ⟨reservation', hmem, hid.symm⟩)
    · rintro address (hrequest | ⟨reservation', hmem, hrequest⟩)
      · exact ⟨reservation, List.mem_cons_self, hrequest⟩
      · exact ⟨reservation', List.mem_cons_of_mem _ hmem, hrequest⟩

/-! ## Routing a hold -/

section Routing
variable {environment : Environment} {candidate : InventoryProviderModel} {provider : HoldProvider TransactionM}
  {command : HoldCommand}

theorem availability_asks (hp : holdProvider environment candidate = some provider)
    (command : AvailabilityCommand) :
    AsksOnce (· = (provider.providerId, .availability command.productId)) (provider.availability command) := by
  unfold holdProvider at hp
  split at hp
  · cases hp
    exact EmitsOnce.bind_silent (AsksOnce.reading fun _ => EmitsOnce.pure _) fun _ _ _ _ => EmitsOnce.pure _
  · obtain ⟨-, ⟨⟩⟩ := Option.ite_none_right_eq_some.mp hp
    refine EmitsOnce.bind_quiet (recordExchange_asks rfl) fun _ => ?_
    split
    · exact EmitsOnce.pure _
    · exact EmitsOnce.throw _

theorem hold_asks (hp : holdProvider environment candidate = some provider) (command : HoldCommand) :
    AsksOnce (· = (provider.providerId, .operation command.idempotencyKey)) (provider.hold command) := by
  unfold holdProvider at hp
  split at hp
  · cases hp
    refine EmitsOnce.bind_silent (updateOffer_asks _ _ _) fun _ snapshot _ _ => ?_
    cases snapshot with
    | none => exact EmitsOnce.pure _
    | some snapshot => exact EmitsOnce.pure _
  · obtain ⟨-, ⟨⟩⟩ := Option.ite_none_right_eq_some.mp hp
    refine EmitsOnce.bind_quiet (recordExchange_asks rfl) fun _ => ?_
    split
    · exact EmitsOnce.pure _
    · exact EmitsOnce.throw _

theorem checkAvailability_asks {router : ProviderRouter TransactionM} {productId : Uuid}
    (hobserver : router.availabilityObserver = some (observeAvailability productId))
    (hp : holdProvider environment candidate = some provider) (command : HoldCommand) :
    AsksOnce (· = (provider.providerId, .availability command.productId))
      (router.checkAvailability provider command) := by
  refine EmitsOnce.ite (fun _ => ?_) fun _ => EmitsOnce.pure false
  rw [hobserver]
  exact EmitsOnce.bind_quiet (availability_asks hp _) fun _ =>
    EmitsOnce.bind_silent (observeAvailability_asks _ _ _) fun _ _ _ _ => EmitsOnce.pure _

/-- A provider is asked about its stock at most once, and at most once for the hold. -/
theorem holdAmong_asks {router : ProviderRouter TransactionM} {productId : Uuid}
    (hobserver : router.availabilityObserver = some (observeAvailability productId))
    {command : HoldCommand} {reservationId selected : Uuid}
    (hkey : command.idempotencyKey = .hold reservationId command.productId selected)
    {providers : List (HoldProvider TransactionM)}
    (hadapters : ∀ provider ∈ providers, ∃ candidate : InventoryProviderModel,
      holdProvider environment candidate = some provider)
    (hdistinct : (providers.map HoldProvider.providerId).Nodup) :
    AsksOnce (fun address => ∃ provider ∈ providers,
        ProviderRequest.Routes command.productId provider.providerId address)
      (router.holdAmong command providers) := by
  induction providers with
  | nil => exact EmitsOnce.pure none
  | cons provider rest ih =>
    obtain ⟨hhead, htail⟩ := List.nodup_cons.mp hdistinct
    obtain ⟨candidate, hp⟩ := hadapters provider List.mem_cons_self
    have hholds : ProviderRequest.Routes command.productId provider.providerId
        (provider.providerId, .operation command.idempotencyKey) :=
      ⟨rfl, Or.inr ⟨reservationId, selected, congrArg IdempotencyKey.operation hkey⟩⟩
    have hrest := ih (fun provider' hmem => hadapters provider' (List.mem_cons_of_mem _ hmem)) htail
    -- What the rest is asked is not asked of this provider.
    have hapart : ∀ address, ProviderRequest.Routes command.productId provider.providerId address →
        ¬ ∃ provider' ∈ rest, ProviderRequest.Routes command.productId provider'.providerId address := by
      rintro address hrequest ⟨provider', hmem, hrequest'⟩
      exact hhead (List.mem_map.mpr ⟨provider', hmem, (hrequest.unique hrequest').2.symm⟩)
    refine (EmitsOnce.bind (checkAvailability_asks hobserver hp command) (fun _ skipped _ _ =>
      EmitsOnce.ite (fun _ => (hrest.mono fun _ => Or.inr :
          AsksOnce (fun address => address = (provider.providerId, .operation command.idempotencyKey) ∨
            ∃ provider' ∈ rest, ProviderRequest.Routes command.productId provider'.providerId address) _)) fun _ =>
        EmitsOnce.bind (hold_asks hp command) (fun _ attempt _ _ => ?_) ?_) ?_).mono ?_
    · cases attempt.outcome with
      | held => exact EmitsOnce.pure _
      | unknown => exact EmitsOnce.throw _
      | outOfStock => exact hrest
      | temporarilyUnavailable => exact hrest
    · rintro address rfl
      exact hapart _ hholds
    · rintro address rfl (hrequest | hrequest)
      · cases hrequest
      · exact hapart _ ⟨rfl, Or.inl rfl⟩ hrequest
    · rintro address (rfl | rfl | ⟨provider', hmem, hrequest⟩)
      · exact ⟨provider, List.mem_cons_self, rfl, Or.inl rfl⟩
      · exact ⟨provider, List.mem_cons_self, hholds⟩
      · exact ⟨provider', List.mem_cons_of_mem _ hmem, hrequest⟩

theorem tryHoldSelected_asks (environment : Environment) (productId providerId : Uuid) (quantity : ℤ)
    (reservationId selected : Uuid) :
    AsksOnce (fun address => ∃ providerId, ProviderRequest.Routes productId providerId address)
      (tryHoldSelected environment productId providerId quantity (.hold reservationId productId selected)) := by
  refine AsksOnce.reading fun database => ?_
  refine (holdAmong_asks rfl (rfl : (HoldCommand.mk productId quantity
    (.hold reservationId productId selected)).idempotencyKey = _) (?_ : ∀ provider ∈ _, ∃ candidate,
    holdProvider environment candidate = some provider) ?_).mono ?_
  · intro provider hmem
    obtain ⟨candidate, -, hp⟩ := exists_candidate hmem
    exact ⟨candidate, hp⟩
  · have hids : ∀ c ∈ (database.holdCandidates productId providerId
        ((database.offers.find? (productId, providerId)).bind ProductOfferModel.routingGroup)).filterMap
          (fun candidate => (holdProvider environment candidate).map fun provider => (candidate, provider)),
        (HoldProvider.providerId ∘ Prod.snd) c = c.1.id :=
      fun c hc => holdProvider_providerId (mem_configured.mp hc).2
    rw [List.map_map, List.map_congr_left hids]
    exact configured_nodup (database.holdCandidates_nodup productId providerId _)
  · rintro address ⟨provider, -, hrequest⟩
    exact ⟨provider.providerId, hrequest⟩

/-- A request to hold one of the items, or to compensate, has this address. -/
def ProviderRequest.Opens (reservationId : Uuid) (items : List ReservationItemModel)
    (address : Uuid × IdempotencyKey) : Prop :=
  (∃ item ∈ items, ∃ providerId, Routes item.productId providerId address) ∨ SettlesFor reservationId address

/-- The items are of different products, and the compensation settles what has been held. -/
theorem holdItems_asks (environment : Environment) (reservation : ReservationModel)
    {items : List ReservationItemModel} (hdistinct : (items.map ReservationItemModel.productId).Nodup) :
    AsksOnce (ProviderRequest.Opens reservation.id items) (holdItems environment reservation items) := by
  induction items with
  | nil => exact EmitsOnce.pure true
  | cons item items ih =>
    obtain ⟨hhead, htail⟩ := List.nodup_cons.mp hdistinct
    refine (EmitsOnce.bind (tryHoldSelected_asks environment item.productId item.providerId _ _ _)
      (fun _ hold _ _ => (?_ : AsksOnce (ProviderRequest.Opens reservation.id items) _)) ?_).mono ?_
    · cases hold with
      | none =>
        refine EmitsOnce.bind_silent (writeReservation_asks _ _ _ _) fun _ _ _ _ =>
          EmitsOnce.bind_quiet ?_ fun _ => EmitsOnce.pure false
        exact (releaseReservation_asks environment reservation .failed rfl).mono fun _ => Or.inr
      | some hold => exact EmitsOnce.bind_silent (insertAllocation_asks _ _ _ _) fun _ _ _ _ => ih htail
    · rintro address ⟨providerId, hrequest⟩ (⟨item', hmem, providerId', hrequest'⟩ | ⟨kind, allocationId, hsettles⟩)
      · exact hhead (List.mem_map.mpr ⟨item', hmem, (hrequest.unique hrequest').1.symm⟩)
      · exact hrequest.not_settles hsettles
    · rintro address (hrequest | ⟨item', hmem, hrequest⟩ | hrequest)
      · exact Or.inl ⟨item, List.mem_cons_self, hrequest⟩
      · exact Or.inl ⟨item', List.mem_cons_of_mem _ hmem, hrequest⟩
      · exact Or.inr hrequest

end Routing

/-! ## Requests to the service -/

section Events

theorem addWithHold_asks (environment : Environment) (reservation : Reservation) :
    AsksOnce (fun _ => True) (addWithHold environment reservation) := by
  refine EmitsOnce.bind_silent (addReservation_asks environment reservation) fun s models t hmodels => ?_
  obtain ⟨_, u, -, hitems⟩ := bind_ok_iff.mp hmodels
  have hproducts : models.map ReservationItemModel.productId = reservation.items.map ReservationItem.productId := by
    rw [← (insertItems_ok hitems).2.1, List.map_map]
    rfl
  refine (holdItems_asks environment (toModel environment reservation) ?_).mono fun _ _ => trivial
  rw [hproducts]
  exact (insertItems_distinct hitems).1

theorem createTransaction_asks (sha256 : String → String) (environment : Environment) (userId : Uuid)
    (items : List ReservationItem) (idempotencyKey : String) :
    AsksOnce (fun _ => True) (ReservationService.createTransaction sha256 environment userId items
      idempotencyKey) := by
  refine EmitsOnce.bind_silent (AsksOnce.reading fun _ => toDomain_asks _) fun _ existing _ _ => ?_
  cases existing with
  | some existing => exact EmitsOnce.bind_silent (ofExcept_asks _) fun _ _ _ _ => EmitsOnce.pure _
  | none =>
    exact EmitsOnce.bind_silent (ofExcept_asks _) fun _ reservation _ _ =>
      EmitsOnce.bind_quiet (addWithHold_asks environment reservation) fun _ => EmitsOnce.pure _

theorem confirm_asks (environment : Environment) (reservationId userId : Uuid) :
    AsksOnce (ProviderRequest.SettlesFor reservationId) (confirm environment reservationId userId) := by
  refine AsksOnce.reading fun database => ?_
  split
  · exact EmitsOnce.pure none
  · next reservation hfound =>
    have hid : reservation.id = reservationId := Table.key_of_find? (Option.filter_eq_some_iff.mp hfound).1
    refine EmitsOnce.ite (fun _ => ?_) fun _ => EmitsOnce.ite (fun _ => EmitsOnce.throw _) fun _ => ?_
    · exact (EmitsOnce.bind_silent (ensureOrder_asks _ _) fun _ _ _ _ => getReservation_asks _).mono
        fun _ => False.elim
    · rw [← hid]
      exact confirmReservation_asks environment rfl

theorem cancel_asks (environment : Environment) (reservationId userId : Uuid) :
    AsksOnce (ProviderRequest.SettlesFor reservationId) (cancel environment reservationId userId) := by
  refine AsksOnce.reading fun database => ?_
  split
  · exact EmitsOnce.pure none
  · next reservation hfound =>
    have hid : reservation.id = reservationId := Table.key_of_find? (Option.filter_eq_some_iff.mp hfound).1
    refine EmitsOnce.ite (fun _ => (getReservation_asks _).mono fun _ => False.elim) fun _ =>
      EmitsOnce.ite (fun _ => EmitsOnce.throw _) fun _ => EmitsOnce.ite (fun _ => EmitsOnce.throw _) fun _ => ?_
    rw [← hid]
    exact EmitsOnce.bind_quiet (releaseReservation_asks environment reservation .cancelled rfl) fun _ =>
      getReservation_asks _

theorem expireBatch_asks (environment : Environment) (limit : ℕ) :
    AsksOnce (fun address => ∃ reservationId, ProviderRequest.SettlesFor reservationId address)
      (expireBatch environment limit) := by
  refine AsksOnce.reading fun database => EmitsOnce.bind_quiet ?_ fun _ => toDomainBatch_asks _
  refine (batch_asks (fun reservation _ => releaseReservation_asks environment reservation .expired rfl)
    (database.lockBatch_nodup environment limit _ _)).mono ?_
  rintro address ⟨reservation, -, hrequest⟩
  exact ⟨reservation.id, hrequest⟩

theorem reconcileReservation_asks (environment : Environment) (maxAttempts : ℕ) (retryBaseDelay : Duration)
    (reservation : ReservationModel) :
    AsksOnce (ProviderRequest.SettlesFor reservation.id)
      (reconcileReservation environment maxAttempts retryBaseDelay reservation) := by
  refine EmitsOnce.ite (fun _ => ?_) fun _ => EmitsOnce.ite (fun _ => ?_) fun _ => EmitsOnce.pure ()
  · split
    · exact EmitsOnce.pure ()
    · exact releaseReservation_asks environment reservation _ rfl
  · exact EmitsOnce.bind_quiet (confirmReservation_asks environment rfl) fun _ => EmitsOnce.pure ()

theorem reconcileBatch_asks (environment : Environment) (limit maxAttempts : ℕ) (retryBaseDelay : Duration) :
    AsksOnce (fun address => ∃ reservationId, ProviderRequest.SettlesFor reservationId address)
      (reconcileBatch environment limit maxAttempts retryBaseDelay) := by
  refine AsksOnce.reading fun database => EmitsOnce.bind_quiet ?_ fun _ => toDomainBatch_asks _
  refine (batch_asks (fun reservation _ => reconcileReservation_asks environment maxAttempts retryBaseDelay
    reservation) (database.lockBatch_nodup environment limit _ _)).mono ?_
  rintro address ⟨reservation, -, hrequest⟩
  exact ⟨reservation.id, hrequest⟩

theorem setLevel_asks (productId providerId : Uuid) (onHand allocationPriority : ℤ)
    (routingGroup : Option Uuid) :
    AsksNothing (setLevel productId providerId onHand allocationPriority routingGroup) := by
  refine EmitsOnce.bind_silent (raiseIf_asks _) fun _ _ _ _ => AsksOnce.reading fun database => ?_
  split
  · exact EmitsOnce.bind_silent (raiseIf_asks _) fun _ _ _ _ =>
      EmitsOnce.bind_silent (writeDatabase_asks _) fun _ _ _ _ => EmitsOnce.pure _
  · refine EmitsOnce.bind_silent (updateOffer_asks _ _ _) fun _ assigned _ _ => AsksOnce.reading fun current => ?_
    split
    · exact EmitsOnce.throw _
    · exact EmitsOnce.pure _
    · exact EmitsOnce.ite (fun _ => EmitsOnce.throw _) fun _ => EmitsOnce.pure _

theorem removeLevel_asks (productId providerId : Uuid) : AsksNothing (removeLevel productId providerId) := by
  refine AsksOnce.reading fun database => ?_
  split
  · exact EmitsOnce.bind_silent (writeDatabase_asks _) fun _ _ _ _ => EmitsOnce.pure true
  · split
    · exact EmitsOnce.pure false
    · exact EmitsOnce.throw _

/-- The calls of a transaction have different addresses. -/
theorem databaseTransaction_distinct {α : Type} {D : Uuid × IdempotencyKey → Prop} {body : TransactionM α}
    (h : AsksOnce D body) (database : Database) :
    ((databaseTransaction body database).exchanges.map fun entry => entry.2.request.address).Nodup := by
  have hstops := h (.start database)
  unfold databaseTransaction
  cases hb : body (.start database) with
  | ok a t =>
    obtain ⟨labels, hlog, hnodup, -⟩ := hstops.of_ok hb
    rw [← (hlog.trans (List.nil_append labels))] at hnodup
    exact hnodup
  | error failure t =>
    obtain ⟨labels, hlog, hnodup, -⟩ := (hstops.of_error hb).1
    rw [← (hlog.trans (List.nil_append labels))] at hnodup
    exact hnodup

theorem execute_addresses_nodup (sha256 : String → String) (event : Event) (database : Database) :
    ((System.execute sha256 event database).exchanges.map fun entry => entry.2.request.address).Nodup := by
  obtain ⟨environment, request⟩ := event
  cases request with
  | create userId items idempotencyKey =>
    have hfirst := databaseTransaction_distinct
      (createTransaction_asks sha256 environment userId items idempotencyKey) database
    have hsame : (ReservationService.create sha256 environment userId items idempotencyKey database).exchanges =
        (databaseTransaction (ReservationService.createTransaction sha256 environment userId items idempotencyKey)
          database).exchanges := by
      unfold ReservationService.create
      dsimp only
      split <;> rfl
    exact hsame ▸ hfirst
  | confirm reservationId userId => exact databaseTransaction_distinct (confirm_asks environment _ _) database
  | cancel reservationId userId => exact databaseTransaction_distinct (cancel_asks environment _ _) database
  | expireBatch limit => exact databaseTransaction_distinct (expireBatch_asks environment _) database
  | reconcileBatch limit maxAttempts retryBaseDelay =>
    exact databaseTransaction_distinct (reconcileBatch_asks environment _ _ _) database
  | setLevel productId providerId onHand allocationPriority routingGroup =>
    exact databaseTransaction_distinct (setLevel_asks productId providerId _ _ _) database
  | removeLevel productId providerId =>
    exact databaseTransaction_distinct (removeLevel_asks productId providerId) database

/-- Whatever a request does and wherever it fails, no provider is sent two requests under one key. -/
theorem execute_keys_nodup (sha256 : String → String) (event : Event) (database : Database) :
    ((System.execute sha256 event database).exchanges.map fun entry =>
      (entry.2.request.providerId, entry.2.request.idempotencyKey)).Nodup := by
  have hdistinct := execute_addresses_nodup sha256 event database
  have hinjective : Function.Injective fun address : Uuid × IdempotencyKey => (address.1, address.2.text) := by
    intro a b h
    exact Prod.ext (Prod.ext_iff.mp h).1 (IdempotencyKey.text_injective (Prod.ext_iff.mp h).2)
  have hkeys := hdistinct.map hinjective
  rw [List.map_map] at hkeys
  exact hkeys

end Events

end InventoryReservation
