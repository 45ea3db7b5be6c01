import InventoryReservation.Meaning.Commit

/-! # Where allocations come from

An allocation is written once, for a hold that a hold-capable provider granted; later steps only change
its status. `Allocates` says so of two databases, and every step is of that kind.
-/

namespace InventoryReservation
set_option autoImplicit false

open Relational Transactional

/-- Two versions of the row of one hold. -/
structure InventoryAllocationModel.SameHold (before after : InventoryAllocationModel) : Prop where
  id : after.id = before.id
  reservationItemId : after.reservationItemId = before.reservationItemId
  providerId : after.providerId = before.providerId
  providerHoldReference : after.providerHoldReference = before.providerHoldReference

/-- A hold-capable provider granted this hold, an external one under a reference. -/
def Database.Granted (database : Database) (providerId : Uuid) (reference : Option String) : Prop :=
  ∃ provider, database.providers.find? providerId = some provider ∧ provider.supportsHold = true ∧
    (provider.kind = .external → reference.isSome)

/-- The allocations are those of before and some newly granted, and the providers are the same. -/
structure Allocates (s t : Database) : Prop where
  providers : t.providers = s.providers
  allocations : ∀ allocation ∈ t.allocations,
    (∃ before ∈ s.allocations, before.SameHold allocation) ∨
      s.Granted allocation.providerId allocation.providerHoldReference

namespace Allocates
variable {s t u : Database}

theorem of_same (hproviders : t.providers = s.providers) (hallocations : t.allocations = s.allocations) :
    Allocates s t where
  providers := hproviders
  allocations allocation ha := by
    rw [hallocations] at ha
    exact Or.inl ⟨allocation, ha, rfl, rfl, rfl, rfl⟩

theorem refl (s : Database) : Allocates s s := of_same rfl rfl

theorem trans (h : Allocates s t) (h' : Allocates t u) : Allocates s u where
  providers := h'.providers.trans h.providers
  allocations allocation ha := by
    rcases h'.allocations allocation ha with ⟨before, hb, hsame⟩ | hgranted
    · rcases h.allocations before hb with ⟨first, hf, hsame'⟩ | hgranted
      · exact Or.inl ⟨first, hf, hsame.id.trans hsame'.id,
          hsame.reservationItemId.trans hsame'.reservationItemId, hsame.providerId.trans hsame'.providerId,
          hsame.providerHoldReference.trans hsame'.providerHoldReference⟩
      · rw [← hsame.providerId, ← hsame.providerHoldReference] at hgranted
        exact Or.inr hgranted
    · unfold Database.Granted at hgranted ⊢
      rw [h.providers] at hgranted
      exact Or.inr hgranted

end Allocates

/-! ## Routing -/

section Routing
variable {environment : Environment} {s t : Session}

/-- The hold a router returns is one that one of its providers granted. -/
theorem holdAmong_granted {router : ProviderRouter TransactionM} {command : HoldCommand}
    {providers : List (HoldProvider TransactionM)} {hold : ProviderHold}
    (h : router.holdAmong command providers s = .ok (some hold) t) :
    ∃ provider ∈ providers, ∃ u v attempt, provider.hold command u = .ok attempt v ∧
      attempt.outcome = .held ∧ hold = ⟨provider.providerId, attempt.reference⟩ := by
  induction providers generalizing s with
  | nil =>
    obtain ⟨h, -⟩ := pure_ok_iff.mp h
    cases h
  | cons provider rest ih =>
    have hrest : ∀ {w}, router.holdAmong command rest w = .ok (some hold) t →
        ∃ provider' ∈ provider :: rest, ∃ u v attempt, provider'.hold command u = .ok attempt v ∧
          attempt.outcome = .held ∧ hold = ⟨provider'.providerId, attempt.reference⟩ := by
      intro w hw
      obtain ⟨provider', hmem, hgranted⟩ := ih hw
      exact ⟨provider', List.mem_cons_of_mem _ hmem, hgranted⟩
    rw [ProviderRouter.holdAmong] at h
    obtain ⟨skipped, u, -, h⟩ := bind_ok_iff.mp h
    cases skipped with
    | true => exact hrest h
    | false =>
      obtain ⟨attempt, v, hv, h⟩ := bind_ok_iff.mp h
      cases ho : attempt.outcome with
      | held =>
        simp only [ho] at h
        obtain ⟨hhold, -⟩ := pure_ok_iff.mp h
        exact ⟨provider, List.mem_cons_self, u, v, attempt, hv, ho, (Option.some.inj hhold).symm⟩
      | outOfStock =>
        simp only [ho] at h
        exact hrest h
      | temporarilyUnavailable =>
        simp only [ho] at h
        exact hrest h
      | unknown =>
        simp only [ho] at h
        cases h

/-- An external provider grants under a reference. -/
theorem hold_reference {candidate : InventoryProviderModel} {provider : HoldProvider TransactionM}
    {command : HoldCommand} {attempt : ProviderHoldAttempt}
    (hp : holdProvider environment candidate = some provider) (hk : candidate.kind = .external)
    (hheld : attempt.outcome = .held) (h : provider.hold command s = .ok attempt t) :
    attempt.reference.isSome := by
  unfold holdProvider at hp
  rw [hk] at hp
  obtain ⟨-, ⟨⟩⟩ := Option.ite_none_right_eq_some.mp hp
  rw [externalProvider] at h
  dsimp only at h
  rw [recordExchange_bind] at h
  cases hr : environment.hold candidate.id command with
  | held reference =>
    rw [hr] at h
    cases h
    rfl
  | raised =>
    rw [hr] at h
    cases h
  | outOfStock =>
    rw [hr] at h
    cases h
    cases hheld
  | temporarilyUnavailable =>
    rw [hr] at h
    cases h
    cases hheld
  | unknown =>
    rw [hr] at h
    cases h
    cases hheld

theorem supportsHold_of_mem_holdCandidates {database : Database} {productId providerId : Uuid}
    {selectedRoutingGroup : Option Uuid} {candidate : InventoryProviderModel}
    (h : candidate ∈ database.holdCandidates productId providerId selectedRoutingGroup) :
    candidate.supportsHold = true := by
  unfold Database.holdCandidates at h
  obtain ⟨offer, -, hf⟩ := List.mem_filterMap.mp h
  obtain ⟨-, hcapable⟩ := Option.filter_eq_some_iff.mp hf
  exact (Bool.and_eq_true_iff.mp hcapable).2

theorem tryHoldSelected_granted {productId providerId : Uuid} {quantity : ℤ} {idempotencyKey : ProviderKey}
    {hold : ProviderHold}
    (h : tryHoldSelected environment productId providerId quantity idempotencyKey s = .ok (some hold) t) :
    s.database.Granted hold.providerId hold.reference := by
  rw [tryHoldSelected, readDatabase_bind] at h
  dsimp only at h
  rw [ProviderRouter.hold] at h
  obtain ⟨provider, hmem, u, v, attempt, hv, hheld, rfl⟩ := holdAmong_granted h
  obtain ⟨candidate, hc, hp⟩ := exists_candidate hmem
  refine ⟨candidate, ?_, supportsHold_of_mem_holdCandidates hc, fun hk => hold_reference hp hk hheld hv⟩
  dsimp only
  rw [holdProvider_providerId hp]
  exact mem_holdCandidates hc

end Routing

/-! ## Creating and settling -/

section Steps
variable {environment : Environment} {s t : Session}

theorem insertAllocation_allocates {item : ReservationItemModel} {hold : ProviderHold} {key : ProviderKey}
    {u : Unit} (hgranted : s.database.Granted hold.providerId hold.reference)
    (h : insertAllocation environment item hold key s = .ok u t) : Allocates s.database t.database := by
  rw [insertAllocation, newId_bind, readDatabase_bind, raiseIf_bind_ok_iff] at h
  obtain ⟨-, h⟩ := h
  dsimp only at h
  generalize hnew : (⟨environment.uuid7 s.generated, item.id, hold.providerId, item.requestedQuantity,
    .held, key, hold.reference⟩ : InventoryAllocationModel) = new at h
  cases hi : s.database.allocations.insert? new with
  | none =>
    rw [hi] at h
    cases h
  | some allocations =>
    rw [hi] at h
    cases h
    refine ⟨rfl, fun allocation ha => ?_⟩
    rcases (Table.mem_insert? hi allocation).mp ha with ha | rfl
    · exact Or.inl ⟨allocation, ha, rfl, rfl, rfl, rfl⟩
    · rw [← hnew]
      exact Or.inr hgranted

/-- A walk changes the status of allocations only. -/
theorem WalkEffect.allocates {ω : Type} [DecidableEq ω] {S : Settlement ω}
    {context : ProviderOperationContext} {write : ReservationModel → ReservationModel}
    (h : WalkEffect S environment context write s t) : Allocates s.database t.database := by
  obtain ⟨rows, -, hpass⟩ := h.walk
  refine ⟨hpass.providers, fun allocation ha => ?_⟩
  rw [hpass.allocations] at ha
  obtain ⟨before, hb, rfl⟩ := Table.mem_mapRows.mp ha
  refine Or.inl ⟨before, hb, ?_⟩
  unfold Settlement.relabel
  split <;> exact ⟨rfl, rfl, rfl, rfl⟩

theorem holdItems_allocates {reservation : ReservationModel} {items : List ReservationItemModel}
    {held : Bool} (h : holdItems environment reservation items s = .ok held t) :
    Allocates s.database t.database := by
  induction items generalizing s with
  | nil =>
    obtain ⟨-, rfl⟩ := pure_ok_iff.mp h
    exact .refl _
  | cons item items ih =>
    rw [holdItems] at h
    obtain ⟨hold, v, hv, h⟩ := bind_ok_iff.mp h
    have htables := (tryHoldSelected_ok hv).effect.tables
    have hrouted : Allocates s.database v.database := .of_same (by rw [htables]) (by rw [htables])
    cases hold with
    | none =>
      dsimp only at h
      rw [writeReservation_bind] at h
      obtain ⟨result, w, hw, h⟩ := bind_ok_iff.mp h
      obtain ⟨-, rfl⟩ := pure_ok_iff.mp h
      obtain ⟨heffect, -⟩ := releaseReservation_ok rfl rfl hw
      have hreleased := heffect.allocates
      exact hrouted.trans ⟨hreleased.providers, hreleased.allocations⟩
    | some hold =>
      dsimp only at h
      obtain ⟨_, w, hw, h⟩ := bind_ok_iff.mp h
      have hgranted := tryHoldSelected_granted hv
      unfold Database.Granted at hgranted
      rw [← hrouted.providers] at hgranted
      exact hrouted.trans ((insertAllocation_allocates hgranted hw).trans (ih h))

theorem addWithHold_allocates {reservation : Reservation} {held : Bool}
    (h : addWithHold environment reservation s = .ok held t) : Allocates s.database t.database := by
  rw [addWithHold] at h
  obtain ⟨models, v, hv, h⟩ := bind_ok_iff.mp h
  have hstored := addReservation_ok hv
  exact (Allocates.of_same hstored.providers hstored.allocations).trans (holdItems_allocates h)

theorem Walk.run_allocates {walk : Walk} {u : Unit}
    (hid : walk.pass.context.reservationId = walk.reservation.id) (h : walk.run environment s = .ok u t) :
    Allocates s.database t.database := by
  obtain ⟨model, pass⟩ := walk
  cases pass with
  | confirm context =>
    obtain ⟨result, v, hv, h⟩ := bind_ok_iff.mp h
    obtain ⟨-, rfl⟩ := pure_ok_iff.mp h
    exact (confirmReservation_ok hid hv).1.allocates
  | release context terminalStatus =>
    have hcontext : (some context).getD (.request model.id) = context := rfl
    exact (releaseReservation_ok hcontext hid h).1.allocates

theorem walks_allocates {walks : List Walk} {u : Unit}
    (hid : ∀ walk ∈ walks, walk.pass.context.reservationId = walk.reservation.id)
    (h : forEach (Walk.run environment) walks s = .ok u t) : Allocates s.database t.database := by
  induction walks generalizing s with
  | nil =>
    obtain ⟨-, rfl⟩ := pure_ok_iff.mp h
    exact .refl _
  | cons walk walks ih =>
    rw [forEach] at h
    obtain ⟨_, v, hv, h⟩ := bind_ok_iff.mp h
    exact (Walk.run_allocates (hid walk List.mem_cons_self) hv).trans
      (ih (fun walk' hw => hid walk' (List.mem_cons_of_mem _ hw)) h)

end Steps

/-- Every step leaves the providers alone and allocates what hold-capable providers granted. -/
theorem System.step_allocates (sha256 : String → String) {database : Database}
    (hsound : database.Sound) (event : Event) : Allocates database (System.step sha256 database event) := by
  refine System.step_of_commit (.refl database) fun t ht => ?_
  cases System.commit_cases hsound.booked ht with
  | found => exact .refl _
  | walked _ h => exact walks_allocates (fun walk hw => (event.walkable database).context walk hw) h
  | created userId items idempotencyKey reservation held _ hrequest hnone hstart h =>
    exact addWithHold_allocates h
  | leveled _ heffect hexchanges =>
    have htables := heffect.tables
    exact .of_same (by rw [htables]; rfl) (by rw [htables]; rfl)

theorem confirm_providers {environment : Environment} {reservationId userId : Uuid} {s t : Session}
    {result : Option Reservation} (h : confirm environment reservationId userId s = .ok result t) :
    t.database.providers = s.database.providers := by
  cases confirm_cases h with
  | absent => rfl
  | confirmed reservation _ _ ho hstatus horder hloaded =>
    obtain ⟨⟨orders, orderItems, generated, rfl⟩, -, -⟩ := ensureOrder_ok horder
    rfl
  | walked reservation _ _ ho hstatus hwalk => exact (confirmReservation_ok rfl hwalk).1.allocates.providers

/-- No request writes a provider. -/
theorem System.step_providers (sha256 : String → String) (database : Database) (event : Event) :
    (System.step sha256 database event).providers = database.providers := by
  refine System.step_of_commit (J := fun t => t.providers = database.providers) rfl fun t ht => ?_
  have hwalks : ∀ walks : List Walk, walks = event.walks database →
      forEach (Walk.run event.environment) walks (.start database) = .ok () t →
      t.database.providers = database.providers := by
    rintro walks rfl h
    exact (walks_allocates (fun walk hw => (event.walkable database).context walk hw) h).providers
  obtain ⟨environment, request⟩ := event
  cases request with
  | create userId items idempotencyKey =>
    obtain ⟨result, hr⟩ := commitOf_eq_some_iff.mp ht
    have hcommitted : System.Committed sha256 ⟨environment, .create userId items idempotencyKey⟩ database t :=
      System.createTransaction_committed rfl hr
    cases hcommitted with
    | found => rfl
    | walked _ h => exact hwalks _ rfl h
    | created userId items idempotencyKey reservation held _ hrequest hnone hstart h =>
      exact (addWithHold_allocates h).providers
    | leveled _ heffect hexchanges => rw [heffect.tables]; rfl
  | confirm reservationId userId =>
    obtain ⟨result, hr⟩ := commitOf_eq_some_iff.mp ht
    exact confirm_providers hr
  | cancel reservationId userId =>
    obtain ⟨result, hr⟩ := commitOf_eq_some_iff.mp ht
    exact hwalks _ rfl (cancel_makes (s := .start database) result t hr)
  | expireBatch limit =>
    obtain ⟨result, hr⟩ := commitOf_eq_some_iff.mp ht
    exact hwalks _ rfl (expireBatch_makes (s := .start database) result t hr)
  | reconcileBatch limit maxAttempts retryBaseDelay =>
    obtain ⟨result, hr⟩ := commitOf_eq_some_iff.mp ht
    exact hwalks _ rfl (reconcileBatch_makes (s := .start database) result t hr)
  | setLevel productId providerId onHand allocationPriority routingGroup =>
    obtain ⟨result, hr⟩ := commitOf_eq_some_iff.mp ht
    rw [(setLevel_ok hr).1.tables]
    rfl
  | removeLevel productId providerId =>
    obtain ⟨result, hr⟩ := commitOf_eq_some_iff.mp ht
    rw [(removeLevel_ok hr).1.tables]
    rfl

end InventoryReservation
