import InventoryReservation.Meaning.Settlement

/-! # What a routed hold does to the stock

Trying the candidates of a selection, in a run that returned: only the offers table changes, and units
are reserved at the offer of the provider that granted the hold if that provider is internal. Nothing
is reserved anywhere else.
-/

namespace InventoryReservation
set_option autoImplicit false

open Relational Transactional

/-- The reserved units of the offer `k`; no offer reserves nothing. -/
def Database.reservedAt (database : Database) (k : Uuid × Uuid) : ℤ :=
  ((database.offers.find? k).map ProductOfferModel.reserved).getD 0

/-- Only offers changed, and their reserved units by `amount`. -/
structure HoldEffect (amount : Uuid × Uuid → ℤ) (s t : Session) : Prop where
  tables : t.database = { s.database with offers := t.database.offers }
  generated : t.generated = s.generated
  reserved : ∀ k, t.database.reservedAt k = s.database.reservedAt k + amount k

namespace HoldEffect
variable {s t u : Session} {amount amount' : Uuid × Uuid → ℤ}

theorem refl (s : Session) : HoldEffect 0 s s := ⟨rfl, rfl, fun _ => (add_zero _).symm⟩

theorem trans (h : HoldEffect amount s t) (h' : HoldEffect amount' t u) :
    HoldEffect (amount + amount') s u where
  tables := by
    rw [h'.tables, h.tables]
  generated := h'.generated.trans h.generated
  reserved k := by rw [h'.reserved, h.reserved, Pi.add_apply, add_assoc]

theorem exchanges (e : List (Database × Exchange)) (h : HoldEffect amount { s with exchanges := e } t) :
    HoldEffect amount s t := ⟨h.tables, h.generated, h.reserved⟩

theorem providers (h : HoldEffect amount s t) : t.database.providers = s.database.providers := by
  rw [h.tables]

end HoldEffect

/-- `quantity` units at the offer `k`. -/
def unitsAt (k : Uuid × Uuid) (quantity : ℤ) (k' : Uuid × Uuid) : ℤ := if k' = k then quantity else 0

theorem HoldEffect.of_update {s : Session} {k : Uuid × Uuid} {offer offer' : ProductOfferModel}
    {offers : Table ProductOfferModel.identity} (quantity : ℤ)
    (ho : s.database.offers.find? k = some offer)
    (hoffers : ∀ k', offers.find? k' = if k' = k then some offer' else s.database.offers.find? k')
    (hr : offer'.reserved = offer.reserved + quantity) :
    HoldEffect (unitsAt k quantity) s { s with database := { s.database with offers } } where
  tables := rfl
  generated := rfl
  reserved k' := by
    unfold Database.reservedAt unitsAt
    dsimp only
    rw [hoffers]
    by_cases hk : k' = k
    · simp only [hk, if_true, ho, Option.map_some, Option.getD_some, hr]
    · simp only [hk, if_false, add_zero]

theorem unitsAt_zero (k : Uuid × Uuid) : unitsAt k 0 = 0 := by
  funext k'
  unfold unitsAt
  split <;> rfl

theorem tryHold_ok {productId providerId : Uuid} {quantity : ℤ} {s t : Session}
    {snapshot : Option InventorySnapshot} (h : tryHold productId providerId quantity s = .ok snapshot t) :
    HoldEffect (if snapshot.isSome then unitsAt (productId, providerId) quantity else 0) s t := by
  rcases updateOffer_ok h with ⟨rfl, rfl⟩ | ⟨offer, offer', offers, ho, ha, rfl, hoffers, rfl⟩
  · exact .refl t
  · refine .of_update quantity ho hoffers ?_
    obtain ⟨-, ⟨⟩⟩ := Option.ite_none_right_eq_some.mp ha
    rfl

theorem observeAvailability_ok {productId providerId : Uuid} {attempt : ProviderAvailabilityAttempt}
    {s t : Session} {u : Unit} (h : observeAvailability productId providerId attempt s = .ok u t) :
    HoldEffect 0 s t := by
  unfold observeAvailability at h
  cases hq : attempt.availableQuantity with
  | none =>
    cases ho : attempt.outcome <;> simp only [ho, hq, pure_ok_iff] at h <;> exact h.2 ▸ .refl s
  | some availableQuantity =>
    cases ho : attempt.outcome with
    | stale =>
      simp only [ho, hq, pure_ok_iff] at h
      exact h.2 ▸ .refl s
    | temporarilyUnavailable =>
      simp only [ho, hq, pure_ok_iff] at h
      exact h.2 ▸ .refl s
    | fresh =>
      simp only [ho, hq, bind_ok_iff, pure_ok_iff] at h
      obtain ⟨snapshot, v, hv, -, rfl⟩ := h
      rcases updateOffer_ok hv with ⟨rfl, rfl⟩ | ⟨offer, offer', offers, hf, ha, rfl, hoffers, rfl⟩
      · exact .refl _
      · rw [← unitsAt_zero (productId, providerId)]
        refine .of_update 0 hf hoffers ?_
        cases ha
        exact (add_zero _).symm

/-! ## One provider -/

section Provider
variable {environment : Environment} {candidate : InventoryProviderModel}
  {provider : HoldProvider TransactionM}

theorem holdProvider_providerId (hp : holdProvider environment candidate = some provider) :
    provider.providerId = candidate.id := by
  unfold holdProvider at hp
  split at hp
  · cases hp
    rfl
  · obtain ⟨-, ⟨⟩⟩ := Option.ite_none_right_eq_some.mp hp
    rfl

theorem availability_ok (hp : holdProvider environment candidate = some provider)
    {command : AvailabilityCommand} {s t : Session} {attempt : ProviderAvailabilityAttempt}
    (h : provider.availability command s = .ok attempt t) : HoldEffect 0 s t := by
  unfold holdProvider at hp
  split at hp
  · cases hp
    rw [internalInventoryProvider] at h
    dsimp only at h
    obtain ⟨snapshot, v, hv, h⟩ := bind_ok_iff.mp h
    unfold getSnapshot at hv
    rw [readDatabase_bind] at hv
    obtain ⟨-, rfl⟩ := pure_ok_iff.mp hv
    obtain ⟨-, rfl⟩ := pure_ok_iff.mp h
    exact .refl s
  · obtain ⟨-, ⟨⟩⟩ := Option.ite_none_right_eq_some.mp hp
    rw [externalProvider] at h
    dsimp only at h
    rw [recordExchange_bind] at h
    cases hr : (environment.availability candidate.id command).attempt with
    | none =>
      simp only [hr] at h
      cases h
    | some attempt' =>
      simp only [hr, pure_ok_iff] at h
      obtain ⟨-, rfl⟩ := h
      exact .exchanges _ (.refl _)

theorem hold_ok (hp : holdProvider environment candidate = some provider) {command : HoldCommand}
    {s t : Session} {attempt : ProviderHoldAttempt} (h : provider.hold command s = .ok attempt t) :
    HoldEffect (if attempt.outcome = .held ∧ candidate.kind = .internal then
      unitsAt (command.productId, candidate.id) command.quantity else 0) s t := by
  unfold holdProvider at hp
  split at hp
  · next hk =>
    cases hp
    rw [internalInventoryProvider] at h
    dsimp only at h
    obtain ⟨snapshot, v, hv, h⟩ := bind_ok_iff.mp h
    have heffect := tryHold_ok hv
    cases snapshot with
    | none =>
      obtain ⟨rfl, rfl⟩ := pure_ok_iff.mp h
      exact heffect
    | some snapshot =>
      obtain ⟨rfl, rfl⟩ := pure_ok_iff.mp h
      rw [if_pos ⟨rfl, hk⟩]
      exact heffect
  · next hk =>
    obtain ⟨-, ⟨⟩⟩ := Option.ite_none_right_eq_some.mp hp
    rw [externalProvider] at h
    dsimp only at h
    rw [recordExchange_bind] at h
    have hne : ¬ (attempt.outcome = .held ∧ candidate.kind = .internal) := by
      rw [hk]
      rintro ⟨-, ⟨⟩⟩
    rw [if_neg hne]
    cases hr : (environment.hold candidate.id command).attempt with
    | none =>
      simp only [hr] at h
      cases h
    | some attempt' =>
      simp only [hr, pure_ok_iff] at h
      obtain ⟨-, rfl⟩ := h
      exact .exchanges _ (.refl _)

end Provider

/-! ## The router -/

/-- What the hold a router returned has reserved. -/
def grantedAmount (database : Database) (productId : Uuid) (quantity : ℤ) (hold : Option ProviderHold) :
    Uuid × Uuid → ℤ :=
  match hold with
  | none => 0
  | some hold =>
    match database.providers.find? hold.providerId with
    | some provider =>
      if provider.kind = .internal then unitsAt (productId, hold.providerId) quantity else 0
    | none => 0

/-- The providers of a router are adapters of providers the database knows. -/
def Adapts (environment : Environment) (database : Database) (providers : List (HoldProvider TransactionM)) :
    Prop :=
  ∀ provider ∈ providers, ∃ candidate, holdProvider environment candidate = some provider ∧
    database.providers.find? candidate.id = some candidate

/-- The result of trying providers: the effect on the stock, and a hold of a known provider. -/
structure RoutedHold (productId : Uuid) (quantity : ℤ) (hold : Option ProviderHold) (s t : Session) :
    Prop where
  effect : HoldEffect (grantedAmount s.database productId quantity hold) s t
  known : ∀ granted ∈ hold, (s.database.providers.find? granted.providerId).isSome

theorem RoutedHold.of_step {productId : Uuid} {quantity : ℤ} {hold : Option ProviderHold}
    {s t u : Session} (h : HoldEffect 0 s t) (h' : RoutedHold productId quantity hold t u) :
    RoutedHold productId quantity hold s u where
  effect := by
    have heffect := h.trans h'.effect
    unfold grantedAmount at heffect ⊢
    rw [zero_add, h.providers] at heffect
    exact heffect
  known granted hg := h.providers ▸ h'.known granted hg

section Router
variable {environment : Environment} {router : ProviderRouter TransactionM} {command : HoldCommand}

theorem checkAvailability_ok {provider : HoldProvider TransactionM} {candidate : InventoryProviderModel}
    (hp : holdProvider environment candidate = some provider)
    (hobserver : router.availabilityObserver = some (observeAvailability command.productId))
    {s t : Session} {skipped : Bool}
    (h : router.checkAvailability provider command s = .ok skipped t) : HoldEffect 0 s t := by
  unfold ProviderRouter.checkAvailability at h
  split at h
  · rw [hobserver] at h
    obtain ⟨availability, v, hv, h⟩ := bind_ok_iff.mp h
    obtain ⟨_, w, hw, h⟩ := bind_ok_iff.mp h
    obtain ⟨-, rfl⟩ := pure_ok_iff.mp h
    have heffect := (availability_ok hp hv).trans (observeAvailability_ok hw)
    rw [add_zero] at heffect
    exact heffect
  · obtain ⟨-, rfl⟩ := pure_ok_iff.mp h
    exact .refl _

theorem holdAmong_ok {providers : List (HoldProvider TransactionM)}
    (hobserver : router.availabilityObserver = some (observeAvailability command.productId))
    {s t : Session} (hadapts : Adapts environment s.database providers) {hold : Option ProviderHold}
    (h : router.holdAmong command providers s = .ok hold t) :
    RoutedHold command.productId command.quantity hold s t := by
  induction providers generalizing s with
  | nil =>
    obtain ⟨rfl, rfl⟩ := pure_ok_iff.mp h
    exact ⟨.refl _, fun _ hg => absurd hg (Option.not_mem_none _)⟩
  | cons provider rest ih =>
    obtain ⟨candidate, hp, hc⟩ := hadapts provider List.mem_cons_self
    rw [ProviderRouter.holdAmong] at h
    obtain ⟨skipped, v, hv, h⟩ := bind_ok_iff.mp h
    have hskip := checkAvailability_ok hp hobserver hv
    have hrest : Adapts environment v.database rest := by
      intro provider' hmem
      rw [hskip.providers]
      exact hadapts provider' (List.mem_cons_of_mem _ hmem)
    cases skipped with
    | true => exact .of_step hskip (ih hrest h)
    | false =>
      obtain ⟨attempt, w, hw, h⟩ := bind_ok_iff.mp h
      have hhold := hold_ok hp hw
      have hpassed : attempt.outcome ≠ .held →
          router.holdAmong command rest w = .ok hold t →
            RoutedHold command.productId command.quantity hold s t := by
        intro hne hnext
        rw [if_neg (fun hh => hne hh.1)] at hhold
        have hrest' : Adapts environment w.database rest := by
          intro provider' hmem
          rw [hhold.providers]
          exact hrest provider' hmem
        exact .of_step hskip (.of_step hhold (ih hrest' hnext))
      cases ho : attempt.outcome with
      | held =>
        simp only [ho] at h
        obtain ⟨rfl, rfl⟩ := pure_ok_iff.mp h
        have hid := holdProvider_providerId hp
        have hfound : v.database.providers.find? provider.providerId = some candidate := by
          rw [hid, hskip.providers]
          exact hc
        refine .of_step hskip ⟨?_, ?_⟩
        · simp only [grantedAmount, hfound]
          simp only [ho, true_and] at hhold
          rw [hid]
          exact hhold
        · intro granted hg
          cases hg
          rw [hfound]
          rfl
      | outOfStock =>
        simp only [ho] at h
        exact hpassed (by rw [ho]; decide) h
      | temporarilyUnavailable =>
        simp only [ho] at h
        exact hpassed (by rw [ho]; decide) h
      | unknown =>
        simp only [ho] at h
        cases h

theorem mem_holdCandidates {database : Database} {productId providerId : Uuid}
    {selectedRoutingGroup : Option Uuid} {candidate : InventoryProviderModel}
    (h : candidate ∈ database.holdCandidates productId providerId selectedRoutingGroup) :
    database.providers.find? candidate.id = some candidate := by
  unfold Database.holdCandidates at h
  obtain ⟨offer, -, hf⟩ := List.mem_filterMap.mp h
  obtain ⟨hf, -⟩ := Option.filter_eq_some_iff.mp hf
  rw [Table.key_of_find? hf]
  exact hf

theorem tryHoldSelected_ok {productId providerId : Uuid} {quantity : ℤ} {idempotencyKey : ProviderKey}
    {s t : Session} {hold : Option ProviderHold}
    (h : tryHoldSelected environment productId providerId quantity idempotencyKey s = .ok hold t) :
    RoutedHold productId quantity hold s t := by
  rw [tryHoldSelected, readDatabase_bind] at h
  dsimp only at h
  rw [ProviderRouter.hold] at h
  refine holdAmong_ok rfl (?_ : Adapts environment _ _) h
  intro provider hmem
  obtain ⟨candidate, hc, hp⟩ := exists_candidate hmem
  exact ⟨candidate, hp, mem_holdCandidates hc⟩

end Router
end InventoryReservation
