import InventoryReservation.Concurrency.OfferWrites

/-! # Concurrent hold loops

Any number of creates hold their items at internal offers at the same time. Each is taken apart into
its hold updates: the hold loop goes through the items in the order of the request and, for each item,
through the candidates in the order of the candidate query until one grants the units; where none does,
the compensation gives back what the create holds. An update locks its offer until the create commits or
aborts, and an update of an offer that another create has locked waits.
-/

namespace InventoryReservation
set_option autoImplicit false

open Relational Transactional RowLocking

/-! ## The candidates of an item -/

def Database.selectedRoutingGroup (database : Database) (item : ReservationItem) : Option Uuid :=
  (database.offers.find? (item.productId, item.providerId)).bind ProductOfferModel.routingGroup

/-- The providers that routing an item goes through. -/
def Database.itemCandidates (database : Database) (item : ReservationItem) : List InventoryProviderModel :=
  database.holdCandidates item.productId item.providerId (database.selectedRoutingGroup item)

/-- A request whose items can only be held at internal offers. -/
structure InternalRequest (database : Database) where
  items : List ReservationItem
  internal : ∀ item ∈ items, ∀ candidate ∈ database.itemCandidates item, candidate.kind = .internal

/-! ## Hold loops, one update at a time -/

/-- An item not yet held, and its candidates not yet tried. -/
structure OpenItem where
  item : ReservationItem
  candidates : List OfferKey

def Database.openItem (database : Database) (item : ReservationItem) : OpenItem where
  item
  candidates := (database.itemCandidates item).map fun candidate => (item.productId, candidate.id)

/-- The units a create holds, each with its offer. -/
abbrev HeldUnits := List (OfferKey × Quantity)

inductive Checkout where
  | holding (items : List OpenItem) (held : HeldUnits)
  /-- Compensating: these units are still to be given back. -/
  | releasing (held : HeldUnits)
  /-- No update is left to run. -/
  | finished

namespace Checkout

/-- The offers that the next update of a create can address; the releases of a compensation come in no
particular order. -/
def Wants : Checkout → OfferKey → Prop
  | holding [] _, _ => False
  | holding (⟨_, []⟩ :: _) _, _ => False
  | holding (⟨_, candidate :: _⟩ :: _) _, k => k = candidate
  | releasing held, k => ∃ entry ∈ held, entry.1 = k
  | finished, _ => False

instance : DecidableRel Wants
  | holding [] _, _ => isFalse id
  | holding (⟨_, []⟩ :: _) _, _ => isFalse id
  | holding (⟨_, candidate :: _⟩ :: _) _, k => inferInstanceAs (Decidable (k = candidate))
  | releasing held, k => inferInstanceAs (Decidable (∃ entry ∈ held, entry.1 = k))
  | finished, _ => isFalse id

/-- All items are held, or everything has been given back. -/
def commits : Checkout → Bool
  | holding [] _ => true
  | releasing [] => true
  | _ => false

end Checkout

structure Checkouts (τ : Type) where
  offers : Store OfferKey τ ProductOfferModel
  calls : τ → Checkout

inductive CheckoutMove (τ : Type) where
  /-- The next step of the hold loop of a create. -/
  | hold (t : τ)
  /-- The next release of its compensation. -/
  | release (t : τ) (k : OfferKey)
  | commit (t : τ)
  | abort (t : τ)

namespace Checkouts
variable {τ : Type} [DecidableEq τ]

def start {database : Database} (requests : τ → InternalRequest database) : Checkouts τ where
  offers := Store.of database.offers.find?
  calls t := .holding ((requests t).items.map database.openItem) []

/-- Run an update of an offer and go on with the create, in one way when a row was updated and in
another when not; while another create has the offer locked, nothing happens. -/
def update (s : Checkouts τ) (t : τ) (k : OfferKey) (write : OfferWrite) (updated passed : Checkout) :
    Checkouts τ :=
  if (s.offers k).LockedFor t then s
  else
    { offers := s.offers.execute OfferWrite.effect t k write
      calls := Function.update s.calls t
        (if (write.effect k (s.offers k).latest).isSome then updated else passed) }

def hold (s : Checkouts τ) (t : τ) : Checkouts τ :=
  match s.calls t with
  | .holding (⟨_, []⟩ :: _) held => { s with calls := Function.update s.calls t (.releasing held) }
  | .holding (⟨item, k :: candidates⟩ :: items) held =>
    s.update t k (.tryHold item.quantity.units) (.holding items ((k, item.quantity) :: held))
      (.holding (⟨item, candidates⟩ :: items) held)
  | _ => s

/-- A release that finds no row to update raises, which leaves the create to abort. -/
def release (s : Checkouts τ) (t : τ) (k : OfferKey) : Checkouts τ :=
  match s.calls t with
  | .releasing held =>
    match held.find? fun entry => entry.1 = k with
    | some entry => s.update t k (.releaseHold entry.2.units) (.releasing (held.erase entry)) .finished
    | none => s
  | _ => s

def commit (s : Checkouts τ) (t : τ) : Checkouts τ :=
  if (s.calls t).commits then
    { offers := s.offers.commit t
      calls := Function.update s.calls t .finished }
  else s

def abort (s : Checkouts τ) (t : τ) : Checkouts τ where
  offers := s.offers.abort t
  calls := Function.update s.calls t .finished

def step (s : Checkouts τ) : CheckoutMove τ → Checkouts τ
  | .hold t => s.hold t
  | .release t k => s.release t k
  | .commit t => s.commit t
  | .abort t => s.abort t

abbrev run (s : Checkouts τ) (moves : List (CheckoutMove τ)) : Checkouts τ := Runs.run step s moves

/-- Creates wait in a circle, each for an offer locked by the next. -/
def WaitCycle (s : Checkouts τ) : Prop := s.offers.WaitCycle fun t k => (s.calls t).Wants k

end Checkouts

/-! ## The code takes these steps -/

/-- What routing an item comes to among internal candidates. -/
def holdFirst (quantity : ℤ) : List OfferKey → TransactionM (Option ProviderHold)
  | [] => pure none
  | k :: candidates => do
    let snapshot ← tryHold k.1 k.2 quantity
    match snapshot with
    | some _ => pure (some ⟨k.2, none⟩)
    | none => holdFirst quantity candidates

section Routing
variable {router : ProviderRouter TransactionM} {command : HoldCommand} {session : Session}

theorem holdAmong_internal (hlisted : router.availabilityProviderIds = []) (providerIds : List Uuid) :
    router.holdAmong command (providerIds.map internalInventoryProvider) session =
      holdFirst command.quantity (providerIds.map fun providerId => (command.productId, providerId)) session := by
  induction providerIds generalizing session with
  | nil => rfl
  | cons providerId providerIds ih =>
    rw [List.map_cons, List.map_cons, ProviderRouter.holdAmong, holdFirst]
    have hcheck : router.checkAvailability (internalInventoryProvider providerId) command session =
        .ok false session := by
      unfold ProviderRouter.checkAvailability
      rw [hlisted, if_neg List.not_mem_nil]
      rfl
    rw [bind_of_ok hcheck, if_neg Bool.false_ne_true]
    cases hhold : tryHold command.productId providerId command.quantity session with
    | error failure t =>
      have hasked : (internalInventoryProvider providerId).hold command session = .error failure t :=
        bind_of_error hhold
      rw [bind_of_error hasked, bind_of_error hhold]
    | ok snapshot t =>
      cases snapshot with
      | none =>
        have hasked : (internalInventoryProvider providerId).hold command session = .ok ⟨.outOfStock, none⟩ t :=
          bind_of_ok hhold
        rw [bind_of_ok hasked, bind_of_ok hhold]
        exact ih
      | some snapshot =>
        have hasked : (internalInventoryProvider providerId).hold command session = .ok ⟨.held, none⟩ t :=
          bind_of_ok hhold
        rw [bind_of_ok hasked, bind_of_ok hhold]
        rfl

/-- Routing an item tries its candidates one after the other. -/
theorem tryHoldSelected_internal (environment : Environment) {item : ReservationItem} (quantity : ℤ)
    (key : ProviderKey)
    (hinternal : ∀ candidate ∈ session.database.itemCandidates item, candidate.kind = .internal) :
    tryHoldSelected environment item.productId item.providerId quantity key session =
      holdFirst quantity (session.database.openItem item).candidates session := by
  unfold Database.openItem
  unfold Database.itemCandidates Database.selectedRoutingGroup at hinternal ⊢
  rw [tryHoldSelected, readDatabase_bind]
  dsimp only
  generalize session.database.holdCandidates item.productId item.providerId
    ((session.database.offers.find? (item.productId, item.providerId)).bind
      ProductOfferModel.routingGroup) = candidates at hinternal ⊢
  have hconfigured : (candidates.filterMap fun candidate =>
      (holdProvider environment candidate).map fun provider => (candidate, provider)) =
        candidates.map fun candidate => (candidate, internalInventoryProvider candidate.id) := by
    rw [← List.filterMap_eq_map]
    apply List.filterMap_congr
    intro candidate hc
    unfold holdProvider
    rw [hinternal candidate hc]
    rfl
  have hlisted : ((candidates.map fun candidate => (candidate, internalInventoryProvider candidate.id)).filterMap
      fun entry => if entry.1.kind = .external ∧ entry.1.supportsAvailability then some entry.1.id else none) =
        [] := by
    rw [List.filterMap_eq_nil_iff]
    intro entry he
    obtain ⟨candidate, hc, rfl⟩ := List.mem_map.mp he
    rw [hinternal candidate hc]
    exact if_neg fun h => by cases h.1
  rw [hconfigured]
  unfold ProviderRouter.hold
  have hproviders : (candidates.map fun candidate => (candidate, internalInventoryProvider candidate.id)).map
      Prod.snd = (candidates.map InventoryProviderModel.id).map internalInventoryProvider := by
    rw [List.map_map, List.map_map]
    rfl
  dsimp only
  rw [hproviders, holdAmong_internal hlisted, List.map_map]
  rfl

end Routing

/-! ## A create alone -/

/-- The latest versions are the offers of the database. -/
def Shows {τ : Type} (offers : Store OfferKey τ ProductOfferModel) (database : Database) : Prop :=
  ∀ k, (offers k).latest = database.offers.find? k

namespace Checkouts
variable {τ : Type} [DecidableEq τ] {s : Checkouts τ} {t : τ} {session session' : Session}

/-- The create has come to this call and the offers to those of the database; nothing is locked for it
that was not. -/
structure Advanced (s s' : Checkouts τ) (t : τ) (call : Checkout) (database : Database) : Prop where
  offers : Shows s'.offers database
  free : ∀ k, ¬ (s.offers k).LockedFor t → ¬ (s'.offers k).LockedFor t
  call : s'.calls t = call

omit [DecidableEq τ] in
theorem Advanced.trans {s s' s'' : Checkouts τ} {call call' : Checkout} {database database' : Database}
    (h : Advanced s s' t call database) (h' : Advanced s' s'' t call' database') :
    Advanced s s'' t call' database' where
  offers := h'.offers
  free k hk := h'.free k (h.free k hk)
  call := h'.call

/-- A hold at a candidate, as the code runs it and as a step of the hold loop. -/
theorem hold_advanced {item : ReservationItem} {k : OfferKey} {candidates : List OfferKey}
    {items : List OpenItem} {held : HeldUnits} {snapshot : Option InventorySnapshot}
    (hcall : s.calls t = .holding (⟨item, k :: candidates⟩ :: items) held)
    (hfree : ¬ (s.offers k).LockedFor t) (hshows : Shows s.offers session.database)
    (hcode : tryHold k.1 k.2 item.quantity.units session = .ok snapshot session') :
    Advanced s (s.hold t) t (if snapshot.isSome then .holding items ((k, item.quantity) :: held)
      else .holding (⟨item, candidates⟩ :: items) held) session'.database := by
  unfold tryHold at hcode
  have hhold : s.hold t = { offers := s.offers.execute OfferWrite.effect t k (.tryHold item.quantity.units),
                            calls := Function.update s.calls t
                              (if ((OfferWrite.tryHold item.quantity.units).effect k (s.offers k).latest).isSome
                                then .holding items ((k, item.quantity) :: held)
                                else .holding (⟨item, candidates⟩ :: items) held) } := by
    unfold hold
    rw [hcall]
    exact if_neg hfree
  rw [hhold]
  have hlocks : ∀ k', ¬ (s.offers k').LockedFor t →
      ¬ (s.offers.execute OfferWrite.effect t k (.tryHold item.quantity.units) k').LockedFor t := by
    rintro k' hk' ⟨u, hu, hne⟩
    rcases (Store.owner_execute_iff hfree).mp hu with hu | ⟨rfl, -⟩
    · exact hk' ⟨u, hu, hne⟩
    · exact hne rfl
  have heffect : (OfferWrite.tryHold item.quantity.units).effect k (s.offers k).latest =
      ((session.database.offers.find? k).bind (OfferStatement.tryHold item.quantity.units).apply).map some := by
    rw [hshows k]
    rfl
  cases hu : session.database.updated (.tryHold item.quantity.units) k with
  | error failure => cases (updateOffer_error hu).symm.trans hcode
  | ok row =>
    cases row with
    | none =>
      cases (updateOffer_none hu).symm.trans hcode
      rw [(Database.updated_none_iff.mp hu).2] at heffect
      refine ⟨?_, hlocks, ?_⟩
      · dsimp only
        rw [Store.execute_of_none heffect]
        exact hshows
      · dsimp only
        rw [Function.update_self, heffect]
        rfl
    | some offer =>
      obtain ⟨offers, hupdate, hfind, -⟩ := updateOffer_some hu
      cases hupdate.symm.trans hcode
      rw [(Database.updated_some_iff.mp hu).2.1] at heffect
      refine ⟨fun k' => ?_, hlocks, ?_⟩
      · dsimp only
        rw [Store.execute_of_some hfree heffect, hfind]
        by_cases hk : k' = k
        · subst hk
          rw [Function.update_self, if_pos rfl]
          rfl
        · rw [Function.update_of_ne hk, if_neg hk]
          exact hshows k'
      · dsimp only
        rw [Function.update_self, heffect]
        rfl

/-- The create after its candidates were tried: it goes on to the next item, or to compensation. -/
def afterItem (item : ReservationItem) (items : List OpenItem) (held : HeldUnits) :
    Option ProviderHold → Checkout
  | some hold => .holding items (((item.productId, hold.providerId), item.quantity) :: held)
  | none => .releasing held

theorem holdFirst_advanced {item : ReservationItem} {candidates : List OfferKey} {items : List OpenItem}
    {held : HeldUnits} {answer : Option ProviderHold}
    (hcall : s.calls t = .holding (⟨item, candidates⟩ :: items) held)
    (hproduct : ∀ k ∈ candidates, k.1 = item.productId) (hfree : ∀ k ∈ candidates, ¬ (s.offers k).LockedFor t)
    (hshows : Shows s.offers session.database)
    (hcode : holdFirst item.quantity.units candidates session = .ok answer session') :
    ∃ n, Advanced s (s.run (List.replicate n (.hold t))) t (afterItem item items held answer)
      session'.database := by
  induction candidates generalizing s session with
  | nil =>
    obtain ⟨rfl, rfl⟩ := pure_ok_iff.mp hcode
    refine ⟨1, ?_⟩
    have hhold : s.hold t = { s with calls := Function.update s.calls t (.releasing held) } := by
      unfold hold
      rw [hcall]
    change Advanced s (s.hold t) t _ _
    rw [hhold]
    exact ⟨hshows, fun _ hk => hk, Function.update_self ..⟩
  | cons k candidates ih =>
    rw [holdFirst] at hcode
    obtain ⟨snapshot, session'', hhold, hrest⟩ := bind_ok_iff.mp hcode
    have hstep := hold_advanced hcall (hfree k List.mem_cons_self) hshows hhold
    cases snapshot with
    | some snapshot =>
      obtain ⟨rfl, rfl⟩ := pure_ok_iff.mp hrest
      refine ⟨1, ?_⟩
      rw [afterItem, ← hproduct k List.mem_cons_self]
      exact hstep
    | none =>
      obtain ⟨n, hn⟩ := ih hstep.call (fun k' hk' => hproduct k' (List.mem_cons_of_mem _ hk'))
        (fun k' hk' => hstep.free k' (hfree k' (List.mem_cons_of_mem _ hk'))) hstep.offers hrest
      exact ⟨n + 1, hstep.trans hn⟩

/-- Routing an item is a number of steps of the hold loop, as long as no other create has a candidate
locked. -/
theorem tryHoldSelected_advanced (environment : Environment) (key : ProviderKey) {item : ReservationItem}
    {items : List OpenItem} {held : HeldUnits} {answer : Option ProviderHold}
    (hcall : s.calls t = .holding (session.database.openItem item :: items) held)
    (hinternal : ∀ candidate ∈ session.database.itemCandidates item, candidate.kind = .internal)
    (hfree : ∀ k ∈ (session.database.openItem item).candidates, ¬ (s.offers k).LockedFor t)
    (hshows : Shows s.offers session.database)
    (hcode : tryHoldSelected environment item.productId item.providerId item.quantity.units key session =
      .ok answer session') :
    ∃ n, Advanced s (s.run (List.replicate n (.hold t))) t (afterItem item items held answer)
      session'.database := by
  rw [tryHoldSelected_internal environment _ key hinternal] at hcode
  refine holdFirst_advanced hcall (fun k hk => ?_) hfree hshows hcode
  obtain ⟨candidate, -, rfl⟩ := List.mem_map.mp hk
  rfl

end Checkouts
end InventoryReservation
