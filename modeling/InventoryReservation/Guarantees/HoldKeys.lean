import InventoryReservation.Meaning.Reachable
import InventoryReservation.System.Deployment
import Mathlib.Data.List.Dedup

/-! # Keys of hold requests across retries

The key of a hold request is made from the reservation id, which every create draws anew. A create that
is rolled back leaves nothing of its reservation behind, so a retry asks again, and under the same key
only if it draws the same id.
-/

namespace InventoryReservation
set_option autoImplicit false

open Relational Transactional

/-- The provider and the command of a hold request. -/
def Exchange.holdRequest? : Exchange → Option (Uuid × HoldCommand)
  | hold providerId command _ => some (providerId, command)
  | availability _ _ _ => none
  | confirm _ _ _ => none
  | release _ _ _ => none

/-- The arguments of a create call: one request of a client. -/
structure ClientRequest where
  userId : Uuid
  items : List ReservationItem
  idempotencyKey : String
  deriving DecidableEq

def Request.clientRequest? : Request → Option ClientRequest
  | .create userId items idempotencyKey => some ⟨userId, items, idempotencyKey⟩
  | .confirm _ _ => none
  | .cancel _ _ => none
  | .expireBatch _ => none
  | .reconcileBatch _ _ _ => none
  | .setLevel _ _ _ _ _ => none
  | .removeLevel _ _ => none

/-- The create draws this reservation id, if it is a create of the client's request that finds no
reservation under the key and could store one. -/
def Event.Draws (client : ClientRequest) (reservationId : Uuid) (database : Database) (event : Event) :
    Prop :=
  event.request.clientRequest? = some client →
    database.findByIdempotencyKey client.userId client.idempotencyKey = none →
      (client.items.map ReservationItem.productId).Nodup → event.environment.reservationId = reservationId

instance (client : ClientRequest) (reservationId : Uuid) (database : Database) (event : Event) :
    Decidable (event.Draws client reservationId database) :=
  inferInstanceAs (Decidable (_ → _ → _ → _))

/-- The keys under which a provider was asked to hold a product. -/
def keysAsked (providerId productId : Uuid) (requests : List (Uuid × HoldCommand)) : List ProviderKey :=
  (requests.filter fun request => request.1 = providerId ∧ request.2.productId = productId).map
    fun request => request.2.idempotencyKey

/-- Hold requests for one item carry one key: a provider that grants one hold for each key grants at
most one for the item. -/
structure SameKeys (requests : List (Uuid × HoldCommand)) : Prop where
  key : ∀ a ∈ requests, ∀ b ∈ requests, a.2.productId = b.2.productId →
    a.2.idempotencyKey = b.2.idempotencyKey
  once : ∀ providerId productId, (keysAsked providerId productId requests).dedup.length ≤ 1

namespace System
variable (sha256 : String → String) (client : ClientRequest)

/-- The hold requests that a step sends for the client's request, also if it is rolled back. -/
def holdRequests (database : Database) (event : Event) : List (Uuid × HoldCommand) :=
  if event.request.clientRequest? = some client then
    (execute sha256 event database).exchanges.filterMap fun entry => entry.2.holdRequest?
  else []

/-- The hold requests that a run sends for the client's request. -/
def holdRequestsOf : Database → List Event → List (Uuid × HoldCommand)
  | _, [] => []
  | database, event :: events =>
    holdRequests sha256 client database event ++ holdRequestsOf (step sha256 database event) events

end System

/-! ## One step -/

theorem Request.create_of_clientRequest? {request : Request} {client : ClientRequest}
    (h : request.clientRequest? = some client) :
    request = .create client.userId client.items client.idempotencyKey := by
  cases request with
  | create userId items idempotencyKey =>
    cases h
    rfl
  | confirm _ _ => cases h
  | cancel _ _ => cases h
  | expireBatch _ => cases h
  | reconcileBatch _ _ _ => cases h
  | setLevel _ _ _ _ _ => cases h
  | removeLevel _ _ => cases h

theorem Exchange.holdRequest?_of_sent {environment : Environment} {pass : Pass} {view : AllocationView}
    {entry : Database × Exchange} (h : pass.Sent environment view entry) : entry.2.holdRequest? = none := by
  cases pass with
  | confirm context =>
    rw [h.exchange]
    rfl
  | release context terminalStatus =>
    rw [h.exchange]
    rfl

/-- The hold requests of a reservation: one command for each item. -/
def HoldsFor (client : ClientRequest) (reservationId : Uuid) (request : Uuid × HoldCommand) : Prop :=
  (client.items.map ReservationItem.productId).Nodup ∧
    ∃ item ∈ client.items, request.2 = item.holdCommand reservationId

namespace System
variable {sha256 : String → String} {client : ClientRequest} {reservationId : Uuid}

theorem step_holdsFor {database : Database} {event : Event} (hwf : database.WellFormed)
    (hdraws : event.Draws client reservationId database) :
    ∀ request ∈ holdRequests sha256 client database event, HoldsFor client reservationId request := by
  intro request hr
  unfold holdRequests at hr
  split at hr
  · next hclient =>
    obtain ⟨entry, he, hentry⟩ := List.mem_filterMap.mp hr
    have hrequest := Request.create_of_clientRequest? hclient
    rcases execute_traced hwf entry he with ⟨walk, hw, before, -, view, -, hsent⟩ |
      ⟨userId, items, idempotencyKey, hcreate, hnone, hopens⟩
    · rw [Exchange.holdRequest?_of_sent hsent] at hentry
      cases hentry
    · obtain ⟨rfl, rfl, rfl⟩ := Request.create.inj (hrequest.symm.trans hcreate)
      have hid := hdraws hclient hnone hopens.distinct
      refine ⟨hopens.distinct, ?_⟩
      rcases hopens.call with ⟨item, hi, hroutes⟩ | ⟨view, -, hsent⟩
      · refine ⟨item, hi, ?_⟩
        obtain ⟨seen, exchange⟩ := entry
        cases exchange with
        | hold providerId command reply =>
          cases hentry
          rw [← hid]
          exact hroutes.1
        | availability _ _ _ => cases hentry
        | confirm _ _ _ => cases hentry
        | release _ _ _ => cases hentry
      · have hnone : entry.2.holdRequest? = none := by
          rw [hsent.exchange]
          rfl
        rw [hnone] at hentry
        cases hentry
  · exact absurd hr List.not_mem_nil

/-! ## Runs -/

theorem run_holdsFor {database : Database} {events : List Event} (hsound : database.Sound)
    (hadmissible : Runs.Admissible (step sha256) (fun database event =>
      event.Draws client reservationId database) database events) :
    ∀ request ∈ holdRequestsOf sha256 client database events, HoldsFor client reservationId request := by
  induction events generalizing database with
  | nil => exact fun _ hr => absurd hr List.not_mem_nil
  | cons event events ih =>
    obtain ⟨hdraws, hrest⟩ := hadmissible
    intro request hr
    rcases List.mem_append.mp hr with hr | hr
    · exact step_holdsFor hsound.wellFormed hdraws request hr
    · exact ih (step_sound sha256 hsound event) hrest request hr

end System

theorem dedup_length_le_one {α : Type} [DecidableEq α] {xs : List α} {a : α} (h : ∀ x ∈ xs, x = a) :
    xs.dedup.length ≤ 1 := by
  have hsub : xs.dedup ⊆ [a] := by
    intro x hx
    rw [List.mem_singleton]
    exact h x (List.mem_dedup.mp hx)
  exact (List.subperm_of_subset (List.nodup_dedup xs) hsub).length_le

/-- Requests for the items of one reservation carry one key an item. -/
theorem SameKeys.of_holdsFor {requests : List (Uuid × HoldCommand)} {client : ClientRequest}
    {reservationId : Uuid} (h : ∀ request ∈ requests, HoldsFor client reservationId request) :
    SameKeys requests := by
  have hkey : ∀ a ∈ requests, ∀ b ∈ requests, a.2.productId = b.2.productId →
      a.2.idempotencyKey = b.2.idempotencyKey := by
    intro a ha b hb hproduct
    obtain ⟨hnodup, item, hi, ha⟩ := h a ha
    obtain ⟨-, item', hi', hb⟩ := h b hb
    rw [ha, hb] at hproduct
    have hitem : item = item' := List.inj_on_of_nodup_map hnodup hi hi' hproduct
    rw [ha, hb, hitem]
  refine ⟨hkey, fun providerId productId => ?_⟩
  cases hkeys : keysAsked providerId productId requests with
  | nil => exact Nat.zero_le 1
  | cons key keys =>
    have hasked : ∀ k ∈ keysAsked providerId productId requests,
        ∃ a ∈ requests, a.2.productId = productId ∧ a.2.idempotencyKey = k := by
      intro k hk
      obtain ⟨a, ha, he⟩ := List.mem_map.mp hk
      obtain ⟨ha, hp⟩ := List.mem_filter.mp ha
      exact ⟨a, ha, (of_decide_eq_true hp).2, he⟩
    rw [← hkeys]
    obtain ⟨a, ha, hpa, hka⟩ := hasked key (by rw [hkeys]; exact List.mem_cons_self)
    refine dedup_length_le_one (a := key) fun k hk => ?_
    obtain ⟨b, hb, hpb, hkb⟩ := hasked k hk
    rw [← hka, ← hkb]
    exact hkey b hb a ha (hpb.trans hpa.symm)

namespace System
variable {sha256 : String → String}

/-- As long as the creates of a client's request that can store a reservation draw one reservation id,
the hold requests a run sends for an item of it carry one key. -/
theorem run_same_keys {database : Database} {events : List Event} {client : ClientRequest}
    (reservationId : Uuid) (hinit : database.Initial)
    (hadmissible : Runs.Admissible (step sha256) (fun database event =>
      event.Draws client reservationId database) database events) :
    SameKeys (holdRequestsOf sha256 client database events) :=
  .of_holdsFor (run_holdsFor (.of_initial hinit) hadmissible)

/-- The hold of the first create has an unknown outcome; the retry draws the same id. -/
theorem run_same_keys_retried :
    SameKeys (holdRequestsOf Deployment.sha256 ⟨7, [Deployment.line 2 20 1], "a"⟩ Deployment.database
      [Deployment.leavingHolds .unknown (Deployment.create 1000 100 0 [Deployment.line 2 20 1] "a"),
        Deployment.create 1100 100 1 [Deployment.line 2 20 1] "a"]) :=
  run_same_keys 100 Deployment.initial (by decide +kernel)

/-- The hold of the first create has an unknown outcome; the retry draws an id of its own. -/
theorem create_asks_under_new_key :
    ¬ ∀ (sha256 : String → String) (database : Database) (events : List Event) (client : ClientRequest),
      database.Initial → SameKeys (holdRequestsOf sha256 client database events) := by
  intro h
  have hrun := h Deployment.sha256 Deployment.database
    [Deployment.leavingHolds .unknown (Deployment.create 1000 100 0 [Deployment.line 2 20 1] "a"),
      Deployment.create 1100 101 1 [Deployment.line 2 20 1] "a"]
    ⟨7, [Deployment.line 2 20 1], "a"⟩ Deployment.initial
  have honce := hrun.once 20 2
  revert honce
  decide +kernel

end System
end InventoryReservation
