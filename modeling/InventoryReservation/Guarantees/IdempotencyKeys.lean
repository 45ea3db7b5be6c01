import InventoryReservation.Guarantees.DistinctRequests
import InventoryReservation.Meaning.SettlingRequests
import InventoryReservation.System.Deployment

/-! # A key stands for one request

As long as no reservation id is drawn twice, a provider can take an `Idempotency-Key` for the request: in a
whole run, rolled back transactions included, everything it gets under one key is the same request, and the
request to hold comes once.
-/

namespace InventoryReservation
set_option autoImplicit false

open Relational

/-- The reservation id a request of this kind draws. -/
def Event.drawn? (event : Event) : Option Uuid :=
  match event.request with
  | .create _ _ _ => some event.environment.reservationId
  | .confirm _ _ => none
  | .cancel _ _ => none
  | .expireBatch _ => none
  | .reconcileBatch _ _ _ => none
  | .setLevel _ _ _ _ _ => none
  | .removeLevel _ _ => none

def ProviderRequest.isHold : ProviderRequest → Bool
  | hold _ _ => true
  | availability _ _ => false
  | confirm _ _ => false
  | release _ _ => false

/-- No provider gets two different requests under one key, or one hold request twice. -/
structure KeysIdentify (requests : List ProviderRequest) : Prop where
  identifies : ∀ a ∈ requests, ∀ b ∈ requests, a.providerId = b.providerId →
    a.idempotencyKey = b.idempotencyKey → a = b
  holds : (requests.filter ProviderRequest.isHold).Nodup

namespace System
variable (sha256 : String → String)

/-- What the providers are asked in a step, whether its transaction commits or not. -/
def requests (database : Database) (event : Event) : List ProviderRequest :=
  (execute sha256 event database).exchanges.map fun entry => entry.2.request

/-- What the providers are asked in a run. -/
abbrev requestsOf (database : Database) (events : List Event) : List ProviderRequest :=
  Runs.trace (step sha256) (requests sha256) database events

end System

/-! ## One step -/

/-- A request of a create that found its id free: a hold of one of its items, or a release of what it held. -/
inductive ProviderRequest.OfCreate (reservationId : Uuid) (request : ProviderRequest) : Prop
  | hold (providerId : Uuid) (command : HoldCommand) (productId selected : Uuid)
      (h : request = .hold providerId command)
      (hkey : command.idempotencyKey = .hold reservationId productId selected)
  | release (view : AllocationView) (h : request = SettlementKind.release.settling reservationId view)

theorem Exchange.ofCreate_of_routesFor {environment : Environment} {reservationId : Uuid} {item : ReservationItem}
    {exchange : Exchange} (h : exchange.routesFor environment (item.holdCommand reservationId))
    {key : ProviderKey} (hkey : exchange.request.key = .operation key) :
    exchange.request.OfCreate reservationId ∧ key.reservationId = reservationId := by
  cases exchange with
  | availability providerId command reply => cases hkey
  | hold providerId command reply =>
    have hcommand : command = item.holdCommand reservationId := h.1
    have hidentical : command.idempotencyKey = key := IdempotencyKey.operation.inj hkey
    rw [hcommand] at hidentical
    exact ⟨.hold providerId command item.productId item.providerId rfl (by rw [hcommand]; rfl),
      hidentical ▸ rfl⟩
  | confirm providerId command reply => exact absurd h id
  | release providerId command reply => exact absurd h id

namespace System
variable {sha256 : String → String} {database : Database} {event : Event} {r : Uuid}

/-- A request under an operation's key is about a stored reservation, or is made by the create that drew its
id. -/
theorem request_cases (hsound : database.Sound) {request : ProviderRequest}
    (hrequest : request ∈ requests sha256 database event) {key : ProviderKey} (hkey : request.key = .operation key) :
    (∃ before, database.aggregate? key.reservationId = some before ∧
      ∃ kind : SettlementKind, ∃ view ∈ before.allocations, request = kind.settling key.reservationId view) ∨
    (database.aggregate? key.reservationId = none ∧ event.drawn? = some key.reservationId ∧
      request.OfCreate key.reservationId) := by
  obtain ⟨entry, he, rfl⟩ := List.mem_map.mp hrequest
  rcases execute_traced hsound.wellFormed entry he with ⟨walk, hw, before, hb, view, hv, hsent⟩ |
    ⟨userId, items, idempotencyKey, hcreate, -, hopens⟩
  · have hasked := hsent.request
    rw [event.walk_context hw] at hasked
    have hr : key.reservationId = walk.reservation.id := by
      rw [hasked, SettlementKind.settling_key] at hkey
      rw [← IdempotencyKey.operation.inj hkey, SettlementKind.key_reservationId]
    rw [hr]
    exact Or.inl ⟨before, hb, walk.pass.kind, view, hv, hasked⟩
  · have hdrawn : event.drawn? = some event.environment.reservationId := by
      unfold Event.drawn?
      rw [hcreate]
    have hfree : database.aggregate? event.environment.reservationId = none := by
      unfold Database.aggregate?
      rw [hopens.free]
      rfl
    rcases hopens.call with ⟨item, -, hroutes⟩ | ⟨view, -, hsent⟩
    · obtain ⟨hof, hr⟩ := Exchange.ofCreate_of_routesFor hroutes hkey
      rw [hr]
      exact Or.inr ⟨hfree, hdrawn, hof⟩
    · have hpass : (Pass.release (.request event.environment.reservationId) .failed).Sent event.environment view
        entry := hsent
      have hasked : entry.2.request =
          SettlementKind.release.settling event.environment.reservationId view := hpass.request
      have hr : key.reservationId = event.environment.reservationId := by
        rw [hasked, SettlementKind.settling_key] at hkey
        rw [← IdempotencyKey.operation.inj hkey, SettlementKind.key_reservationId]
      rw [hr]
      exact Or.inr ⟨hfree, hdrawn, .release view hasked⟩

/-- A stored reservation keeps the requests that settle its allocations. -/
theorem step_views (hsound : database.Sound) (event : Event) {before : Aggregate}
    (hb : database.aggregate? r = some before) :
    ∃ after, (step sha256 database event).aggregate? r = some after ∧ ∀ view' ∈ after.allocations,
      ∃ view ∈ before.allocations, ∀ kind : SettlementKind, kind.settling r view' = kind.settling r view := by
  have hchange := (step_transition sha256 hsound event).changes r
  rw [hb] at hchange
  generalize (step sha256 database event).aggregate? r = after? at hchange
  cases hchange with
  | kept => exact ⟨before, rfl, fun view hv => ⟨view, hv, fun _ => rfl⟩⟩
  | walked walk before after hwalk hreservation hid happlies hanswered =>
    refine ⟨after, rfl, fun view' hv' => ?_⟩
    obtain ⟨view, hv, rfl⟩ := happlies.mem_allocations hv'
    exact ⟨view, hv, fun kind => Pass.settle_settling _ _ _ _ _⟩

/-- Only the create that draws an id stores a reservation under it. -/
theorem step_free (hsound : database.Sound) (hb : database.aggregate? r = none) (hdrawn : event.drawn? ≠ some r) :
    (step sha256 database event).aggregate? r = none := by
  cases ha : (step sha256 database event).aggregate? r with
  | none => rfl
  | some after =>
    obtain ⟨userId, items, idempotencyKey, reservation, hcreate, hstart, hid, -⟩ := step_founded hsound hb ha
    refine absurd ?_ hdrawn
    unfold Event.drawn?
    rw [hcreate, ← hid, Reservation.start_id hstart]
    rfl

/-- A create that stored its reservation left the allocations it asked to release. -/
theorem compensated_request (hsound : database.Sound) (hb : database.aggregate? r = none) {after : Aggregate}
    (ha : (step sha256 database event).aggregate? r = some after) {request : ProviderRequest}
    (hrequest : request ∈ requests sha256 database event) {view : AllocationView}
    (hrelease : request = SettlementKind.release.settling r view) :
    ∃ view ∈ after.allocations, request = SettlementKind.release.settling r view := by
  obtain ⟨entry, he, rfl⟩ := List.mem_map.mp hrequest
  have hroutes : ¬ entry.2.routes := by
    obtain ⟨seen, exchange⟩ := entry
    cases exchange with
    | availability providerId command reply => cases hrelease
    | hold providerId command reply => cases hrelease
    | confirm providerId command reply => exact id
    | release providerId command reply => exact id
  obtain ⟨userId, items, idempotencyKey, reservation, -, -, rfl, hfounded⟩ := step_founded hsound hb ha
  cases hfounded with
  | held aggregate h hall => exact absurd (hall entry he) hroutes
  | compensated before aggregate done h hr hsent hanswered =>
    rcases hsent entry he with hrouted | ⟨view₀, hv₀, hsent⟩
    · exact absurd hrouted hroutes
    · have hpass : (Pass.release (.request reservation.id) .failed).Sent event.environment view₀ entry := hsent
      refine ⟨releasing.settle event.environment (.request reservation.id) view₀, ?_, hpass.request⟩
      rw [hr.allocations]
      exact List.mem_map_of_mem hv₀

/-! ## What a run asks -/

/-- About a stored reservation, only for its allocations. -/
theorem requestsOf_stored (hsound : database.Sound) {events : List Event} {aggregate : Aggregate}
    (ha : database.aggregate? r = some aggregate) {request : ProviderRequest}
    (hrequest : request ∈ requestsOf sha256 database events) {key : ProviderKey}
    (hkey : request.key = .operation key) (hr : key.reservationId = r) :
    ∃ kind : SettlementKind, ∃ view ∈ aggregate.allocations, request = kind.settling r view := by
  induction events generalizing database aggregate with
  | nil => exact absurd hrequest List.not_mem_nil
  | cons event events ih =>
    rcases List.mem_append.mp hrequest with hhead | htail
    · rcases request_cases hsound hhead hkey with ⟨before, hb, kind, view, hv, hasked⟩ | ⟨hnone, -, -⟩
      · rw [hr] at hb hasked
        cases ha.symm.trans hb
        exact ⟨kind, view, hv, hasked⟩
      · rw [hr] at hnone
        cases ha.symm.trans hnone
    · obtain ⟨after, hafter, hviews⟩ := step_views hsound event ha
      obtain ⟨kind, view', hv', hasked⟩ := ih (step_sound sha256 hsound event) hafter htail
      obtain ⟨view, hv, hsame⟩ := hviews view' hv'
      exact ⟨kind, view, hv, hasked.trans (hsame kind)⟩

/-- Nothing about a reservation that is not stored and whose id is not drawn. -/
theorem requestsOf_free (hsound : database.Sound) {events : List Event} (hb : database.aggregate? r = none)
    (hdrawn : r ∉ events.filterMap Event.drawn?) {request : ProviderRequest}
    (hrequest : request ∈ requestsOf sha256 database events) {key : ProviderKey}
    (hkey : request.key = .operation key) : key.reservationId ≠ r := by
  intro hr
  induction events generalizing database with
  | nil => exact absurd hrequest List.not_mem_nil
  | cons event events ih =>
    have hhead : event.drawn? ≠ some r := fun h => hdrawn (List.mem_filterMap.mpr ⟨event, List.mem_cons_self, h⟩)
    have htail : r ∉ events.filterMap Event.drawn? := by
      intro h
      obtain ⟨later, hlater, h⟩ := List.mem_filterMap.mp h
      exact hdrawn (List.mem_filterMap.mpr ⟨later, List.mem_cons_of_mem _ hlater, h⟩)
    rcases List.mem_append.mp hrequest with hnow | hlater
    · rcases request_cases hsound hnow hkey with ⟨before, hstored, -⟩ | ⟨-, hdraws, -⟩
      · rw [hr, hb] at hstored
        cases hstored
      · exact hhead (hr ▸ hdraws)
    · exact ih (step_sound sha256 hsound event) (step_free hsound hb hhead) htail hlater

/-! ## One step and the rest -/

/-- A request of the step and a later one under the same key to the same provider are the same, and do not
hold. -/
theorem requests_agree (hsound : database.Sound) {events : List Event}
    (hfresh : ((event :: events).filterMap Event.drawn?).Nodup) {a b : ProviderRequest}
    (ha : a ∈ requests sha256 database event)
    (hb : b ∈ requestsOf sha256 (step sha256 database event) events) (hsame : a.address = b.address) :
    a = b ∧ a.isHold = false := by
  obtain ⟨hprovider, hkeys⟩ := Prod.ext_iff.mp hsame
  have hsound' := step_sound sha256 hsound event
  cases hka : a.key with
  | availability productId =>
    have hkb : b.key = .availability productId := hkeys.symm.trans hka
    cases a with
    | availability providerId command =>
      cases b with
      | availability providerId' command' =>
        have hproduct : command = command' := by
          cases command
          cases command'
          exact congrArg AvailabilityCommand.mk (IdempotencyKey.availability.inj (hka.trans hkb.symm))
        exact ⟨congrArg₂ ProviderRequest.availability hprovider hproduct, rfl⟩
      | hold _ _ => cases hkb
      | confirm _ _ => cases hkb
      | release _ _ => cases hkb
    | hold _ _ => cases hka
    | confirm _ _ => cases hka
    | release _ _ => cases hka
  | operation key =>
    have hkb : b.key = .operation key := hkeys.symm.trans hka
    rcases request_cases hsound ha hka with ⟨before, hbefore, kind, view, hv, hasked⟩ | ⟨hnone, hdrawn, hof⟩
    · obtain ⟨after, hafter, hviews⟩ := step_views hsound event hbefore
      obtain ⟨kind', view', hv', hasked'⟩ := requestsOf_stored hsound' hafter hb hkb rfl
      obtain ⟨view'', hv'', hkept⟩ := hviews view' hv'
      rw [hkept] at hasked'
      rw [hasked, SettlementKind.settling_key] at hka
      rw [hasked', SettlementKind.settling_key] at hkb
      obtain ⟨rfl, -, hid⟩ := SettlementKind.key_inj.mp (IdempotencyKey.operation.inj (hka.trans hkb.symm))
      rw [Database.view_unique hbefore hbefore hv hv'' hid] at hasked
      refine ⟨hasked.trans hasked'.symm, ?_⟩
      rw [hasked]
      cases kind <;> rfl
    · cases hstored : (step sha256 database event).aggregate? key.reservationId with
      | none =>
        have hlater : key.reservationId ∉ events.filterMap Event.drawn? := by
          rw [List.filterMap_cons_some hdrawn] at hfresh
          exact (List.nodup_cons.mp hfresh).1
        exact absurd rfl (requestsOf_free hsound' hstored hlater hb hkb)
      | some after =>
        obtain ⟨kind', view', hv', hasked'⟩ := requestsOf_stored hsound' hstored hb hkb rfl
        rw [hasked', SettlementKind.settling_key] at hkb
        have hkey := IdempotencyKey.operation.inj hkb
        cases hof with
        | hold providerId command productId selected h hhold =>
          rw [h] at hka
          exact absurd (hhold.symm.trans ((IdempotencyKey.operation.inj hka).trans hkey.symm))
            (kind'.key_ne_hold _ _ _ _ _)
        | release view h =>
          obtain ⟨view₀, hv₀, hasked⟩ := compensated_request hsound hnone hstored ha h
          rw [hasked, SettlementKind.settling_key] at hka
          obtain ⟨rfl, -, hid⟩ := SettlementKind.key_inj.mp (hkey.trans (IdempotencyKey.operation.inj hka).symm)
          rw [Database.view_unique hstored hstored hv' hv₀ hid] at hasked'
          exact ⟨hasked.trans hasked'.symm, by rw [hasked]; rfl⟩

/-! ## Runs -/

theorem requests_identify (a b : ProviderRequest) (ha : a ∈ requests sha256 database event)
    (hb : b ∈ requests sha256 database event) (hsame : a.address = b.address) : a = b := by
  obtain ⟨entry, he, rfl⟩ := List.mem_map.mp ha
  obtain ⟨entry', he', rfl⟩ := List.mem_map.mp hb
  rw [List.inj_on_of_nodup_map (execute_addresses_nodup sha256 event database) he he' hsame]

/-- In any run whose creates draw distinct ids, a key stands for one request. -/
theorem run_keys_identify (sha256 : String → String) {database : Database} (hinit : database.Initial)
    {events : List Event} (hfresh : (events.filterMap Event.drawn?).Nodup) :
    KeysIdentify (requestsOf sha256 database events) := by
  have haddress : ∀ {a b : ProviderRequest}, a.providerId = b.providerId → a.idempotencyKey = b.idempotencyKey →
      a.address = b.address := fun hprovider hkey =>
    Prod.ext hprovider (IdempotencyKey.text_injective hkey)
  have hsound : database.Sound := .of_initial hinit
  clear hinit
  induction events generalizing database with
  | nil =>
    constructor
    · exact fun a ha => absurd ha List.not_mem_nil
    · exact List.nodup_nil
  | cons event events ih =>
    have hrest : (events.filterMap Event.drawn?).Nodup :=
      hfresh.sublist ((List.sublist_cons_self event events).filterMap _)
    obtain ⟨hidentifies, hholds⟩ := ih hrest (step_sound sha256 hsound event)
    constructor
    · intro a ha b hb hprovider hkey
      rcases List.mem_append.mp ha with ha | ha
      · rcases List.mem_append.mp hb with hb | hb
        · exact requests_identify a b ha hb (haddress hprovider hkey)
        · exact (requests_agree hsound hfresh ha hb (haddress hprovider hkey)).1
      · rcases List.mem_append.mp hb with hb | hb
        · exact (requests_agree hsound hfresh hb ha (haddress hprovider.symm hkey.symm)).1.symm
        · exact hidentifies a ha b hb hprovider hkey
    · show ((requests sha256 database event ++ requestsOf sha256 (step sha256 database event) events).filter
        ProviderRequest.isHold).Nodup
      rw [List.filter_append]
      refine List.nodup_append.mpr ⟨?_, hholds, fun a ha b hb hab => ?_⟩
      · have hdistinct := execute_addresses_nodup sha256 event database
        exact (List.Nodup.of_map ProviderRequest.address (by rwa [requests, List.map_map])).filter _
      · subst hab
        obtain ⟨hnow, hhold⟩ := List.mem_filter.mp ha
        have hnot := (requests_agree hsound hfresh hnow (List.mem_filter.mp hb).1 rfl).2
        exact Bool.noConfusion (hnot.symm.trans hhold)

/-- A confirmation that times out is asked again under its key. -/
theorem run_keys_identify_retried :
    KeysIdentify (requestsOf Deployment.sha256 Deployment.database
      [Deployment.create 1000 100 0 [Deployment.line 2 20 1] "a",
        Deployment.confirming .unknown (Deployment.confirm 1100 100 10),
        Deployment.create 1150 101 20 [Deployment.line 1 10 1] "b",
        Deployment.reconcile 1200 50]) :=
  run_keys_identify Deployment.sha256 Deployment.initial (by decide +kernel)

end System
end InventoryReservation
