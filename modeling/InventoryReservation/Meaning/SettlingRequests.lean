import InventoryReservation.Meaning.Commit
import InventoryReservation.Meaning.ProviderRequests
import InventoryReservation.Meaning.Reachable

/-! # Requests that settle allocations

A request to confirm or release a hold says of which allocation it is: its provider, its reference and its
key are those of a row, and no step changes them. What a create asked in its compensation is told by the
allocations it leaves (`Aggregate.Founded`).
-/

namespace InventoryReservation
set_option autoImplicit false

open Relational Transactional

/-! ## The request for an allocation -/

/-- What a provider is asked to settle the hold of an allocation. -/
def SettlementKind.settling (kind : SettlementKind) (reservationId : Uuid) (view : AllocationView) :
    ProviderRequest :=
  let command : OperationCommand :=
    ⟨view.allocation.providerHoldReference.getD "", kind.key reservationId view.allocation.id⟩
  match kind with
  | confirm => .confirm view.provider.id command
  | release => .release view.provider.id command

section Views
variable {environment : Environment} {pass : Pass} {view : AllocationView}

theorem SettlementKind.settling_key (kind : SettlementKind) (r : Uuid) (view : AllocationView) :
    (kind.settling r view).key = .operation (kind.key r view.allocation.id) := by
  cases kind <;> rfl

/-- A pass asks about an allocation in this way only. -/
theorem Pass.Sent.request {entry : Database × Exchange} (h : pass.Sent environment view entry) :
    entry.2.request = pass.kind.settling pass.context.reservationId view := by
  cases pass with
  | confirm context =>
    rw [h.exchange]
    rfl
  | release context terminalStatus =>
    rw [h.exchange]
    rfl

@[simp] theorem Pass.settle_settling (environment : Environment) (pass : Pass) (kind : SettlementKind) (r : Uuid)
    (view : AllocationView) : kind.settling r (pass.settle environment view) = kind.settling r view := by
  cases pass <;> cases kind <;> rfl

end Views

/-- An allocation belongs to one reservation, and once. -/
theorem Database.view_unique {database : Database} {r r' : Uuid} {aggregate aggregate' : Aggregate}
    (ha : database.aggregate? r = some aggregate) (ha' : database.aggregate? r' = some aggregate')
    {view view' : AllocationView} (hv : view ∈ aggregate.allocations) (hv' : view' ∈ aggregate'.allocations)
    (hid : view.allocation.id = view'.allocation.id) : view = view' := by
  rw [(Database.aggregate?_eq_some_iff.mp ha).2.2.1] at hv
  rw [(Database.aggregate?_eq_some_iff.mp ha').2.2.1] at hv'
  obtain ⟨row, hrow, rfl⟩ := List.mem_map.mp hv
  obtain ⟨row', hrow', rfl⟩ := List.mem_map.mp hv'
  obtain ⟨rfl, rfl⟩ := Database.eq_of_allocation_id hrow hrow' hid
  rfl

/-! ## Creations with their calls -/

/-- How a create that stored a reservation called the providers: to route its items, and to compensate for
those it had held when one was refused. -/
inductive Aggregate.Founded (environment : Environment) (reservation : Reservation)
    (exchanges : List (Database × Exchange)) : Aggregate → Prop
  | held (aggregate : Aggregate) (h : aggregate.Opened environment reservation aggregate.items)
      (hroutes : ∀ entry ∈ exchanges, entry.2.routes) : Founded environment reservation exchanges aggregate
  | compensated (before aggregate : Aggregate) (done : List ReservationItemModel)
      (h : before.Opened environment reservation done)
      (hr : before.Released environment (.request reservation.id) .failed aggregate)
      (hsent : ∀ entry ∈ exchanges, entry.2.routes ∨ ∃ view ∈ before.allocations,
        releasing.Sent environment (.request reservation.id) view entry)
      (hanswered : ∀ view ∈ before.allocations,
        (Pass.release (.request reservation.id) .failed).Answered environment exchanges view) :
      Founded environment reservation exchanges aggregate

theorem addWithHold_founded {environment : Environment} {reservation : Reservation} {s t : Session} {held : Bool}
    (hwf : s.database.WellFormed) (hs : s.exchanges = [])
    (h : addWithHold environment reservation s = .ok held t) :
    ∃ after, t.database.aggregate? reservation.id = some after ∧
      after.Founded environment reservation t.exchanges := by
  rw [addWithHold] at h
  obtain ⟨models, v, hv, h⟩ := bind_ok_iff.mp h
  have hstored := addReservation_ok hv
  have hsilent : v.exchanges = [] := hstored.exchanges.trans hs
  have howned : ∀ item ∈ models, item ∈ v.database.items ∧ item.reservationId = reservation.id :=
    fun item hi => ⟨(Table.mem_of_append hstored.items item).mpr (Or.inr hi), hstored.owner item hi⟩
  have hrouted : ∀ {done u}, HoldPhase done v u → ∀ entry ∈ u.exchanges, entry.2.routes := by
    intro done u hphase entry he
    rcases hphase.exchanges entry he with he | he
    · rw [hsilent] at he
      exact absurd he List.not_mem_nil
    · exact he
  rcases holdItems_ok (fun item hi => (howned item hi).1) h with
    ⟨rfl, hphase⟩ | ⟨rfl, done, u, hpart, hphase, hcompensated⟩
  · obtain ⟨aggregate, hagg, hitems, hopened⟩ :=
      hphase.opened (hstored.wellFormed hwf) howned hstored.models (hstored.aggregate_self hwf)
    exact ⟨aggregate, hagg, .held aggregate (hitems ▸ hopened) (hrouted hphase)⟩
  · obtain ⟨before, hagg, hitems, hopened⟩ :=
      hphase.opened (hstored.wellFormed hwf) (fun item hi => howned item (hpart.subset hi)) hstored.models
        (hstored.aggregate_self hwf)
    obtain ⟨hwalk, horders, hsent⟩ := hcompensated.walkEffect
    obtain ⟨rows, hperm, hpass⟩ := hwalk.walk
    obtain ⟨hfound, -, hviews, horder⟩ := Database.aggregate?_eq_some_iff.mp hagg
    have hself := hwalk.aggregate_self
    rw [show ((ProviderOperationContext.request (toModel environment reservation).id).reservationId =
      reservation.id) from rfl, hagg] at hself
    refine ⟨_, hself, .compensated before _ done hopened ⟨hwalk.request before.reservation, ?_, rfl, rfl, ?_⟩
      (fun entry he => ?_) fun view hview => ?_⟩
    · dsimp only
      rw [releaseWrite_status, hviews]
      rfl
    · rw [horder, ← horders]
    · rcases hsent entry he with he | ⟨view, hview, hsent⟩
      · exact Or.inl (hrouted hphase entry he)
      · exact Or.inr ⟨view, hviews ▸ hview, hsent⟩
    · rw [hviews] at hview
      obtain ⟨row, hrow, rfl⟩ := List.mem_map.mp hview
      exact hpass.asked row (hperm.mem_iff.mpr hrow)

namespace System
variable {sha256 : String → String}

/-- A step that stored a reservation is its create. -/
theorem step_founded {database : Database} {event : Event} {r : Uuid} {after : Aggregate}
    (hsound : database.Sound) (hb : database.aggregate? r = none)
    (ha : (step sha256 database event).aggregate? r = some after) :
    ∃ userId items idempotencyKey reservation, event.request = .create userId items idempotencyKey ∧
      Reservation.start (creationDraft sha256 event.environment userId items idempotencyKey) = .ok reservation ∧
      reservation.id = r ∧ after.Founded event.environment reservation (execute sha256 event database).exchanges := by
  have hchange := (step_transition sha256 hsound event).changes r
  rw [hb, ha] at hchange
  cases hchange with
  | created userId items idempotencyKey reservation held after hrequest hstart hid hcreated =>
    refine ⟨userId, items, idempotencyKey, reservation, hrequest, hstart, hid, ?_⟩
    obtain ⟨environment, request⟩ := event
    cases hrequest
    obtain ⟨hdatabase, hexchanges⟩ :=
      ReservationService.create_eq sha256 environment userId items idempotencyKey database
    have hstep : step sha256 database ⟨environment, .create userId items idempotencyKey⟩ = _ := hdatabase
    have hcalls : (execute sha256 ⟨environment, .create userId items idempotencyKey⟩ database).exchanges = _ :=
      hexchanges
    rw [hstep] at ha
    rw [hcalls]
    rcases databaseTransaction_cases (ReservationService.createTransaction sha256 environment userId items
        idempotencyKey) database with ⟨⟨stored, held'⟩, t, hr, he⟩ | ⟨failure, t, hr, he⟩
    · rw [he] at ha ⊢
      dsimp only at ha ⊢
      have hsame : (Event.mk environment (.create userId items idempotencyKey)).request =
        .create userId items idempotencyKey := rfl
      have hcommitted : Committed sha256 ⟨environment, .create userId items idempotencyKey⟩ database t :=
        createTransaction_committed hsame hr
      cases hcommitted with
      | found => cases hb.symm.trans ha
      | walked t hwalked =>
        obtain ⟨-, rfl⟩ := pure_ok_iff.mp hwalked
        cases hb.symm.trans ha
      | leveled t heffect hexchanges =>
        rw [heffect.tables] at ha
        cases hb.symm.trans ha
      | created userId' items' idempotencyKey' reservation' held' t hrequest hnone hstart' hadd =>
        obtain ⟨rfl, rfl, rfl⟩ := Request.create.inj hrequest
        cases hstart.symm.trans hstart'
        obtain ⟨after', hafter, hfounded⟩ := addWithHold_founded hsound.wellFormed rfl hadd
        rw [hid] at hafter
        cases hafter.symm.trans ha
        exact hfounded
    · rw [he] at ha
      cases hb.symm.trans ha

end System
end InventoryReservation
