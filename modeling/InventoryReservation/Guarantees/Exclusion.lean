import InventoryReservation.Guarantees.Lifecycle

/-! # Confirming and releasing exclude each other

No request of one kind is sent for an allocation whose operation of the other kind has succeeded or is
unknown, as long as confirm and cancel are asked of reservations without such operations. Neither walk
reads the operations of the other; what keeps them apart is which statuses let them through.
-/

namespace InventoryReservation
set_option autoImplicit false

open Relational

def SettlementKind.other : SettlementKind → SettlementKind
  | confirm => release
  | release => confirm

theorem SettlementKind.other_ne (kind : SettlementKind) : kind.other ≠ kind := by
  cases kind <;> decide

/-- The key of the operation of the other kind. -/
def ProviderKey.counterpart : ProviderKey → Option ProviderKey
  | confirm r a => some (release r a)
  | release r a => some (confirm r a)
  | hold _ _ _ => none

/-- The key of the operation that must not stand when this request is sent. -/
def Exchange.excluding : Exchange → Option ProviderKey
  | confirm _ command _ => command.idempotencyKey.counterpart
  | release _ command _ => command.idempotencyKey.counterpart
  | availability _ _ _ => none
  | hold _ _ _ => none

/-- The operation has had its effect at the provider, or may have had it. -/
def ProviderOperationModel.Stands (operation : ProviderOperationModel) : Prop :=
  operation.status ∈ [.succeeded, .unknown]

instance (operation : ProviderOperationModel) : Decidable operation.Stands :=
  inferInstanceAs (Decidable (_ ∈ _))

/-- In the database in which the request is sent, no operation of the other kind stands. -/
def Excludes (entry : Database × Exchange) : Prop :=
  ∀ key ∈ entry.2.excluding, ∀ operation ∈ entry.1.operations.find? key, ¬ operation.Stands

instance (entry : Database × Exchange) : Decidable (Excludes entry) :=
  inferInstanceAs (Decidable (∀ key ∈ entry.2.excluding, _))

/-- No allocation has been both confirmed and released at its provider. -/
def Database.NeverBoth (database : Database) : Prop :=
  ∀ a ∈ database.operations.rows, ∀ b ∈ database.operations.rows, a.allocationId = b.allocationId →
    a.operation = .confirm → b.operation = .release → ¬ (a.status = .succeeded ∧ b.status = .succeeded)

/-- Every request of the step excludes the other kind, and so do the outcomes it leaves. -/
structure System.SettlesExclusively (sha256 : String → String) (event : Event) (database : Database) :
    Prop where
  requests : ∀ entry ∈ (System.execute sha256 event database).exchanges, Excludes entry
  outcomes : (System.step sha256 database event).NeverBoth

/-- No operation of this kind stands for the reservation. -/
def Database.Free (database : Database) (kind : SettlementKind) (reservationId : Uuid) : Prop :=
  ∀ view ∈ database.allocationViews reservationId, ∀ operation ∈ view.operation kind, ¬ operation.Stands

instance (database : Database) (kind : SettlementKind) (reservationId : Uuid) :
    Decidable (database.Free kind reservationId) :=
  inferInstanceAs (Decidable (∀ view ∈ database.allocationViews reservationId, _))

/-- A confirm or cancel that gets past the guards is addressed to a reservation for which no operation
of the other kind stands. -/
def Request.excludes (database : Database) : Request → Prop
  | .confirm reservationId userId =>
    ∀ reservation ∈ database.findOwned reservationId userId,
      reservation.status ∈ [.confirmed, .cancelled] ∨ database.Free .release reservationId
  | .cancel reservationId userId =>
    ∀ reservation ∈ database.findOwned reservationId userId,
      reservation.status ∈ [.cancelled, .confirmed, .confirming] ∨ database.Free .confirm reservationId
  | _ => True

instance (database : Database) (request : Request) : Decidable (request.excludes database) :=
  match request with
  | .confirm _ _ => inferInstanceAs (Decidable (∀ reservation ∈ database.findOwned _ _, _))
  | .cancel _ _ => inferInstanceAs (Decidable (∀ reservation ∈ database.findOwned _ _, _))
  | .create _ _ _ => isTrue trivial
  | .expireBatch _ => isTrue trivial
  | .reconcileBatch _ _ _ => isTrue trivial
  | .setLevel _ _ _ _ _ => isTrue trivial
  | .removeLevel _ _ => isTrue trivial

/-! ## Walks -/

/-- No operation of this kind stands for an allocation of the aggregate. -/
def Aggregate.Free (aggregate : Aggregate) (kind : SettlementKind) : Prop :=
  ∀ view ∈ aggregate.allocations, ∀ operation ∈ view.operation kind, ¬ operation.Stands

theorem Database.Free.aggregate {database : Database} {kind : SettlementKind} {r : Uuid}
    {aggregate : Aggregate} (h : database.Free kind r) (ha : database.aggregate? r = some aggregate) :
    aggregate.Free kind := by
  unfold Aggregate.Free
  rw [(Database.aggregate?_eq_some_iff.mp ha).2.2.1]
  exact h

/-- Which operations can stand in which status. -/
structure Aggregate.Exclusive (aggregate : Aggregate) : Prop where
  pending : aggregate.reservation.status = .pending → ∀ kind, aggregate.Free kind
  confirming : aggregate.reservation.status = .confirming → aggregate.Free .release
  releasing : aggregate.reservation.status = .releasing → aggregate.Free .confirm
  once : ∀ view ∈ aggregate.allocations, ∀ a ∈ view.operation .confirm, ∀ b ∈ view.operation .release,
    ¬ (a.Stands ∧ b.Stands)

theorem Pass.settle_operation_other (environment : Environment) (pass : Pass) (view : AllocationView) :
    (pass.settle environment view).operation pass.kind.other = view.operation pass.kind.other := by
  cases pass with
  | confirm context =>
    exact Settlement.settle_operation_of_ne (S := confirmation) (SettlementKind.other_ne .confirm)
  | release context terminalStatus =>
    exact Settlement.settle_operation_of_ne (S := releasing) (SettlementKind.other_ne .release)

theorem Pass.Applies.free {environment : Environment} {pass : Pass} {before after : Aggregate}
    (hpass : pass.Applies environment before after) (h : before.Free pass.kind.other) :
    after.Free pass.kind.other := by
  intro view hv operation ho
  obtain ⟨view', hv', rfl⟩ := hpass.mem_allocations hv
  rw [Pass.settle_operation_other] at ho
  exact h view' hv' operation ho

/-- A walk that meets no standing operation of the other kind leaves the two kinds apart. -/
theorem Aggregate.Exclusive.of_confirmed {environment : Environment} {context : ProviderOperationContext}
    {before after : Aggregate} (hfree : before.Free .release)
    (h : before.Confirmed environment context after) : after.Exclusive := by
  have hpass : (Pass.confirm context).Applies environment before after := h
  have hafter : after.Free .release := hpass.free hfree
  have hstatus : after.reservation.status ∈ [.failed, .confirming, .confirmed] := by
    rcases h.cases with ⟨-, hs⟩ | ⟨-, hs⟩ | ⟨-, hs⟩
    all_goals
      rw [hs]
      decide
  refine ⟨fun hs => ?_, fun _ => hafter, fun hs => ?_, fun view hv a _ b hb hboth => ?_⟩
  · rw [hs] at hstatus
    exact absurd hstatus (by decide)
  · rw [hs] at hstatus
    exact absurd hstatus (by decide)
  · exact hafter view hv b hb hboth.2

theorem Aggregate.Exclusive.of_released {environment : Environment} {context : ProviderOperationContext}
    {terminalStatus : ReservationStatusModel} {before after : Aggregate}
    (hterminal : terminalStatus ∈ [.cancelled, .expired, .failed]) (hfree : before.Free .confirm)
    (h : before.Released environment context terminalStatus after) : after.Exclusive := by
  have hpass : (Pass.release context terminalStatus).Applies environment before after := h
  have hafter : after.Free .confirm := hpass.free hfree
  have hstatus : after.reservation.status ∈ [.releasing, .cancelled, .expired, .failed] := by
    rcases h.cases with ⟨-, hs, -⟩ | ⟨-, hs, -⟩
    · rw [hs]
      decide
    · rw [hs]
      exact List.mem_cons_of_mem _ hterminal
  refine ⟨fun hs => ?_, fun hs => ?_, fun _ => hafter, fun view hv a ha b _ hboth => ?_⟩
  · rw [hs] at hstatus
    exact absurd hstatus (by decide)
  · rw [hs] at hstatus
    exact absurd hstatus (by decide)
  · exact hafter view hv a ha hboth.1

theorem Aggregate.Opened.free {environment : Environment} {reservation : Reservation}
    {done : List ReservationItemModel} {aggregate : Aggregate}
    (h : aggregate.Opened environment reservation done) (kind : SettlementKind) : aggregate.Free kind := by
  intro view hv operation ho
  rw [h.fresh view hv kind] at ho
  cases ho

theorem Aggregate.Created.exclusive {environment : Environment} {reservation : Reservation}
    {exchanges : List Exchange} {held : Bool} {after : Aggregate}
    (h : Aggregate.Created environment reservation exchanges held after) : after.Exclusive := by
  cases h with
  | held _ h =>
    refine ⟨fun _ => h.free, fun _ => h.free _, fun _ => h.free _, fun view hv a ha b _ hboth => ?_⟩
    exact h.free .confirm view hv a ha hboth.1
  | compensated before _ done hdone h hr => exact .of_released (by decide) (h.free _) hr

/-- The walks of such requests meet no standing operation of the other kind. -/
theorem Request.excludes.free {event : Event} {database : Database} {walk : Walk} {before : Aggregate}
    (hok : event.request.excludes database) (hwalk : walk ∈ event.walks database)
    (hb : database.aggregate? walk.reservation.id = some before) (hexclusive : before.Exclusive) :
    before.Free walk.pass.kind.other := by
  obtain ⟨hoccasion, hstored⟩ := event.occasion hwalk
  have hreservation : before.reservation = walk.reservation :=
    Option.some.inj ((Database.aggregate?_eq_some_iff.mp hb).1.symm.trans hstored)
  cases hoccasion with
  | confirm reservation hrequest hconfirmed hcancelled =>
    rw [hrequest] at hok
    rcases hok reservation (Database.findOwned_self hstored) with hguarded | hfree
    · have hor : reservation.status = .confirmed ∨ reservation.status = .cancelled := by
        simpa using hguarded
      exact absurd hor (not_or.mpr ⟨hconfirmed, hcancelled⟩)
    · exact hfree.aggregate hb
  | cancel reservation hrequest hcancelled hconfirmed hconfirming =>
    rw [hrequest] at hok
    rcases hok reservation (Database.findOwned_self hstored) with hguarded | hfree
    · have hor : reservation.status = .cancelled ∨ reservation.status = .confirmed ∨
          reservation.status = .confirming := by simpa using hguarded
      exact absurd hor (not_or.mpr ⟨hcancelled, not_or.mpr ⟨hconfirmed, hconfirming⟩⟩)
    · exact hfree.aggregate hb
  | expire reservation limit hrequest hpending =>
    exact hexclusive.pending (hreservation ▸ hpending) _
  | resumeRelease reservation limit maxAttempts retryBaseDelay terminalStatus hrequest hreleasing
      htarget hterminal => exact hexclusive.releasing (hreservation ▸ hreleasing)
  | resumeConfirm reservation limit maxAttempts retryBaseDelay hrequest hconfirming =>
    exact hexclusive.confirming (hreservation ▸ hconfirming)

/-! ## Requests sent -/

theorem Excludes.of_routes {entry : Database × Exchange} (h : entry.2.routes) : Excludes entry := by
  obtain ⟨database, exchange⟩ := entry
  intro key hk
  cases exchange with
  | availability => cases hk
  | hold => cases hk
  | confirm => exact absurd h id
  | release => exact absurd h id

/-- A request sent for an allocation for which the other kind does not stand. -/
theorem Excludes.of_confirmation {environment : Environment} {context : ProviderOperationContext}
    {view : AllocationView} {entry : Database × Exchange}
    (hfree : ∀ operation ∈ view.operation .release, ¬ operation.Stands)
    (h : confirmation.Sent environment context view entry) : Excludes entry := by
  intro key hk operation ho
  rw [h.exchange] at hk
  have hkey : key = SettlementKind.release.key context.reservationId view.allocation.id :=
    (Option.some.inj hk).symm
  rw [hkey, h.others .release (by decide)] at ho
  exact hfree operation ho

theorem Excludes.of_releasing {environment : Environment} {context : ProviderOperationContext}
    {view : AllocationView} {entry : Database × Exchange}
    (hfree : ∀ operation ∈ view.operation .confirm, ¬ operation.Stands)
    (h : releasing.Sent environment context view entry) : Excludes entry := by
  intro key hk operation ho
  rw [h.exchange] at hk
  have hkey : key = SettlementKind.confirm.key context.reservationId view.allocation.id :=
    (Option.some.inj hk).symm
  rw [hkey, h.others .confirm (by decide)] at ho
  exact hfree operation ho

/-! ## Runs -/

namespace System
variable {sha256 : String → String}

theorem maintains_exclusive :
    Maintains sha256 (fun database event => event.request.excludes database) Aggregate.Exclusive where
  created _ _ _ hcreated := hcreated.exclusive
  walked := by
    intro database event walk before after hok hwalk _ _ hb hexclusive happlies _
    have hfree := hok.free hwalk hb hexclusive
    obtain ⟨model, pass⟩ := walk
    cases pass with
    | confirm context => exact .of_confirmed hfree happlies
    | release context terminalStatus => exact .of_released (event.terminal hwalk) hfree happlies

theorem neverBoth_of_exclusive {database : Database} (hsound : database.Sound)
    (h : ∀ r aggregate, database.aggregate? r = some aggregate → aggregate.Exclusive) :
    database.NeverBoth := by
  intro a ha b hb hsame hconfirm hrelease hboth
  obtain ⟨kind, r, aggregate, view, hr, hv, hid, -, ho, htype⟩ :=
    hsound.wellFormed.view_of_operation (Table.find?_of_mem ha)
  obtain ⟨kind', r', aggregate', view', hr', hv', hid', -, ho', htype'⟩ :=
    hsound.wellFormed.view_of_operation (Table.find?_of_mem hb)
  have hkind : kind = .confirm := by
    cases kind with
    | confirm => rfl
    | release => cases hconfirm.symm.trans htype
  have hkind' : kind' = .release := by
    cases kind' with
    | release => rfl
    | confirm => cases hrelease.symm.trans htype'
  rw [hkind] at ho
  rw [hkind'] at ho'
  rw [(Database.aggregate?_eq_some_iff.mp hr).2.2.1] at hv
  rw [(Database.aggregate?_eq_some_iff.mp hr').2.2.1] at hv'
  obtain ⟨row, hrow, rfl⟩ := List.mem_map.mp hv
  obtain ⟨row', hrow', rfl⟩ := List.mem_map.mp hv'
  obtain ⟨rfl, rfl⟩ := Database.eq_of_allocation_id hrow hrow' (hid.trans (hsame.trans hid'.symm))
  refine (h r aggregate hr).once _ (Database.view_mem hr hrow) a ho b ho' ⟨?_, ?_⟩
  · unfold ProviderOperationModel.Stands
    rw [hboth.1]
    decide
  · unfold ProviderOperationModel.Stands
    rw [hboth.2]
    decide

theorem excludes_of_exclusive {database : Database} {event : Event} (hsound : database.Sound)
    (h : ∀ r aggregate, database.aggregate? r = some aggregate → aggregate.Exclusive)
    (hok : event.request.excludes database) :
    ∀ entry ∈ (execute sha256 event database).exchanges, Excludes entry := by
  intro entry he
  rcases execute_traced hsound.wellFormed entry he with ⟨walk, hw, before, hb, view, hv, hsent⟩ |
    ⟨userId, items, idempotencyKey, -, -, hopens⟩
  · have hfree := hok.free hw hb (h _ before hb) view hv
    obtain ⟨model, pass⟩ := walk
    cases pass with
    | confirm context => exact .of_confirmation hfree hsent
    | release context terminalStatus => exact .of_releasing hfree hsent
  · rcases hopens.call with ⟨item, -, hroutes⟩ | ⟨view, hfresh, hsent⟩
    · exact .of_routes (Exchange.routes_of_routesFor hroutes)
    · refine .of_releasing (fun operation ho => ?_) hsent
      rw [hfresh] at ho
      cases ho

/-- As long as confirm and cancel are asked of reservations for which no operation of the other kind
stands, every step of a run keeps the two kinds apart. -/
theorem run_settles_exclusively {database : Database} {events : List Event} {event : Event}
    (hinit : database.Initial)
    (hadmissible : Runs.Admissible (step sha256) (fun database event => event.request.excludes database)
      database (events ++ [event])) :
    SettlesExclusively sha256 event (run sha256 database events) := by
  obtain ⟨hevents, hok, -⟩ := Runs.Admissible.append_iff.mp hadmissible
  have hsound := run_sound sha256 hinit events
  have hexclusive := maintains_exclusive.run hinit hevents
  exact ⟨excludes_of_exclusive hsound hexclusive hok,
    neverBoth_of_exclusive (step_sound sha256 hsound event) (maintains_exclusive.step hsound hexclusive hok)⟩

/-- A reservation whose confirmation is unknown is reconciled. -/
theorem run_settles_exclusively_reconciled :
    SettlesExclusively Deployment.sha256 (Deployment.reconcile 1200 100000000)
      (run Deployment.sha256 Deployment.database
        [Deployment.create 1000 100 0 [Deployment.line 2 20 1] "a",
          Deployment.confirming .unknown (Deployment.confirm 1100 100 10)]) :=
  run_settles_exclusively Deployment.initial (by decide +kernel)

/-- A released hold of an expired reservation can still be confirmed. -/
theorem confirm_sends_for_released :
    ¬ ∀ (sha256 : String → String) (database : Database) (events : List Event) (event : Event),
      database.Initial → SettlesExclusively sha256 event (run sha256 database events) := by
  intro h
  refine absurd (h Deployment.sha256 Deployment.database
    [Deployment.create 1000 100 0 [Deployment.line 2 20 1] "a", Deployment.expire 1000]
    (Deployment.confirm 1100 100 1001) Deployment.initial).requests ?_
  decide +kernel

end System
end InventoryReservation
