import InventoryReservation.Meaning.Transition

/-! # Reachable databases

What holds of every reservation after any run (`Aggregate.Sound`), and the rule by which a property of
reservations is carried through a run: it is established by creations and kept by the walks that
requests make (`System.Maintains`).
-/

namespace InventoryReservation
set_option autoImplicit false

open Relational

/-! ## Passes -/

/-- An allocation after the pass. -/
def Pass.settle (environment : Environment) : Pass → AllocationView → AllocationView
  | confirm context => confirmation.settle environment context
  | release context _ => releasing.settle environment context

namespace Pass
variable {environment : Environment} {pass : Pass} {before after : Aggregate}

theorem Applies.request (h : pass.Applies environment before after) :
    before.reservation.SameRequest after.reservation := by
  cases pass with
  | confirm context => exact h.request
  | release context terminalStatus => exact h.request

theorem Applies.items (h : pass.Applies environment before after) : after.items = before.items := by
  cases pass with
  | confirm context => exact h.items
  | release context terminalStatus => exact h.items

theorem Applies.allocations (h : pass.Applies environment before after) :
    after.allocations = before.allocations.map (pass.settle environment) := by
  cases pass with
  | confirm context => exact h.allocations
  | release context terminalStatus => exact h.allocations

/-- Every allocation afterwards is one that was there before, settled. -/
theorem Applies.mem_allocations (h : pass.Applies environment before after) {view : AllocationView}
    (hv : view ∈ after.allocations) :
    ∃ view' ∈ before.allocations, view = pass.settle environment view' := by
  rw [h.allocations] at hv
  obtain ⟨view', hv', he⟩ := List.mem_map.mp hv
  exact ⟨view', hv', he.symm⟩

@[simp] theorem settle_reservationItemId (environment : Environment) (pass : Pass) (view : AllocationView) :
    (pass.settle environment view).allocation.reservationItemId = view.allocation.reservationItemId := by
  cases pass <;> rfl

@[simp] theorem settle_quantity (environment : Environment) (pass : Pass) (view : AllocationView) :
    (pass.settle environment view).allocation.quantity = view.allocation.quantity := by
  cases pass <;> rfl

@[simp] theorem settle_id (environment : Environment) (pass : Pass) (view : AllocationView) :
    (pass.settle environment view).allocation.id = view.allocation.id := by
  cases pass <;> rfl

@[simp] theorem settle_provider (environment : Environment) (pass : Pass) (view : AllocationView) :
    (pass.settle environment view).provider = view.provider := by
  cases pass <;> rfl

end Pass

/-- The statuses a releasing walk can leave. -/
theorem Aggregate.Released.cases {environment : Environment} {context : ProviderOperationContext}
    {terminalStatus : ReservationStatusModel} {before after : Aggregate}
    (h : before.Released environment context terminalStatus after) :
    ((releasing.flags environment context before.allocations).pending = true ∧
      after.reservation.status = .releasing ∧
      after.reservation.releaseTargetStatus = some terminalStatus) ∨
    ((releasing.flags environment context before.allocations).pending = false ∧
      after.reservation.status = terminalStatus ∧ after.reservation.releaseTargetStatus = none) := by
  have hstatus := h.status
  unfold PassFlags.releasedStatus at hstatus
  cases hp : (releasing.flags environment context before.allocations).pending with
  | true =>
    rw [hp, if_pos rfl, Prod.ext_iff] at hstatus
    exact Or.inl ⟨rfl, hstatus⟩
  | false =>
    rw [hp, if_neg Bool.false_ne_true, Prod.ext_iff] at hstatus
    exact Or.inr ⟨rfl, hstatus⟩

/-- The statuses a confirming walk can leave. -/
theorem Aggregate.Confirmed.cases {environment : Environment} {context : ProviderOperationContext}
    {before after : Aggregate} (h : before.Confirmed environment context after) :
    ((confirmation.flags environment context before.allocations).failed = true ∧
      after.reservation.status = .failed) ∨
    ((confirmation.flags environment context before.allocations) = ⟨true, false⟩ ∧
      after.reservation.status = .confirming) ∨
    ((confirmation.flags environment context before.allocations) = ⟨false, false⟩ ∧
      after.reservation.status = .confirmed) := by
  have hstatus := h.status
  unfold PassFlags.confirmedStatus at hstatus
  generalize confirmation.flags environment context before.allocations = flags at hstatus
  obtain ⟨pending, failed⟩ := flags
  cases failed with
  | true => exact Or.inl ⟨rfl, hstatus⟩
  | false =>
    cases pending with
    | true => exact Or.inr (Or.inl ⟨rfl, hstatus⟩)
    | false => exact Or.inr (Or.inr ⟨rfl, hstatus⟩)

/-! ## Sound reservations -/

structure Aggregate.Sound (aggregate : Aggregate) : Prop where
  status : aggregate.reservation.status ∉ [.reserving, .active]
  target : aggregate.reservation.releaseTargetStatus ∈
    [none, some .cancelled, some .expired, some .failed]
  releasing : aggregate.reservation.status = .releasing → aggregate.reservation.releaseTargetStatus.isSome
  booked : aggregate.order.isSome ↔ aggregate.reservation.status = .confirmed
  items : aggregate.items ≠ []
  lifetime : aggregate.reservation.createdAt < aggregate.reservation.expiresAt
  covers : ∃ done, done <+: aggregate.items ∧
    (aggregate.allocations.map fun view => (view.allocation.reservationItemId, view.allocation.quantity)) =
      done.map fun item => (item.id, item.requestedQuantity)

theorem Reservation.start_ok {draft : ReservationDraft} {reservation : Reservation}
    (h : Reservation.start draft = .ok reservation) :
    reservation.id = draft.reservationId ∧ reservation.userId = draft.userId ∧
      reservation.items = draft.items ∧ reservation.idempotencyKey = draft.idempotencyKey ∧
      reservation.requestFingerprint = draft.requestFingerprint ∧ reservation.status = .pending ∧
      reservation.releaseTargetStatus = none := by
  unfold Reservation.start Reservation.construct at h
  repeat' split at h
  all_goals cases h
  exact ⟨rfl, rfl, rfl, rfl, rfl, rfl, rfl⟩

theorem Aggregate.Opened.sound {environment : Environment} {reservation : Reservation}
    {done : List ReservationItemModel} {aggregate : Aggregate} {draft : ReservationDraft}
    (hstart : Reservation.start draft = .ok reservation)
    (h : aggregate.Opened environment reservation done) (hdone : done <+: aggregate.items) :
    aggregate.Sound where
  status := by
    rw [h.status, (Reservation.start_ok hstart).2.2.2.2.2.1]
    decide
  target := by
    rw [h.releaseTargetStatus, (Reservation.start_ok hstart).2.2.2.2.2.2]
    exact List.mem_cons_self
  releasing hr := by
    rw [h.status, (Reservation.start_ok hstart).2.2.2.2.2.1] at hr
    cases hr
  booked := by
    rw [h.order, h.status, (Reservation.start_ok hstart).2.2.2.2.2.1]
    exact ⟨nofun, nofun⟩
  items := by
    intro hnil
    have hitems := h.items
    rw [hnil] at hitems
    exact reservation.items_ne_nil hitems.symm
  lifetime := by
    rw [h.request.createdAt, h.request.expiresAt]
    exact reservation.createdAt_lt
  covers := ⟨done, hdone, h.covers⟩

/-- What a walk keeps of a reservation, whatever its statuses. -/
theorem Aggregate.Sound.of_pass {environment : Environment} {pass : Pass} {before after : Aggregate}
    (h : before.Sound) (hpass : pass.Applies environment before after)
    (hstatus : after.reservation.status ∉ [.reserving, .active])
    (htarget : after.reservation.releaseTargetStatus ∈
      [none, some .cancelled, some .expired, some .failed])
    (hreleasing : after.reservation.status = .releasing → after.reservation.releaseTargetStatus.isSome)
    (hbooked : after.order.isSome ↔ after.reservation.status = .confirmed) : after.Sound where
  status := hstatus
  target := htarget
  releasing := hreleasing
  booked := hbooked
  items := by
    rw [hpass.items]
    exact h.items
  lifetime := by
    rw [hpass.request.createdAt, hpass.request.expiresAt]
    exact h.lifetime
  covers := by
    obtain ⟨done, hdone, hcovers⟩ := h.covers
    refine ⟨done, hpass.items ▸ hdone, ?_⟩
    rw [hpass.allocations, List.map_map, ← hcovers]
    apply List.map_congr_left
    intro view _
    simp

theorem Aggregate.Sound.of_released {environment : Environment} {context : ProviderOperationContext}
    {terminalStatus : ReservationStatusModel} {before after : Aggregate} (h : before.Sound)
    (hterminal : terminalStatus ∈ [.cancelled, .expired, .failed])
    (hbefore : before.reservation.status ≠ .confirmed)
    (hr : before.Released environment context terminalStatus after) : after.Sound := by
  have horder : ¬ after.order.isSome := by
    rw [hr.order, h.booked]
    exact hbefore
  have hpass : (Pass.release context terminalStatus).Applies environment before after := hr
  have hmem : terminalStatus = .cancelled ∨ terminalStatus = .expired ∨ terminalStatus = .failed := by
    simpa using hterminal
  rcases hr.cases with ⟨-, hs, ht⟩ | ⟨-, hs, ht⟩
  · refine h.of_pass hpass ?_ ?_ ?_ ?_
    · rw [hs]
      decide
    · rw [ht]
      simpa using hterminal
    · exact fun _ => by rw [ht]; rfl
    · rw [hs]
      exact ⟨fun hb => absurd hb horder, nofun⟩
  · refine h.of_pass hpass ?_ ?_ ?_ ?_
    · rw [hs]
      rcases hmem with rfl | rfl | rfl <;> decide
    · rw [ht]
      exact List.mem_cons_self
    · intro hre
      rw [hs] at hre
      rcases hmem with rfl | rfl | rfl <;> cases hre
    · rw [hs]
      refine ⟨fun hb => absurd hb horder, fun hc => ?_⟩
      rcases hmem with rfl | rfl | rfl <;> cases hc

theorem Aggregate.Sound.of_confirmed {environment : Environment} {context : ProviderOperationContext}
    {before after : Aggregate} (h : before.Sound) (hbefore : before.reservation.status ≠ .confirmed)
    (hc : before.Confirmed environment context after) : after.Sound := by
  have hpass : (Pass.confirm context).Applies environment before after := hc
  have hbooked : after.order.isSome ↔ after.reservation.status = .confirmed := by
    rw [hc.order, h.booked]
    exact ⟨fun hor => hor.resolve_left hbefore, Or.inr⟩
  have htarget : after.reservation.releaseTargetStatus ∈
      [none, some .cancelled, some .expired, some .failed] := by
    rw [hc.releaseTargetStatus]
    exact h.target
  rcases hc.cases with ⟨-, hs⟩ | ⟨-, hs⟩ | ⟨-, hs⟩
  all_goals
    refine h.of_pass hpass ?_ htarget ?_ hbooked
    · rw [hs]
      decide
    · rw [hs]
      exact nofun

/-- A walk a request makes keeps reservations sound. -/
theorem Aggregate.Sound.of_walk {event : Event} {database : Database} {walk : Walk}
    {before after : Aggregate} (h : before.Sound) (hwalk : walk ∈ event.walks database)
    (hreservation : before.reservation = walk.reservation)
    (happlies : walk.pass.Applies event.environment before after) : after.Sound := by
  cases (event.occasion hwalk).1 with
  | confirm reservation hrequest hconfirmed hcancelled =>
    exact h.of_confirmed (hreservation ▸ hconfirmed) happlies
  | cancel reservation hrequest hcancelled hconfirmed hconfirming =>
    exact h.of_released (by decide) (hreservation ▸ hconfirmed) happlies
  | expire reservation limit hrequest hpending =>
    refine h.of_released (by decide) ?_ happlies
    rw [hreservation, hpending]
    decide
  | resumeRelease reservation limit maxAttempts retryBaseDelay terminalStatus hrequest hreleasing htarget
      hterminal =>
    refine h.of_released hterminal ?_ happlies
    rw [hreservation, hreleasing]
    decide
  | resumeConfirm reservation limit maxAttempts retryBaseDelay hrequest hconfirming =>
    refine h.of_confirmed ?_ happlies
    rw [hreservation, hconfirming]
    decide

theorem Aggregate.Created.sound {environment : Environment} {reservation : Reservation}
    {exchanges : List Exchange} {held : Bool} {after : Aggregate} {draft : ReservationDraft}
    (hstart : Reservation.start draft = .ok reservation)
    (h : Aggregate.Created environment reservation exchanges held after) : after.Sound := by
  cases h with
  | held _ h => exact h.sound hstart (List.prefix_refl _)
  | compensated before _ done hdone h hr =>
    refine (h.sound hstart hdone).of_released (by decide) ?_ hr
    rw [h.status, (Reservation.start_ok hstart).2.2.2.2.2.1]
    decide

theorem Aggregate.Released.not_pending {environment : Environment} {context : ProviderOperationContext}
    {terminalStatus : ReservationStatusModel} {before after : Aggregate}
    (hterminal : terminalStatus ∈ [.cancelled, .expired, .failed])
    (h : before.Released environment context terminalStatus after) : after.reservation.status ≠ .pending := by
  rcases h.cases with ⟨-, hs, -⟩ | ⟨-, hs, -⟩
  · rw [hs]
    decide
  · rw [hs]
    rintro rfl
    exact absurd hterminal (by decide)

/-- A reservation that has been walked over is not pending. -/
theorem Walk.not_pending {event : Event} {database : Database} {walk : Walk} {before after : Aggregate}
    (hwalk : walk ∈ event.walks database) (happlies : walk.pass.Applies event.environment before after) :
    after.reservation.status ≠ .pending := by
  obtain ⟨model, pass⟩ := walk
  cases pass with
  | confirm context =>
    rcases Aggregate.Confirmed.cases happlies with ⟨-, hs⟩ | ⟨-, hs⟩ | ⟨-, hs⟩
    all_goals
      rw [hs]
      decide
  | release context terminalStatus => exact Aggregate.Released.not_pending (event.terminal hwalk) happlies

/-- A well-formed database of sound reservations. -/
structure Database.Sound (database : Database) : Prop where
  wellFormed : database.WellFormed
  aggregates : ∀ r aggregate, database.aggregate? r = some aggregate → aggregate.Sound

theorem Database.Sound.booked {database : Database} (h : database.Sound) : database.Booked :=
  fun r before hb hc => (h.aggregates r before hb).booked.mpr hc

theorem Database.aggregate?_of_initial {database : Database} (h : database.Initial) (r : Uuid) :
    database.aggregate? r = none := by
  rw [aggregate?, h.reservations, Table.find?_empty]
  rfl

theorem Database.Sound.of_initial {database : Database} (h : database.Initial) : database.Sound where
  wellFormed := .of_initial h
  aggregates r aggregate ha := by
    rw [Database.aggregate?_of_initial h] at ha
    cases ha

/-! ## Runs -/

namespace System
variable (sha256 : String → String) {ok : Database → Event → Prop} {I : Aggregate → Prop}

theorem step_transition {database : Database} (h : database.Sound) (event : Event) :
    Transition sha256 event database (step sha256 database event) :=
  transition h.wellFormed h.booked

theorem step_sound {database : Database} (h : database.Sound) (event : Event) :
    (step sha256 database event).Sound where
  wellFormed := (step_transition sha256 h event).wellFormed
  aggregates r after ha := by
    have hchange := (step_transition sha256 h event).changes r
    rw [ha] at hchange
    generalize hb : database.aggregate? r = before? at hchange
    cases hchange with
    | kept => exact h.aggregates r after hb
    | created userId items idempotencyKey reservation held after hrequest hstart hid hcreated =>
      exact hcreated.sound hstart
    | walked walk before after hwalk hreservation hid happlies hanswered =>
      exact (h.aggregates r before hb).of_walk hwalk hreservation happlies

/-- What a step makes of a stored operation: nothing, or a walk settles its allocation. -/
inductive OperationStep (event : Event) (database : Database) (key : ProviderKey)
    (operation : ProviderOperationModel) : Option ProviderOperationModel → Prop
  | kept : OperationStep event database key operation (some operation)
  | settled (walk : Walk) (before : Aggregate) (view : AllocationView) (kind : SettlementKind)
      (hwalk : walk ∈ event.walks database)
      (hb : database.aggregate? walk.reservation.id = some before) (hv : view ∈ before.allocations)
      (ho : view.operation kind = some operation)
      (hkey : key = kind.key walk.reservation.id view.allocation.id)
      (hanswered : walk.pass.Answered event.environment (execute sha256 event database).exchanges view) :
      OperationStep event database key operation
        ((walk.pass.settle event.environment view).operation kind)

theorem step_operation {database : Database} (h : database.Sound) (event : Event) {key : ProviderKey}
    {operation : ProviderOperationModel} (ho : database.operations.find? key = some operation) :
    OperationStep sha256 event database key operation
      ((step sha256 database event).operations.find? key) := by
  obtain ⟨kind, r, before, view, hb, hv, -, hkey, hview, -⟩ := h.wellFormed.view_of_operation ho
  have hchange := (step_transition sha256 h event).changes r
  rw [hb] at hchange
  generalize ha : (step sha256 database event).aggregate? r = after? at hchange
  cases hchange with
  | kept =>
    have hsame := Database.view_operation ha hv kind
    rw [← hkey, hview] at hsame
    rw [← hsame]
    exact .kept
  | walked walk before after hwalk hreservation hid happlies hanswered =>
    subst hid
    have hmem : walk.pass.settle event.environment view ∈ after.allocations := by
      rw [happlies.allocations]
      exact List.mem_map_of_mem hv
    have hsettled := Database.view_operation ha hmem kind
    rw [Pass.settle_id, ← hkey] at hsettled
    rw [← hsettled]
    exact .settled walk before view kind hwalk hb hv hview hkey (hanswered view hv)

theorem run_sound {database : Database} (h : database.Initial) (events : List Event) :
    (run sha256 database events).Sound :=
  Runs.run_invariant_of_all (I := Database.Sound) (fun _ event hs => step_sound sha256 hs event)
    (.of_initial h) events

/-- Creations establish the property and walks keep it, in steps that are acceptable. -/
structure Maintains (sha256 : String → String) (ok : Database → Event → Prop) (I : Aggregate → Prop) :
    Prop where
  created : ∀ {database event userId items idempotencyKey reservation held after}, ok database event →
    event.request = .create userId items idempotencyKey →
    Reservation.start (creationDraft sha256 event.environment userId items idempotencyKey) =
      .ok reservation →
    Aggregate.Created event.environment reservation
      ((execute sha256 event database).exchanges.map Prod.snd) held after → I after
  walked : ∀ {database event walk before after}, ok database event → walk ∈ event.walks database →
    before.reservation = walk.reservation → database.Sound →
    database.aggregate? walk.reservation.id = some before → I before →
    walk.pass.Applies event.environment before after →
    (∀ view ∈ before.allocations,
      walk.pass.Answered event.environment (execute sha256 event database).exchanges view) → I after

variable {sha256}

theorem Maintains.step (h : Maintains sha256 ok I) {database : Database} {event : Event}
    (hsound : database.Sound) (hI : ∀ r aggregate, database.aggregate? r = some aggregate → I aggregate)
    (hok : ok database event) (r : Uuid) (after : Aggregate)
    (ha : (step sha256 database event).aggregate? r = some after) : I after := by
  have hchange := (step_transition sha256 hsound event).changes r
  rw [ha] at hchange
  generalize hb : database.aggregate? r = before? at hchange
  cases hchange with
  | kept => exact hI r after hb
  | created userId items idempotencyKey reservation held after hrequest hstart hid hcreated =>
    exact h.created hok hrequest hstart hcreated
  | walked walk before after hwalk hreservation hid happlies hanswered =>
    exact h.walked hok hwalk hreservation hsound (hid ▸ hb) (hI r before hb) happlies hanswered

/-- What acceptable steps maintain holds of every reservation an admissible run reaches. -/
theorem Maintains.run (h : Maintains sha256 ok I) {database : Database} {events : List Event}
    (hinit : database.Initial) (hadmissible : Runs.Admissible (System.step sha256) ok database events)
    (r : Uuid) (aggregate : Aggregate)
    (ha : (run sha256 database events).aggregate? r = some aggregate) : I aggregate := by
  have hrun := Runs.run_invariant (I := fun database => database.Sound ∧
    ∀ r aggregate, database.aggregate? r = some aggregate → I aggregate)
    (fun database event hd hok => ⟨step_sound sha256 hd.1 event, h.step hd.1 hd.2 hok⟩)
    ⟨.of_initial hinit, fun r aggregate ha => by
      rw [Database.aggregate?_of_initial hinit] at ha
      cases ha⟩ hadmissible
  exact hrun.2 r aggregate ha

/-- What is true of a reservation that has been held stays true of it while it is pending. -/
theorem maintains_pending
    (h : ∀ {environment : Environment} {reservation : Reservation} {draft : ReservationDraft}
      {aggregate : Aggregate}, Reservation.start draft = .ok reservation →
        aggregate.Opened environment reservation aggregate.items → I aggregate) :
    Maintains sha256 (fun _ _ => True) fun aggregate => aggregate.reservation.status = .pending → I aggregate where
  created := by
    intro database event userId items idempotencyKey reservation held after _ _ hstart hcreated hpending
    cases hcreated with
    | held _ hopened => exact h hstart hopened
    | compensated before _ done hdone _ hr => exact absurd hpending (hr.not_pending (by decide))
  walked _ hwalk _ _ _ _ happlies _ hpending := absurd hpending (Walk.not_pending hwalk happlies)

end System
end InventoryReservation
