import InventoryReservation.Meaning.Administering
import InventoryReservation.Meaning.Allocating
import InventoryReservation.System.Deployment

/-! # Held stock under provider administration

Settling an external hold needs a provider that supports it. The validation of a provider looks at its
row alone, so an update can take the support away while the provider holds stock. Where no update does
so, and no reservation that had ended is taken up again at such a provider, the checks never fail.
-/

namespace InventoryReservation
set_option autoImplicit false

open Relational Transactional

/-- The checks before an external hold is confirmed or released all pass. -/
structure AllocationRow.Settleable (row : AllocationRow) : Prop where
  supportsConfirm : row.provider.supportsConfirm = true
  supportsRelease : row.provider.supportsRelease = true
  baseUrl : row.provider.baseUrl.isSome
  driver : row.provider.driver = "http"
  reference : row.allocation.providerHoldReference.isSome

/-- Given a registry of adapters, neither check before an external hold is settled raises. -/
structure AllocationRow.PassesChecks (row : AllocationRow) : Prop where
  confirm : ∀ environment context s t, environment.providerRegistry = true →
    confirmExternalHold environment context row.allocation row.provider s ≠ .error .inventoryConfirmation t
  release : ∀ environment context s t, environment.providerRegistry = true →
    releaseExternalHold environment context row.allocation row.provider s ≠ .error .inventoryRelease t

/-- The external allocations of live reservations can be confirmed and released. -/
def Database.HoldsSettleable (database : Database) : Prop :=
  ∀ reservation ∈ database.reservations.rows, reservation.isLive = true →
    ∀ row ∈ database.allocationRows reservation.id, row.provider.kind = .external →
      row.Settleable ∧ row.PassesChecks

/-! ## The condition -/

/-- An external allocation of a live reservation is at this provider. -/
def Database.HoldsLive (database : Database) (providerId : Uuid) : Prop :=
  ∃ reservation ∈ database.reservations.rows, reservation.isLive = true ∧
    ∃ row ∈ database.allocationRows reservation.id, row.provider.kind = .external ∧
      row.provider.id = providerId

instance (database : Database) (providerId : Uuid) : Decidable (database.HoldsLive providerId) :=
  inferInstanceAs (Decidable (∃ reservation ∈ database.reservations.rows, _ ∧ ∃ row ∈ _, _))

/-- A validated update takes confirm or release support from a provider only while no live reservation
has an external allocation there. -/
def OpenCall.KeepsSupport (urlsplit : String → Option SplitResult) (database : Database)
    (opened : OpenCall) : Prop :=
  match opened.call with
  | .updateProvider command =>
    let updated := command.replace opened.current
    validateProviderConfiguration urlsplit updated = .ok () →
      ¬ (updated.capabilities.confirm ∧ updated.capabilities.release) →
        ¬ database.HoldsLive opened.current.id
  | .enableProvider => True
  | .disableProvider => True

instance (urlsplit : String → Option SplitResult) (database : Database) (opened : OpenCall) :
    Decidable (opened.KeepsSupport urlsplit database) := by
  unfold OpenCall.KeepsSupport
  cases opened.call with
  | updateProvider command => exact inferInstanceAs (Decidable (_ → _ → _))
  | enableProvider => exact inferInstanceAs (Decidable True)
  | disableProvider => exact inferInstanceAs (Decidable True)

/-- The walk leaves an outcome to be waited for. -/
def Pass.pends (environment : Environment) (views : List AllocationView) : Pass → Bool
  | .confirm context => (confirmation.flags environment context views).confirmedStatus = .confirming
  | .release context _ => (releasing.flags environment context views).pending

/-- A walk over a reservation that had ended, which leaves an outcome to be waited for, finds its external
allocations at providers that support both. -/
def Event.ReopensSupported (event : Event) (database : Database) : Prop :=
  ∀ walk ∈ event.walks database, walk.reservation.isLive = false →
    walk.pass.pends event.environment (database.allocationViews walk.reservation.id) = true →
      ∀ row ∈ database.allocationRows walk.reservation.id, row.provider.kind = .external →
        row.provider.supportsConfirm = true ∧ row.provider.supportsRelease = true

instance (event : Event) (database : Database) : Decidable (event.ReopensSupported database) :=
  inferInstanceAs (Decidable (∀ walk ∈ event.walks database, _ → _ → ∀ row ∈ _, _))

namespace Administration
variable (urlsplit : String → Option SplitResult)

def KeepsSupport (state : Administration) : Move → Prop
  | .request event => event.ReopensSupported state.database
  | .register _ _ => True
  | .openCall _ _ => True
  | .closeCall index => ∀ opened ∈ state.opened[index]?, opened.KeepsSupport urlsplit state.database

instance (state : Administration) (move : Move) : Decidable (state.KeepsSupport urlsplit move) := by
  unfold KeepsSupport
  cases move with
  | request event => exact inferInstanceAs (Decidable (event.ReopensSupported state.database))
  | register _ _ => exact inferInstanceAs (Decidable True)
  | openCall _ _ => exact inferInstanceAs (Decidable True)
  | closeCall index => exact inferInstanceAs (Decidable (∀ opened ∈ state.opened[index]?, _))

end Administration

/-! ## The checks -/

section Checks
variable {environment : Environment} {context : ProviderOperationContext} {row : AllocationRow}
  {s t : Session}

theorem Settlement.attempt_failure {ω : Type} [DecidableEq ω] {S : Settlement ω} {failure : Failure}
    {provider : InventoryProviderModel} {reference : String} {operation : ProviderOperationModel}
    (h : S.attempt environment context provider reference operation s = .error failure t) :
    failure = .overflow ∨ failure = .unclassifiedProviderError provider.id := by
  rw [attempt, recordExchange_bind] at h
  cases hr : S.send environment provider.id ⟨reference, operation.idempotencyKey⟩ with
  | raised =>
    rw [hr] at h
    cases h
    exact Or.inr rfl
  | attempt outcome =>
    rw [hr] at h
    cases hrec : S.recordOutcome context outcome operation with
    | ok recorded =>
      simp only [hrec] at h
      cases h
    | error failure' =>
      simp only [hrec] at h
      cases h
      exact Or.inl (recordOutcome_failure hrec).2.1

/-- Once the checks have passed, settling raises for other reasons only. -/
theorem Settlement.settleExternalHold_failure {ω : Type} [DecidableEq ω] {S : Settlement ω}
    {failure : Failure} (hregistry : environment.providerRegistry = true)
    (hsupported : S.supported row.provider = true) (hrow : row.Settleable)
    (h : S.settleExternalHold environment context row.allocation row.provider s = .error failure t) :
    failure = .overflow ∨ failure = .unclassifiedProviderError row.provider.id ∨
      failure = .integrity "uq_provider_operations_idempotency_key" := by
  have hchecks : ¬ (¬ environment.providerRegistry = true ∨ ¬ S.supported row.provider = true ∨
      row.provider.baseUrl.isNone = true ∨ row.provider.driver ≠ "http") := by
    obtain ⟨baseUrl, hb⟩ := Option.isSome_iff_exists.mp hrow.baseUrl
    rw [hregistry, hsupported, hb, hrow.driver]
    simp
  obtain ⟨reference, hreference⟩ := Option.isSome_iff_exists.mp hrow.reference
  have hattempt : ∀ {operation s}, S.attempt environment context row.provider reference operation s =
      .error failure t → failure = .overflow ∨ failure = .unclassifiedProviderError row.provider.id ∨
        failure = .integrity "uq_provider_operations_idempotency_key" := by
    intro operation s hraised
    rcases attempt_failure hraised with hf | hf
    · exact Or.inl hf
    · exact Or.inr (Or.inl hf)
  unfold settleExternalHold at h
  rw [if_neg hchecks, hreference] at h
  dsimp only at h
  rw [readDatabase_bind] at h
  cases ho : s.database.operations.find? (S.kind.key context.reservationId row.allocation.id) with
  | some operation =>
    rw [ho] at h
    dsimp only at h
    split at h
    · cases h
    · split at h
      · cases h
      · rw [writeDatabase_bind] at h
        exact hattempt h
  | none =>
    rw [ho] at h
    dsimp only at h
    cases hi : s.database.operations.insert? (S.newOperation
        (S.kind.key context.reservationId row.allocation.id) row.allocation) with
    | none =>
      rw [hi] at h
      cases h
      exact Or.inr (Or.inr rfl)
    | some operations =>
      rw [hi] at h
      dsimp only at h
      rw [writeDatabase_bind] at h
      exact hattempt h

theorem AllocationRow.Settleable.passesChecks (h : row.Settleable) : row.PassesChecks where
  confirm environment context s t hregistry hraised := by
    rcases Settlement.settleExternalHold_failure hregistry h.supportsConfirm h hraised with
      hf | hf | hf <;> cases hf
  release environment context s t hregistry hraised := by
    rcases Settlement.settleExternalHold_failure hregistry h.supportsRelease h hraised with
      hf | hf | hf <;> cases hf

end Checks

/-! ## What holds in every state -/

/-- Both operations on held stock are supported. -/
def InventoryProviderModel.Settles (provider : InventoryProviderModel) : Prop :=
  provider.supportsConfirm = true ∧ provider.supportsRelease = true

structure Administration.Sound (state : Administration) : Prop where
  database : state.database.Sound
  usable : ∀ provider ∈ state.database.providers, provider.toDomain.Usable
  reads : ∀ opened ∈ state.opened, opened.Reads state.database
  references : ∀ allocation ∈ state.database.allocations, ∀ provider,
    state.database.providers.find? allocation.providerId = some provider → provider.kind = .external →
      allocation.providerHoldReference.isSome
  supported : ∀ r aggregate, state.database.aggregate? r = some aggregate →
    aggregate.reservation.isLive = true → ∀ view ∈ aggregate.allocations, view.provider.kind = .external →
      view.provider.Settles

theorem Administration.Sound.holdsSettleable {state : Administration} (h : state.Sound) :
    state.database.HoldsSettleable := by
  intro reservation hr hlive row hrow hk
  have hfound : state.database.reservations.find? reservation.id = some reservation :=
    Table.find?_of_mem hr
  have haggregate : state.database.aggregate? reservation.id = some ⟨reservation,
      state.database.itemsOf reservation.id, state.database.allocationViews reservation.id,
      state.database.orders.find? reservation.id⟩ :=
    Database.aggregate?_eq_some_iff.mpr ⟨hfound, rfl, rfl, rfl⟩
  obtain ⟨hconfirm, hrelease⟩ := h.supported reservation.id _ haggregate hlive
    (state.database.view reservation.id row) (List.mem_map_of_mem hrow) hk
  obtain ⟨hmem, hj⟩ := Database.mem_allocationRows.mp hrow
  obtain ⟨item, provider, -, hp, -, hprovider⟩ := Database.joinAllocation_eq_some_iff.mp hj
  have hrowProvider : row.provider = provider := by rw [hprovider]
  have husable := h.usable provider (Table.mem_of_find? hp)
  rw [hrowProvider] at hk
  have hsettleable : row.Settleable := by
    refine ⟨hconfirm, hrelease, ?_, ?_, h.references row.allocation hmem provider hp hk⟩
    · rw [hrowProvider]
      exact husable.baseUrl hk
    · rw [hrowProvider]
      exact husable.driver hk
  exact ⟨hsettleable, hsettleable.passesChecks⟩

theorem Administration.Initial.sound {state : Administration} (h : state.Initial) : state.Sound where
  database := .of_initial h.database
  usable provider hp := by
    rw [h.providers] at hp
    exact absurd hp (Table.not_mem_empty _)
  reads opened ho := by
    rw [h.opened] at ho
    cases ho
  references allocation ha := by
    rw [h.database.allocations] at ha
    exact absurd ha (Table.not_mem_empty _)
  supported r aggregate ha := by
    rw [Database.aggregate?_of_initial h.database] at ha
    cases ha

/-! ## Requests -/

section Requests
variable {sha256 : String → String} {event : Event} {database : Database}

/-- A walk keeps the providers of the allocations. -/
theorem Pass.Applies.providers {environment : Environment} {pass : Pass} {before after : Aggregate}
    (h : pass.Applies environment before after) {view : AllocationView} (hv : view ∈ after.allocations) :
    ∃ view' ∈ before.allocations, view.provider = view'.provider := by
  obtain ⟨view', hv', rfl⟩ := h.mem_allocations hv
  exact ⟨view', hv', Pass.settle_provider environment pass view'⟩

/-- A walk that leaves its reservation live leaves an outcome to be waited for. -/
theorem pends_of_live {walk : Walk} {before after : Aggregate} (hwalk : walk ∈ event.walks database)
    (h : walk.pass.Applies event.environment before after) (hlive : after.reservation.isLive = true) :
    walk.pass.pends event.environment before.allocations = true := by
  obtain ⟨hoccasion, -⟩ := event.occasion hwalk
  have hterminal : ∀ terminalStatus ∈ [ReservationStatusModel.cancelled, .expired, .failed],
      before.Released event.environment walk.pass.context terminalStatus after →
        (releasing.flags event.environment walk.pass.context before.allocations).pending = true := by
    intro terminalStatus ht hreleased
    have hstatus := hreleased.status
    unfold PassFlags.releasedStatus at hstatus
    cases hp : (releasing.flags event.environment walk.pass.context before.allocations).pending with
    | true => rfl
    | false =>
      rw [hp, if_neg Bool.false_ne_true] at hstatus
      have hended : after.reservation.status = terminalStatus := congrArg Prod.fst hstatus
      unfold ReservationModel.isLive at hlive
      rw [hended] at hlive
      simp only [List.mem_cons, List.not_mem_nil, or_false] at ht
      rcases ht with rfl | rfl | rfl <;> cases hlive
  have hconfirming : before.Confirmed event.environment walk.pass.context after →
      (confirmation.flags event.environment walk.pass.context before.allocations).confirmedStatus =
        .confirming := by
    intro hconfirmed
    rw [← hconfirmed.status]
    have hstatus := hconfirmed.status
    unfold ReservationModel.isLive at hlive
    unfold PassFlags.confirmedStatus at hstatus
    rw [hstatus] at hlive ⊢
    split
    · next hf =>
      rw [if_pos hf] at hlive
      cases hlive
    · next hf =>
      rw [if_neg hf] at hlive
      split
      · rfl
      · next hp =>
        rw [if_neg hp] at hlive
        cases hlive
  cases hoccasion with
  | confirm reservation hrequest hconfirmed hcancelled => exact decide_eq_true (hconfirming h)
  | cancel reservation hrequest hcancelled hconfirmed hconfirming => exact hterminal _ (by decide) h
  | expire reservation limit hrequest hpending => exact hterminal _ (by decide) h
  | resumeRelease reservation limit maxAttempts retryBaseDelay terminalStatus hrequest hreleasing htarget ht =>
    exact hterminal _ ht h
  | resumeConfirm reservation limit maxAttempts retryBaseDelay hrequest hconfirm =>
    exact decide_eq_true (hconfirming h)

/-- An allocation of a stored reservation is still one of it after a step. -/
theorem Transition.keeps_allocation {s t : Database} (h : System.Transition sha256 event s t) {r : Uuid}
    {before : Aggregate} (hb : s.aggregate? r = some before) {view : AllocationView}
    (hv : view ∈ before.allocations) :
    ∃ row ∈ t.allocationRows r, row.allocation.id = view.allocation.id := by
  have hrow : ∀ after, t.aggregate? r = some after → (∃ view' ∈ after.allocations,
      view'.allocation.id = view.allocation.id) → ∃ row ∈ t.allocationRows r,
        row.allocation.id = view.allocation.id := by
    rintro after ha ⟨view', hv', hid⟩
    rw [(Database.aggregate?_eq_some_iff.mp ha).2.2.1] at hv'
    obtain ⟨row, hr, rfl⟩ := List.mem_map.mp hv'
    exact ⟨row, hr, hid⟩
  have hchange := h.changes r
  rw [hb] at hchange
  generalize ha : t.aggregate? r = after? at hchange
  cases hchange with
  | kept => exact hrow before ha ⟨view, hv, rfl⟩
  | walked walk _ after hwalk hreservation hid happlies hanswered =>
    refine hrow after ha ⟨walk.pass.settle event.environment view, ?_, ?_⟩
    · rw [happlies.allocations]
      exact List.mem_map_of_mem hv
    · exact Pass.settle_id _ _ _

/-- The allocations of a reservation that a step stored were granted in that step. -/
theorem granted_of_created {s t : Database} (hsound : s.Sound) (hallocates : Allocates s t)
    (htransition : System.Transition sha256 event s t) {r : Uuid} (hnew : s.aggregate? r = none)
    {after : Aggregate} (ha : t.aggregate? r = some after) {view : AllocationView}
    (hv : view ∈ after.allocations) :
    s.Granted view.allocation.providerId view.allocation.providerHoldReference := by
  have hviews := (Database.aggregate?_eq_some_iff.mp ha).2.2.1
  rw [hviews] at hv
  obtain ⟨row, hrow, rfl⟩ := List.mem_map.mp hv
  refine (hallocates.allocations row.allocation (Database.mem_allocationRows.mp hrow).1).resolve_left ?_
  rintro ⟨before, hb, hsame⟩
  obtain ⟨item, provider, hi, -, hjoined⟩ := hsound.wellFormed.joined hb
  obtain ⟨reservation, hf⟩ := Option.isSome_iff_exists.mp
    (hsound.wellFormed.itemReservation item (Table.mem_of_find? hi))
  obtain ⟨row', hrow', hid⟩ := Transition.keeps_allocation htransition
    (Database.aggregate?_eq_some_iff.mpr ⟨hf, rfl, rfl, rfl⟩ :
      s.aggregate? item.reservationId = some ⟨reservation, s.itemsOf item.reservationId,
        s.allocationViews item.reservationId, s.orders.find? item.reservationId⟩)
    (List.mem_map_of_mem hjoined)
  have hr : item.reservationId = r :=
    (Database.eq_of_allocation_id hrow' hrow (hid.trans hsame.id.symm)).1
  have hnone : s.reservations.find? r = none := by
    cases hf' : s.reservations.find? r with
    | none => rfl
    | some reservation' =>
      have hsome := s.isSome_aggregate? r
      rw [hnew, hf'] at hsome
      cases hsome
  rw [hr, hnone] at hf
  cases hf

end Requests

namespace Administration
variable {sha256 : String → String} {urlsplit : String → Option SplitResult} {state : Administration}

theorem Sound.request (h : state.Sound) {event : Event} (hok : event.ReopensSupported state.database) :
    ({ state with database := System.step sha256 state.database event } : Administration).Sound := by
  have hallocates := System.step_allocates sha256 h.database event
  have htransition := System.step_transition sha256 h.database event
  have hproviders := hallocates.providers
  have hsettles : ∀ provider ∈ state.database.providers, provider.supportsHold = true → provider.Settles :=
    fun provider hp hhold => ⟨(h.usable provider hp).confirm hhold, (h.usable provider hp).release hhold⟩
  constructor
  · exact System.step_sound sha256 h.database event
  · dsimp only
    rw [hproviders]
    exact h.usable
  · intro opened ho
    unfold OpenCall.Reads
    dsimp only
    rw [hproviders]
    exact h.reads opened ho
  · intro allocation ha provider hp hk
    dsimp only at ha hp
    rw [hproviders] at hp
    rcases hallocates.allocations allocation ha with ⟨before, hb, hsame⟩ | ⟨provider', hp', -, href⟩
    · rw [hsame.providerHoldReference]
      refine h.references before hb provider ?_ hk
      rw [← hsame.providerId]
      exact hp
    · obtain rfl : provider = provider' := Option.some.inj (hp.symm.trans hp')
      exact href hk
  · intro r after ha hlive view hv hk
    dsimp only at ha
    have hchange := htransition.changes r
    rw [ha] at hchange
    generalize hb : state.database.aggregate? r = before? at hchange
    cases hchange with
    | kept => exact h.supported r after hb hlive view hv hk
    | created userId items idempotencyKey reservation held _ hrequest hstart hid hcreated =>
      obtain ⟨provider, hp, hhold, -⟩ := granted_of_created h.database hallocates htransition hb ha hv
      have hprovider : view.provider = provider := by
        have hviews := (Database.aggregate?_eq_some_iff.mp ha).2.2.1
        rw [hviews] at hv
        obtain ⟨row, hrow, rfl⟩ := List.mem_map.mp hv
        obtain ⟨-, hj⟩ := Database.mem_allocationRows.mp hrow
        obtain ⟨item, provider', -, hp', -, hrow'⟩ := Database.joinAllocation_eq_some_iff.mp hj
        rw [hproviders] at hp'
        have hsame : provider' = provider := Option.some.inj (hp'.symm.trans hp)
        have hview : (Database.view (System.step sha256 state.database event) r row).provider =
          row.provider := rfl
        rw [hview, hrow', ← hsame]
      rw [hprovider]
      exact hsettles provider (Table.mem_of_find? hp) hhold
    | walked walk before _ hwalk hreservation hid happlies hanswered =>
      obtain ⟨view', hv', hprovider⟩ := Pass.Applies.providers happlies hv
      rw [hprovider] at hk ⊢
      cases hbefore : walk.reservation.isLive with
      | true =>
        rw [← hreservation] at hbefore
        exact h.supported r before hb hbefore view' hv' hk
      | false =>
        have hpends := pends_of_live hwalk happlies hlive
        have hviews := (Database.aggregate?_eq_some_iff.mp hb).2.2.1
        rw [← hid] at hviews
        rw [hviews] at hpends hv'
        obtain ⟨row, hrow, rfl⟩ := List.mem_map.mp hv'
        exact hok walk hwalk hbefore hpends row hrow hk

/-! ## Calls of the operators -/

/-- Rewriting provider rows keeps what holds, where providers of live holds keep their support. -/
theorem Sound.of_rehosts (h : state.Sound) {rewrite : InventoryProviderModel → InventoryProviderModel}
    {database : Database} {opened : List OpenCall} (hrehosts : Rehosts rewrite state.database database)
    (husable : ∀ provider ∈ database.providers, provider.toDomain.Usable)
    (hopened : ∀ call ∈ opened, call ∈ state.opened)
    (hsupported : ∀ provider, state.database.HoldsLive provider.id → provider.Settles →
      (rewrite provider).Settles) :
    Sound ⟨database, opened⟩ where
  database := hrehosts.sound h.database
  usable := husable
  reads call hc := hrehosts.reads (h.reads call (hopened call hc))
  references allocation ha provider hp hk := by
    dsimp only at ha hp
    have hallocations : database.allocations = state.database.allocations := by rw [hrehosts.tables]
    rw [hallocations] at ha
    obtain ⟨before, hb⟩ := Option.isSome_iff_exists.mp
      (h.database.wellFormed.allocationProvider allocation ha)
    have hfound := hrehosts.found _ before hb
    rw [hp] at hfound
    obtain rfl : provider = rewrite before := Option.some.inj hfound
    rw [hrehosts.kind] at hk
    exact h.references allocation ha before hb hk
  supported r after ha hlive view hv hk := by
    dsimp only at ha
    rw [hrehosts.aggregate? h.database.wellFormed] at ha
    obtain ⟨before, hb, rfl⟩ := Option.map_eq_some_iff.mp ha
    obtain ⟨view', hv', rfl⟩ := List.mem_map.mp hv
    have hk' : view'.provider.kind = .external := (hrehosts.kind view'.provider).symm.trans hk
    refine hsupported view'.provider ?_ (h.supported r before hb hlive view' hv' hk')
    obtain ⟨hreservation, -, hviews, -⟩ := Database.aggregate?_eq_some_iff.mp hb
    rw [hviews] at hv'
    obtain ⟨row, hrow, rfl⟩ := List.mem_map.mp hv'
    have hid : before.reservation.id = r := Table.key_of_find? hreservation
    rw [← hid] at hrow
    exact ⟨before.reservation, Table.mem_of_find? hreservation, hlive, row, hrow, hk', rfl⟩

theorem Sound.register (h : state.Sound) (providerId : Uuid) (command : RegisterProviderCommand) :
    ({ state with database := committed state.database (ProviderManagementService.registerProvider urlsplit
      providerId command state.database) } : Administration).Sound := by
  cases hr : ProviderManagementService.registerProvider urlsplit providerId command state.database with
  | error failure => exact h
  | ok registered =>
    obtain ⟨provider, database⟩ := registered
    obtain ⟨hrehosts, husable⟩ := registerProvider_ok hr
    exact h.of_rehosts hrehosts (husable h.usable) (fun _ => id) fun _ _ => id

theorem Sound.openCall (h : state.Sound) {providerId : Uuid} {call : ProviderCall} {opened : OpenCall}
    (hopened : ProviderManagementService.openCall providerId call state.database = .ok opened) :
    ({ state with opened := state.opened ++ [opened] } : Administration).Sound where
  database := h.database
  usable := h.usable
  reads other ho := by
    rcases List.mem_append.mp ho with ho | ho
    · exact h.reads other ho
    · rw [List.mem_singleton.mp ho]
      exact openCall_ok hopened
  references := h.references
  supported := h.supported

/-- The rewriting of a closed call takes support from no provider of live holds. -/
theorem Sound.closed (h : state.Sound) {opened : OpenCall} {database : Database} {calls : List OpenCall}
    (hmem : opened ∈ state.opened) (hcalls : ∀ call ∈ calls, call ∈ state.opened)
    (hclosed : Closed urlsplit opened state.database database)
    (hok : opened.KeepsSupport urlsplit state.database) : Sound ⟨database, calls⟩ := by
  have husable := hclosed.usable (h.reads opened hmem) h.usable
  cases hclosed with
  | unchanged =>
    have hsame : Rehosts id state.database state.database :=
      ⟨rfl, fun _ => rfl, fun _ => rfl, fun _ _ hf => hf⟩
    exact h.of_rehosts hsame h.usable hcalls fun _ _ => id
  | enabled isEnabled =>
    refine h.of_rehosts (.of_update (ProviderRepository.enablement_id isEnabled) (fun _ => rfl)
      (fun _ => rfl) opened.current.id) husable hcalls fun provider _ hsettles => ?_
    split <;> exact hsettles
  | updated command hcall hvalid =>
    refine h.of_rehosts (.of_update (ProviderRepository.assign_id _) (fun _ => rfl) (fun _ => rfl)
      opened.current.id) husable hcalls fun provider hlive hsettles => ?_
    split
    · next hid =>
      unfold OpenCall.KeepsSupport at hok
      rw [hcall] at hok
      by_contra hdrops
      rw [hid] at hlive
      exact hok hvalid hdrops hlive
    · exact hsettles

theorem step_sound {move : Move} (h : state.Sound) (hok : state.KeepsSupport urlsplit move) :
    (step sha256 urlsplit state move).Sound := by
  cases move with
  | request event => exact h.request hok
  | register providerId command => exact h.register providerId command
  | openCall providerId call =>
    unfold step
    dsimp only
    cases ho : ProviderManagementService.openCall providerId call state.database with
    | error failure => exact h
    | ok opened => exact h.openCall ho
  | closeCall index =>
    unfold step
    dsimp only
    cases hi : state.opened[index]? with
    | none => exact h
    | some opened =>
      have hmem : opened ∈ state.opened := List.mem_of_getElem? hi
      have hcalls : ∀ call ∈ state.opened.eraseIdx index, call ∈ state.opened :=
        fun call hc => (List.eraseIdx_sublist state.opened index).subset hc
      have hkeeps : opened.KeepsSupport urlsplit state.database := hok opened hi
      dsimp only
      cases hc : ProviderManagementService.closeCall urlsplit opened state.database with
      | error failure => exact h.closed hmem hcalls .unchanged hkeeps
      | ok closed =>
        obtain ⟨written, database⟩ := closed
        exact h.closed hmem hcalls (closeCall_ok hc) hkeeps

/-- In a run whose steps keep the support of live holds, every external allocation of a live reservation
can be confirmed and released. -/
theorem run_holds_settleable (moves : List Move) (hinitial : state.Initial)
    (hadmissible : Runs.Admissible (step sha256 urlsplit) (KeepsSupport urlsplit) state moves) :
    (run sha256 urlsplit state moves).database.HoldsSettleable := by
  have hsound : (run sha256 urlsplit state moves).Sound :=
    Runs.run_invariant (fun _ _ hs hok => step_sound hs hok) hinitial.sound hadmissible
  exact hsound.holdsSettleable

/-- A split of the one URL of the deployment. -/
def urlsplitSupplier (url : String) : Option SplitResult :=
  if url = "http://supplier" then some ⟨"http", "supplier"⟩ else none

/-- The deployment before any provider is registered. -/
def unregistered : Administration :=
  ⟨{ Deployment.database with providers := .empty, offers := .empty }, []⟩

theorem unregistered_initial : unregistered.Initial :=
  ⟨⟨rfl, rfl, rfl, rfl, rfl, rfl⟩, rfl, rfl⟩

/-- An external provider is registered and enabled, gets a level, and grants a hold. -/
def supplied : List Move :=
  [.register 20 ⟨"supplier", .external, "http", some "http://supplier", 2000, ⟨true, true, true, true⟩⟩,
    .openCall 20 .enableProvider, .closeCall 0,
    .request ⟨Deployment.environment 0 0 0, .setLevel 2 20 5 100 none⟩,
    .request (Deployment.create 1000 100 5000 [Deployment.line 2 20 1 Deployment.one_unit] "key")]

def updateCapabilities (capabilities : ProviderCapabilities) : List Move :=
  [.openCall 20 (.updateProvider ⟨none, none, none, some capabilities⟩), .closeCall 0]

/-- The provider stops holding while its hold is pending, and still confirms and releases. -/
theorem supplied_holds_settleable :
    (run Deployment.sha256 urlsplitSupplier unregistered
      (supplied ++ updateCapabilities ⟨true, false, true, true⟩)).database.HoldsSettleable :=
  run_holds_settleable _ unregistered_initial (by decide +kernel)

/-- The provider drops every capability while its hold is pending. -/
theorem supplied_holds_stranded :
    ¬ ∀ (sha256 : String → String) (urlsplit : String → Option SplitResult) (state : Administration)
      (moves : List Move), state.Initial → (run sha256 urlsplit state moves).database.HoldsSettleable := by
  intro hall
  have hsettleable := hall Deployment.sha256 urlsplitSupplier unregistered
    (supplied ++ updateCapabilities ⟨false, false, false, false⟩) unregistered_initial
  have hconfirm : ∀ reservation ∈ (run Deployment.sha256 urlsplitSupplier unregistered (supplied ++
      updateCapabilities ⟨false, false, false, false⟩)).database.reservations.rows,
      reservation.isLive = true → ∀ row ∈ (run Deployment.sha256 urlsplitSupplier unregistered (supplied ++
        updateCapabilities ⟨false, false, false, false⟩)).database.allocationRows reservation.id,
        row.provider.kind = .external → row.provider.supportsConfirm = true :=
    fun reservation hr hlive row hrow hk => (hsettleable reservation hr hlive row hrow hk).1.supportsConfirm
  revert hconfirm
  decide +kernel

end Administration
end InventoryReservation
