import InventoryReservation.Meaning.Requests

/-! # Allocations at rest

A request does nothing at an allocation that is settled, and leaves an unknown outcome as it is recorded. A
walk over such allocations gives the session back unchanged (`Walk.run_rests`), and a walk that met no other
outcome leaves such allocations behind (`Settlement.settle_rests`).
-/

namespace InventoryReservation
set_option autoImplicit false

open Relational Transactional

namespace Settlement
variable {ω : Type} [DecidableEq ω] {S : Settlement ω} {environment : Environment}
  {context : ProviderOperationContext} {row : AllocationRow} {rows : List AllocationRow} {s t : Session}

/-! ## The checks -/

/-- The checks before a provider hold is settled. -/
structure Checked (S : Settlement ω) (environment : Environment) (row : AllocationRow) : Prop where
  registry : environment.providerRegistry = true
  supported : S.supported row.provider = true
  baseUrl : row.provider.baseUrl.isSome
  driver : row.provider.driver = "http"
  reference : row.allocation.providerHoldReference.isSome

theorem settleExternalHold_checked {outcome : ω}
    (h : S.settleExternalHold environment context row.allocation row.provider s = .ok outcome t) :
    S.Checked environment row := by
  unfold settleExternalHold at h
  obtain ⟨hchecks, h⟩ := ite_throw_ok_iff.mp h
  rw [not_or, not_or, not_or, not_not, not_not, not_not] at hchecks
  obtain ⟨hregistry, hsupported, hbase, hdriver⟩ := hchecks
  refine ⟨hregistry, hsupported, ?_, hdriver, ?_⟩
  · cases hb : row.provider.baseUrl with
    | some baseUrl => rfl
    | none =>
      rw [hb] at hbase
      exact absurd rfl hbase
  · cases hr : row.allocation.providerHoldReference with
    | some reference => rfl
    | none =>
      rw [hr] at h
      cases h

/-- A walk that returned made the checks for every external allocation it did not pass over. -/
theorem settleAllocations_checked {flags flags' : PassFlags}
    (h : S.settleAllocations environment context rows flags s = .ok flags' t) :
    ∀ row ∈ rows, ¬ S.passes row → row.provider.kind = .external → S.Checked environment row := by
  induction rows generalizing flags s with
  | nil =>
    intro row hrow
    exact absurd hrow List.not_mem_nil
  | cons head rows ih =>
    rw [settleAllocations] at h
    obtain ⟨outcome, u, hu, h⟩ := bind_ok_iff.mp h
    rw [setAllocationStatus_bind] at h
    intro row hrow hp hk
    rcases List.mem_cons.mp hrow with rfl | hrow
    · have hpasses : ¬ row.allocation.status = S.settledStatus := hp
      unfold settleAllocation at hu
      rw [if_neg hpasses, hk] at hu
      exact settleExternalHold_checked hu
    · exact ih h row hrow hp hk

theorem settleExternalHold_of_leavesUnknown (hchecked : S.Checked environment row)
    (hl : S.leavesUnknown context (s.database.view context.reservationId row)) :
    S.settleExternalHold environment context row.allocation row.provider s = .ok S.unknown s := by
  obtain ⟨reference, hreference⟩ := Option.isSome_iff_exists.mp hchecked.reference
  obtain ⟨baseUrl, hbase⟩ := Option.isSome_iff_exists.mp hchecked.baseUrl
  have hchecks : ¬ (¬ environment.providerRegistry = true ∨ ¬ S.supported row.provider = true ∨
      row.provider.baseUrl.isNone = true ∨ row.provider.driver ≠ "http") := by
    rw [hchecked.registry, hchecked.supported, hbase, hchecked.driver]
    simp
  obtain ⟨-, -, operation, ho, hunknown⟩ := hl
  have hfound : s.database.operations.find? (S.kind.key context.reservationId row.allocation.id) =
      some operation := ho
  have hsucceeded : operation.status ≠ .succeeded := by
    rw [hunknown.1]
    decide
  unfold settleExternalHold
  rw [if_neg hchecks, hreference]
  dsimp only
  rw [readDatabase_bind, hfound]
  dsimp only
  rw [if_neg hsucceeded, if_pos hunknown]
  rfl

/-! ## Walking over what rests -/

/-- The walk passes over this allocation, or leaves its outcome unknown as it is recorded. -/
def Rests (S : Settlement ω) (environment : Environment) (context : ProviderOperationContext)
    (view : AllocationView) : Prop :=
  S.passes view.toAllocationRow ∨
    S.leavesUnknown context view ∧ S.Checked environment view.toAllocationRow ∧
      view.allocation.status = S.allocationStatus S.unknown

theorem settleAllocation_rests
    (h : S.Rests environment context (s.database.view context.reservationId row)) :
    S.settleAllocation environment context row s =
      .ok (S.outcome environment context (s.database.view context.reservationId row)) s := by
  unfold settleAllocation
  rcases h with hp | ⟨hl, hchecked, -⟩
  · have hpasses : row.allocation.status = S.settledStatus := hp
    rw [if_pos hpasses, outcome_of_passes hp]
    rfl
  · have hpasses : ¬ row.allocation.status = S.settledStatus := hl.1
    have hk : row.provider.kind = .external := hl.2.1
    rw [if_neg hpasses, hk, outcome_of_leavesUnknown hl]
    exact settleExternalHold_of_leavesUnknown hchecked hl

omit [DecidableEq ω] in
/-- An allocation at rest has the status that is assigned to it. -/
theorem Rests.status (hS : S.Lawful) {view : AllocationView} (h : S.Rests environment context view) :
    S.allocationStatus (S.outcome environment context view) = view.allocation.status := by
  rcases h with hp | ⟨hl, -, hstatus⟩
  · rw [outcome_of_passes hp, hS.status_settled]
    exact Eq.symm hp
  · rw [outcome_of_leavesUnknown hl]
    exact hstatus.symm

theorem setAllocationStatus_self {status : AllocationStatus} (hmem : row.allocation ∈ s.database.allocations)
    (hstatus : status = row.allocation.status) : setAllocationStatus row.allocation.id status s = .ok () s := by
  have hsame : s.database.allocations.update row.allocation.id
      (fun allocation => { allocation with status }) = s.database.allocations := by
    apply Table.update_eq_self
    intro allocation ha hid
    rw [Table.eq_of_key_eq ha hmem hid, hstatus]
  change EStateM.Result.ok () { s with database := { s.database with
    allocations := s.database.allocations.update row.allocation.id fun allocation =>
      { allocation with status } } } = _
  rw [hsame]

/-- A walk over allocations at rest changes nothing and asks nobody. -/
theorem settleAllocations_rests (hS : S.Lawful) (hrows : ∀ row ∈ rows, row.allocation ∈ s.database.allocations)
    (h : ∀ row ∈ rows, S.Rests environment context (s.database.view context.reservationId row))
    (flags : PassFlags) :
    S.settleAllocations environment context rows flags s =
      .ok (S.flagsFrom environment context flags (rows.map (s.database.view context.reservationId))) s := by
  induction rows generalizing flags with
  | nil => rfl
  | cons row rows ih =>
    have hrests := h row List.mem_cons_self
    have hstatus : S.allocationStatus (S.outcome environment context
        (s.database.view context.reservationId row)) = row.allocation.status := hrests.status hS
    rw [settleAllocations, bind_of_ok (settleAllocation_rests hrests),
      bind_of_ok (setAllocationStatus_self (hrows row List.mem_cons_self) hstatus),
      ih (fun row' hr' => hrows row' (List.mem_cons_of_mem _ hr'))
        fun row' hr' => h row' (List.mem_cons_of_mem _ hr')]
    rfl

/-! ## What comes to rest -/

/-- A recorded unknown outcome is left as it is by requests. -/
theorem settle_leavesUnknown (hS : S.Lawful) {view : AllocationView} (hcontext : context.retryUnknown = false)
    (hstatus : S.allocationStatus S.unknown ≠ S.settledStatus)
    (hunknown : S.outcome environment context view = S.unknown) :
    S.leavesUnknown context (S.settle environment context view) := by
  have hne : S.outcome environment context view ≠ S.settled := by
    rw [hunknown]
    exact hS.unknown_ne_settled
  have hpasses : ¬ S.passes (S.settle environment context view).toAllocationRow := by
    unfold passes
    rw [settle_status, hunknown]
    exact hstatus
  have hkeeps : ∀ operation : ProviderOperationModel, operation.status = .unknown →
      context.keepsUnknown operation := by
    intro operation hs
    refine ⟨hs, Or.inl ?_⟩
    rw [hcontext]
    decide
  rcases outcome_ne_settled hne with ⟨ha, hanswer⟩ | ⟨hl, -⟩
  · refine ⟨hpasses, ha.2.1, _, settle_operation_of_asks ha, hkeeps _ ?_⟩
    exact recorded_status_unknown (hanswer.symm.trans hunknown) hS.unknown_ne_settled
  · have hna := not_asks_of_leavesUnknown hl
    obtain ⟨-, hk, operation, ho, hu⟩ := hl
    refine ⟨hpasses, hk, operation, ?_, hu⟩
    rw [settle_operation_of_not_asks hna]
    exact ho

/-- An allocation whose outcome is settled or unknown rests for the requests that follow, and they read the
same outcome off it. -/
theorem settle_rests (hS : S.Lawful) {again : Environment} {view : AllocationView}
    (hcontext : context.retryUnknown = false) (hstatus : S.allocationStatus S.unknown ≠ S.settledStatus)
    (houtcome : S.outcome environment context view = S.settled ∨ S.outcome environment context view = S.unknown)
    (hchecked : ¬ S.passes view.toAllocationRow → view.provider.kind = .external →
      S.Checked again view.toAllocationRow) :
    S.Rests again context (S.settle environment context view) ∧
      S.outcome again context (S.settle environment context view) = S.outcome environment context view := by
  rcases houtcome with hsettled | hunknown
  · have hp : S.passes (S.settle environment context view).toAllocationRow := by
      unfold passes
      rw [settle_status, hsettled, hS.status_settled]
    exact ⟨Or.inl hp, (outcome_of_passes hp).trans hsettled.symm⟩
  · have hl := settle_leavesUnknown hS hcontext hstatus hunknown
    have hpasses : ¬ S.passes view.toAllocationRow := by
      intro hp
      exact hS.unknown_ne_settled (hunknown.symm.trans (outcome_of_passes hp))
    obtain ⟨hregistry, hsupported, hbase, hdriver, hreference⟩ := hchecked hpasses hl.2.1
    refine ⟨Or.inr ⟨hl, ⟨hregistry, hsupported, hbase, hdriver, hreference⟩, ?_⟩, ?_⟩
    · rw [settle_status, hunknown]
    · rw [outcome_of_leavesUnknown hl, hunknown]

/-- Where every operation that has not succeeded is unknown, no provider left the allocation in another way. -/
theorem outcome_of_unresolved {view : AllocationView}
    (h : view.provider.kind = .external → ∀ operation ∈ (S.settle environment context view).operation S.kind,
      operation.status ≠ .succeeded → operation.status = .unknown) :
    S.outcome environment context view = S.settled ∨ S.outcome environment context view = S.unknown := by
  by_cases hsettled : S.outcome environment context view = S.settled
  · exact Or.inl hsettled
  · rcases outcome_ne_settled hsettled with ⟨ha, hanswer⟩ | ⟨-, hunknown⟩
    · by_cases hunknown : S.outcome environment context view = S.unknown
      · exact Or.inr hunknown
      · have hfailed : (S.recorded environment context view).status = .failed := by
          rw [hanswer] at hsettled hunknown
          exact recorded_status_failed hsettled hunknown
        have hrecorded := h ha.2.1 _ (settle_operation_of_asks ha)
        rw [hfailed] at hrecorded
        cases hrecorded (by decide)
    · exact Or.inr hunknown

/-- The same outcomes give the same flags. -/
theorem flags_settle {again : Environment} {views : List AllocationView}
    (h : ∀ view ∈ views, S.outcome again context (S.settle environment context view) =
      S.outcome environment context view) :
    S.flags again context (views.map (S.settle environment context)) = S.flags environment context views := by
  unfold flags flagsFrom
  rw [List.foldl_map]
  apply List.foldl_ext
  intro flags view hv
  rw [h view hv]

omit [DecidableEq ω] in
theorem Checked.of_registry {again : Environment} (h : S.Checked environment row)
    (hregistry : again.providerRegistry = environment.providerRegistry) : S.Checked again row :=
  ⟨hregistry.trans h.registry, h.supported, h.baseUrl, h.driver, h.reference⟩

/-- After a walk that left unknown outcomes only, all allocations rest, and the flags stay. -/
theorem settle_views_rest (hS : S.Lawful) {again : Environment} {views : List AllocationView}
    (hcontext : context.retryUnknown = false) (hstatus : S.allocationStatus S.unknown ≠ S.settledStatus)
    (hunresolved : ∀ view ∈ views.map (S.settle environment context), view.provider.kind = .external →
      ∀ operation ∈ view.operation S.kind, operation.status ≠ .succeeded → operation.status = .unknown)
    (hchecked : ∀ view ∈ views, ¬ S.passes view.toAllocationRow → view.provider.kind = .external →
      S.Checked again view.toAllocationRow) :
    (∀ view ∈ views.map (S.settle environment context), S.Rests again context view) ∧
      S.flags again context (views.map (S.settle environment context)) = S.flags environment context views := by
  have hrests : ∀ view ∈ views, S.Rests again context (S.settle environment context view) ∧
      S.outcome again context (S.settle environment context view) = S.outcome environment context view := by
    intro view hv
    exact settle_rests hS hcontext hstatus
      (outcome_of_unresolved (hunresolved _ (List.mem_map_of_mem hv))) (hchecked view hv)
  constructor
  · intro view hv
    obtain ⟨before, hb, rfl⟩ := List.mem_map.mp hv
    exact (hrests before hb).1
  · exact flags_settle fun view hv => (hrests view hv).2

end Settlement

/-! ## Reservations at rest -/

section Reservations
variable {environment again : Environment} {context : ProviderOperationContext}
  {reservation stored : ReservationModel} {s t : Session}

/-- Assigning what a reservation already says. -/
theorem writeReservation_self {reservationId : Uuid} {assign : ReservationModel → ReservationModel}
    {keeps : ∀ reservation, (assign reservation).id = reservation.id}
    (h : ∀ reservation ∈ s.database.reservations.find? reservationId, assign reservation = reservation) :
    writeReservation environment reservationId assign keeps s = .ok () s := by
  have hsame : ∀ hid, s.database.reservations.update reservationId
      (ReservationModel.written environment assign) hid = s.database.reservations := by
    intro hid
    apply Table.update_eq_self
    intro reservation hr hkey
    have hassigned := h reservation (hkey ▸ Table.find?_of_mem hr)
    unfold ReservationModel.written
    rw [if_pos hassigned]
  have hwritten : writeReservation environment reservationId assign keeps s = .ok () { s with
      database := { s.database with
        reservations := s.database.reservations.update reservationId
          (ReservationModel.written environment assign) (fun reservation =>
            (ReservationModel.written_of_eq ReservationModel.id (fun _ _ => rfl) environment assign
              reservation).trans (keeps reservation)) } } := rfl
  rw [hwritten, hsame]

theorem Database.scanAllocations_stored (database : Database) (environment : Environment) (r : Uuid) :
    ∀ row ∈ database.scanAllocations environment r, row.allocation ∈ database.allocations :=
  fun _ hrow =>
    (Database.mem_allocationRows.mp ((database.scanAllocations_perm environment r).mem_iff.mp hrow)).1

/-- The flags do not depend on the order of the query. -/
theorem Settlement.flags_scanAllocations {ω : Type} [DecidableEq ω] {S : Settlement ω} (hS : S.Lawful)
    (database : Database) (environment : Environment) (context : ProviderOperationContext) (r : Uuid) :
    S.flagsFrom environment context ⟨false, false⟩
        ((database.scanAllocations environment r).map (database.view r)) =
      S.flags environment context (database.allocationViews r) :=
  flagsFrom_perm hS ((database.scanAllocations_perm environment r).map _) _

/-- Confirming a reservation whose allocations all rest, while an outcome is awaited. -/
theorem confirmReservation_rests (hid : context.reservationId = reservation.id)
    (hrests : ∀ view ∈ s.database.allocationViews reservation.id, confirmation.Rests environment context view)
    (hflags : confirmation.flags environment context (s.database.allocationViews reservation.id) = ⟨true, false⟩)
    (hstored : s.database.reservations.find? reservation.id = some stored)
    (hstatus : stored.status = .confirming) :
    confirmReservation environment reservation context s = getReservation reservation.id s := by
  have hwalk : confirmation.settleAllocations environment context
      (s.database.scanAllocations environment reservation.id) ⟨false, false⟩ s = .ok ⟨true, false⟩ s := by
    rw [Settlement.settleAllocations_rests confirmation_lawful (s.database.scanAllocations_stored _ _), hid,
      Settlement.flags_scanAllocations confirmation_lawful, hflags]
    intro row hrow
    rw [hid]
    exact hrests _ (List.mem_map_of_mem ((s.database.scanAllocations_perm _ _).mem_iff.mp hrow))
  have hwrite : concludeConfirmation environment reservation ⟨true, false⟩ s = .ok () s := by
    unfold concludeConfirmation
    rw [if_neg (by decide), if_pos rfl]
    refine writeReservation_self fun found hfound => ?_
    cases hstored.symm.trans hfound
    rw [← hstatus]
  rw [confirmReservation, readDatabase_bind, bind_of_ok hwalk, bind_of_ok hwrite]

/-- Releasing a reservation whose allocations all rest, for the status it is already being released to. -/
theorem releaseReservation_rests {terminalStatus : ReservationStatusModel}
    (hrests : ∀ view ∈ s.database.allocationViews reservation.id,
      releasing.Rests environment (.request reservation.id) view)
    (hflags : (releasing.flags environment (.request reservation.id)
      (s.database.allocationViews reservation.id)).pending = true)
    (hstored : s.database.reservations.find? reservation.id = some stored)
    (hstatus : stored.status = .releasing) (htarget : stored.releaseTargetStatus = some terminalStatus) :
    releaseReservation environment reservation terminalStatus none s = .ok () s := by
  have hmark : ∀ keeps, writeReservation environment reservation.id
      (fun reservation => { reservation with releaseTargetStatus := some terminalStatus }) keeps s = .ok () s := by
    intro keeps
    refine writeReservation_self fun found hfound => ?_
    cases hstored.symm.trans hfound
    rw [← htarget]
  have hwalk : releasing.settleAllocations environment (.request reservation.id)
      (s.database.scanAllocations environment reservation.id) ⟨false, false⟩ s =
      .ok (releasing.flags environment (.request reservation.id)
        (s.database.allocationViews reservation.id)) s := by
    have hrows : ∀ row ∈ s.database.scanAllocations environment reservation.id,
        releasing.Rests environment (.request reservation.id) (s.database.view reservation.id row) :=
      fun row hrow => hrests _ (List.mem_map_of_mem ((s.database.scanAllocations_perm _ _).mem_iff.mp hrow))
    exact (Settlement.settleAllocations_rests releasing_lawful (s.database.scanAllocations_stored _ _) hrows
      _).trans (congrArg (EStateM.Result.ok · s) (Settlement.flags_scanAllocations releasing_lawful _ _ _ _))
  have hwrite : ∀ flags : PassFlags, flags.pending = true →
      concludeRelease environment reservation.id terminalStatus flags s = .ok () s := by
    intro flags hp
    unfold concludeRelease
    rw [if_pos hp]
    refine writeReservation_self fun found hfound => ?_
    cases hstored.symm.trans hfound
    rw [← hstatus]
  rw [releaseReservation, readDatabase_bind, bind_of_ok (hmark _)]
  exact (bind_of_ok hwalk).trans (hwrite _ hflags)

/-! ## The walk before -/

/-- A confirmation that returned made the checks. -/
theorem confirmReservation_checked {result : Option Reservation}
    (h : confirmReservation environment reservation context s = .ok result t) :
    ∀ row ∈ s.database.allocationRows reservation.id, ¬ confirmation.passes row →
      row.provider.kind = .external → confirmation.Checked environment row := by
  rw [confirmReservation, readDatabase_bind] at h
  obtain ⟨flags, v, hv, -⟩ := bind_ok_iff.mp h
  intro row hrow
  exact Settlement.settleAllocations_checked hv row ((s.database.scanAllocations_perm _ _).mem_iff.mpr hrow)

theorem releaseReservation_checked {terminalStatus : ReservationStatusModel}
    {context? : Option ProviderOperationContext} {u : Unit}
    (h : releaseReservation environment reservation terminalStatus context? s = .ok u t) :
    ∀ row ∈ s.database.allocationRows reservation.id, ¬ releasing.passes row →
      row.provider.kind = .external → releasing.Checked environment row := by
  rw [releaseReservation, readDatabase_bind, writeReservation_bind] at h
  obtain ⟨flags, v, hv, -⟩ := bind_ok_iff.mp h
  intro row hrow
  exact Settlement.settleAllocations_checked hv row ((s.database.scanAllocations_perm _ _).mem_iff.mpr hrow)

end Reservations
end InventoryReservation
