import InventoryReservation.Foundations.Testimony
import InventoryReservation.Guarantees.Exclusion
import InventoryReservation.Meaning.SettlingRequests

/-! # Agreement with the providers

What the service has settled is so at the providers. A provider that has confirmed or released a hold keeps it
so, and says it of holds that are so; beyond that its holds may change at any time and its answers may be lost.
Then in any run, rolled back transactions included, an external allocation booked as confirmed or released is
confirmed or released at its provider, and stays so.
-/

namespace InventoryReservation
set_option autoImplicit false

open Relational

/-- What a hold is at its provider. -/
inductive HoldState where
  | absent
  | held
  | confirmed
  | released
  deriving DecidableEq, Repr

def SettlementKind.holdState : SettlementKind → HoldState
  | confirm => .confirmed
  | release => .released

theorem SettlementKind.operationType_injective : Function.Injective SettlementKind.operationType := by
  intro kind kind' h
  cases kind <;> cases kind' <;> first | rfl | cases h

/-- The states a hold does not leave. -/
def HoldState.Final (state : HoldState) : Prop := state = .confirmed ∨ state = .released

theorem SettlementKind.holdState_final (kind : SettlementKind) : kind.holdState.Final := by
  cases kind
  · exact Or.inl rfl
  · exact Or.inr rfl

/-- Which hold an answer says to be settled, and how. -/
def Exchange.states : Exchange → Option ((Uuid × String) × HoldState)
  | confirm providerId command (.attempt .confirmed) => some ((providerId, command.holdReference), .confirmed)
  | release providerId command (.attempt .released) => some ((providerId, command.holdReference), .released)
  | _ => none

/-- The holds at the providers, by provider and reference. -/
abbrev Holds := Uuid × String → HoldState

/-- Providers that keep what they have settled, and tell no lies about it. -/
abbrev Truthful (exchanges : List Exchange) (before after : Holds) : Prop :=
  Testimony.Attested HoldState.Final Exchange.states exchanges before after

/-- The calls of a run, with what came back. -/
abbrev System.exchangesOf (sha256 : String → String) (database : Database) (events : List Event) : List Exchange :=
  Runs.trace (System.step sha256)
    (fun database event => (System.execute sha256 event database).exchanges.map Prod.snd) database events

/-- The hold of an allocation at its provider. -/
def AllocationView.hold (view : AllocationView) : Uuid × String :=
  (view.provider.id, view.allocation.providerHoldReference.getD "")

/-- What the database has settled, the providers have. -/
structure Database.AgreesWith (database : Database) (holds : Holds) : Prop where
  allocations : ∀ r, ∀ aggregate ∈ database.aggregate? r, ∀ view ∈ aggregate.allocations,
    view.provider.kind = .external → ∀ kind : SettlementKind,
      view.allocation.status = kind.settledStatus → holds view.hold = kind.holdState
  confirmed : ∀ r, ∀ aggregate ∈ database.aggregate? r, aggregate.reservation.status = .confirmed →
    ∀ view ∈ aggregate.allocations, view.provider.kind = .external → holds view.hold = .confirmed
  withdrawn : ∀ r, ∀ aggregate ∈ database.aggregate? r, aggregate.reservation.status ∈ [.cancelled, .expired] →
    ∀ view ∈ aggregate.allocations, view.provider.kind = .external → holds view.hold = .released
  neverBoth : database.NeverBoth

/-! ## What is booked has been said -/

/-- An answer in the log says the hold is settled in this way. -/
def Vouched (log : List Exchange) (kind : SettlementKind) (view : AllocationView) : Prop :=
  ∃ exchange ∈ log, exchange.states = some (view.hold, kind.holdState)

/-- Of an external allocation, what is booked as settled has been said. -/
structure AllocationView.Attested (log : List Exchange) (view : AllocationView) : Prop where
  operation : ∀ kind, ∀ operation ∈ view.operation kind, operation.status = .succeeded → Vouched log kind view
  status : view.provider.kind = .external → ∀ kind : SettlementKind,
    view.allocation.status = kind.settledStatus → Vouched log kind view

theorem Vouched.mono {log log' : List Exchange} {kind : SettlementKind} {view : AllocationView}
    (h : Vouched log kind view) (hmem : ∀ exchange ∈ log, exchange ∈ log') : Vouched log' kind view := by
  obtain ⟨exchange, he, hstates⟩ := h
  exact ⟨exchange, hmem exchange he, hstates⟩

theorem AllocationView.Attested.mono {log log' : List Exchange} {view : AllocationView} (h : view.Attested log)
    (hmem : ∀ exchange ∈ log, exchange ∈ log') : view.Attested log' :=
  ⟨fun kind operation ho hs => (h.operation kind operation ho hs).mono hmem,
    fun hk kind hs => (h.status hk kind hs).mono hmem⟩

namespace Settlement
variable {ω : Type} [DecidableEq ω]

omit [DecidableEq ω] in
/-- The settled outcome is what the provider states, and alone leads to the settled status. -/
structure Vouches (S : Settlement ω) : Prop where
  states : ∀ providerId command, (S.exchange providerId command (.attempt S.settled)).states =
    some ((providerId, command.holdReference), S.kind.holdState)
  settled : ∀ outcome (kind : SettlementKind), S.allocationStatus outcome = kind.settledStatus →
    kind = S.kind ∧ outcome = S.settled
  passes : S.settledStatus = S.kind.settledStatus
  unknown : S.unknown ≠ S.settled

variable {S : Settlement ω} {environment : Environment} {context : ProviderOperationContext} {view : AllocationView}
  {log : List Exchange} {exchanges : List (Database × Exchange)}

omit [DecidableEq ω] in
theorem vouched_of_answered (hS : S.Vouches) (hanswered : S.answered environment context view exchanges)
    (hsettled : S.answer environment context view = S.settled) :
    Vouched (log ++ exchanges.map Prod.snd) S.kind view := by
  obtain ⟨hreply, database, hentry⟩ := hanswered
  rw [hreply, hsettled] at hentry
  exact ⟨_, List.mem_append_right _ (List.mem_map_of_mem hentry), hS.states _ _⟩

/-- What a walk books as settled has been said before, or is said to the walk. -/
theorem settle_attested (hS : S.Vouches) (h : view.Attested log)
    (hanswered : S.asks context view → S.answered environment context view exchanges) :
    (S.settle environment context view).Attested (log ++ exchanges.map Prod.snd) := by
  have hbefore := h.mono fun exchange => List.mem_append_left (exchanges.map Prod.snd)
  constructor
  · intro kind operation ho hs
    by_cases hask : kind = S.kind ∧ S.asks context view
    · obtain ⟨rfl, ha⟩ := hask
      rw [settle_operation_of_asks ha] at ho
      cases ho
      refine vouched_of_answered hS (hanswered ha) ?_
      by_contra hne
      by_cases hu : S.answer environment context view = S.unknown
      · exact absurd (hs.symm.trans (recorded_status_unknown hu hS.unknown)) (by decide)
      · exact absurd (hs.symm.trans (recorded_status_failed hne hu)) (by decide)
    · have hkept : (S.settle environment context view).operation kind = view.operation kind := by
        rcases not_and_or.mp hask with hk | ha
        · exact settle_operation_of_ne hk
        · rw [settle_operation_of_not_asks ha]
      rw [hkept] at ho
      exact hbefore.operation kind operation ho hs
  · intro hexternal kind hs
    rw [settle_status] at hs
    obtain ⟨rfl, houtcome⟩ := hS.settled _ _ hs
    cases S.visit context view with
    | passes hp => exact hbefore.status hexternal S.kind (hp.trans hS.passes)
    | draws hd => exact absurd (hd.2.symm.trans hexternal) (by decide)
    | succeeded operation ho hsucceeded => exact hbefore.operation S.kind operation ho hsucceeded
    | leavesUnknown hl => exact absurd ((outcome_of_leavesUnknown hl).symm.trans houtcome) hS.unknown
    | asks ha =>
      rw [outcome_of_asks ha] at houtcome
      exact vouched_of_answered hS (hanswered ha) houtcome

end Settlement

theorem confirmation_vouches : confirmation.Vouches where
  states _ _ := rfl
  settled outcome kind h := by
    cases outcome <;> cases kind <;> first | exact ⟨rfl, rfl⟩ | cases h
  passes := rfl
  unknown := by decide

theorem releasing_vouches : releasing.Vouches where
  states _ _ := rfl
  settled outcome kind h := by
    cases outcome <;> cases kind <;> first | exact ⟨rfl, rfl⟩ | cases h
  passes := rfl
  unknown := by decide

theorem Pass.settle_attested {environment : Environment} {pass : Pass} {view : AllocationView} {log : List Exchange}
    {exchanges : List (Database × Exchange)} (h : view.Attested log)
    (hanswered : pass.Answered environment exchanges view) :
    (pass.settle environment view).Attested (log ++ exchanges.map Prod.snd) := by
  cases pass with
  | confirm context => exact Settlement.settle_attested confirmation_vouches h hanswered
  | release context terminalStatus => exact Settlement.settle_attested releasing_vouches h hanswered

/-- A hold nothing was asked about. -/
theorem Aggregate.Opened.attested {environment : Environment} {reservation : Reservation}
    {done : List ReservationItemModel} {aggregate : Aggregate} (h : aggregate.Opened environment reservation done)
    (log : List Exchange) : ∀ view ∈ aggregate.allocations, view.Attested log := by
  intro view hv
  constructor
  · intro kind operation ho
    rw [h.fresh view hv kind] at ho
    cases ho
  · intro _ kind hs
    rw [h.held view hv] at hs
    cases kind <;> cases hs

/-! ## Reservations that ended -/

/-- All of a confirmed reservation is confirmed, all of a cancelled or expired one released. -/
structure Aggregate.Uniform (aggregate : Aggregate) : Prop where
  confirmed : aggregate.reservation.status = .confirmed →
    ∀ view ∈ aggregate.allocations, view.allocation.status = .confirmed
  withdrawn : aggregate.reservation.status ∈ [.cancelled, .expired] →
    ∀ view ∈ aggregate.allocations, view.allocation.status = .released

/-- Other reservations need not be. -/
theorem Aggregate.Uniform.of_status {aggregate : Aggregate}
    (h : aggregate.reservation.status ∉ [.confirmed, .cancelled, .expired]) : aggregate.Uniform := by
  rw [List.mem_cons, not_or] at h
  exact ⟨fun hs => absurd hs h.1, fun hs => absurd hs h.2⟩

section Uniform
variable {environment : Environment} {context : ProviderOperationContext} {before after : Aggregate}

theorem Aggregate.Confirmed.uniform (h : before.Confirmed environment context after) : after.Uniform := by
  have hpass : (Pass.confirm context).Applies environment before after := h
  rcases h.cases with ⟨-, hs⟩ | ⟨-, hs⟩ | ⟨hflags, hs⟩
  · exact .of_status (by rw [hs]; decide)
  · exact .of_status (by rw [hs]; decide)
  · refine ⟨fun _ view hv => ?_, fun hs' => by rw [hs] at hs'; exact absurd hs' (by decide)⟩
    obtain ⟨view', hv', rfl⟩ := hpass.mem_allocations hv
    exact congrArg confirmation.allocationStatus
      (outcome_of_confirmation_flags environment context hflags view' hv')

theorem Aggregate.Released.uniform {terminalStatus : ReservationStatusModel}
    (hterminal : terminalStatus ∈ [.cancelled, .expired, .failed])
    (h : before.Released environment context terminalStatus after) : after.Uniform := by
  have hpass : (Pass.release context terminalStatus).Applies environment before after := h
  have hne : terminalStatus ≠ .confirmed := by
    rintro rfl
    exact absurd hterminal (by decide)
  rcases h.cases with ⟨-, hs, -⟩ | ⟨hflags, hs, -⟩
  · exact .of_status (by rw [hs]; decide)
  · refine ⟨fun hs' => absurd (hs.symm.trans hs') hne, fun _ view hv => ?_⟩
    obtain ⟨view', hv', rfl⟩ := hpass.mem_allocations hv
    exact congrArg releasing.allocationStatus (outcome_of_releasing_flags environment context hflags view' hv')

end Uniform

namespace System
variable {sha256 : String → String}

theorem maintains_uniform : Maintains sha256 (fun _ _ => True) Aggregate.Uniform where
  created := by
    intro database event userId items idempotencyKey reservation held after _ _ hstart hcreated
    cases hcreated with
    | held _ h =>
      have hpending := h.status.trans (congrArg ReservationStatus.toModel (Reservation.start_ok hstart).2.2.2.2.2.1)
      exact .of_status (by rw [hpending]; decide)
    | compensated before _ done hdone h hr => exact hr.uniform (by decide)
  walked := by
    intro database event walk before after _ hwalk _ _ _ _ happlies _
    obtain ⟨model, pass⟩ := walk
    cases pass with
    | confirm context => exact Aggregate.Confirmed.uniform happlies
    | release context terminalStatus => exact Aggregate.Released.uniform (event.terminal hwalk) happlies

/-! ## Runs -/

/-- Every stored allocation is attested by the log. -/
structure AttestedBy (log : List Exchange) (database : Database) : Prop where
  sound : database.Sound
  attested : ∀ r aggregate, database.aggregate? r = some aggregate →
    ∀ view ∈ aggregate.allocations, view.Attested log

/-- An operation that succeeded is that of an attested allocation. -/
theorem AttestedBy.operation {log : List Exchange} {database : Database} (h : AttestedBy log database)
    {operation : ProviderOperationModel} (ho : operation ∈ database.operations.rows)
    (hs : operation.status = .succeeded) :
    ∃ (kind : SettlementKind) (r : Uuid) (aggregate : Aggregate) (view : AllocationView),
      database.aggregate? r = some aggregate ∧ view ∈ aggregate.allocations ∧
        view.allocation.id = operation.allocationId ∧ operation.operation = kind.operationType ∧
        Vouched log kind view := by
  obtain ⟨kind, r, aggregate, view, ha, hv, hid, -, hview, htype⟩ :=
    h.sound.wellFormed.view_of_operation (Table.find?_of_mem ho)
  exact ⟨kind, r, aggregate, view, ha, hv, hid, htype,
    (h.attested r aggregate ha view hv).operation kind operation hview hs⟩

theorem step_attested {log : List Exchange} {database : Database} (h : AttestedBy log database) (event : Event) :
    AttestedBy (log ++ (execute sha256 event database).exchanges.map Prod.snd) (step sha256 database event) := by
  refine ⟨step_sound sha256 h.sound event, fun r after ha => ?_⟩
  have hchange := (step_transition sha256 h.sound event).changes r
  cases hb : database.aggregate? r with
  | none =>
    obtain ⟨userId, items, idempotencyKey, reservation, -, -, -, hfounded⟩ := step_founded h.sound hb ha
    cases hfounded with
    | held aggregate hopened hroutes => exact hopened.attested _
    | compensated before _ done hopened hr hsent hanswered =>
      intro view hv
      rw [hr.allocations] at hv
      obtain ⟨view', hv', rfl⟩ := List.mem_map.mp hv
      have hpass := Pass.settle_attested (hopened.attested log view' hv') (hanswered view' hv')
      exact hpass
  | some before =>
    rw [hb, ha] at hchange
    cases hchange with
    | kept => exact fun view hv => (h.attested r _ hb view hv).mono fun _ => List.mem_append_left _
    | walked walk before after hwalk hreservation hid happlies hanswered =>
      intro view hv
      obtain ⟨view', hv', rfl⟩ := happlies.mem_allocations hv
      exact Pass.settle_attested (h.attested r before hb view' hv') (hanswered view' hv')

theorem run_attested {database : Database} (hinit : database.Initial) (events : List Event) :
    AttestedBy (exchangesOf sha256 database events) (run sha256 database events) := by
  have hstart : AttestedBy [] database := by
    refine ⟨.of_initial hinit, fun r aggregate ha => ?_⟩
    rw [Database.aggregate?_of_initial hinit] at ha
    cases ha
  have hstep : ∀ log database event, AttestedBy log database →
      AttestedBy (log ++ (execute sha256 event database).exchanges.map Prod.snd) (step sha256 database event) :=
    fun _ _ event h => step_attested h event
  exact Runs.run_trace (I := AttestedBy) hstep hstart events

/-- With truthful providers, what any run has settled is settled at the providers. -/
theorem run_agrees (sha256 : String → String) {database : Database} (hinit : database.Initial) (events : List Event)
    {before after : Holds} (htruthful : Truthful (exchangesOf sha256 database events) before after) :
    (run sha256 database events).AgreesWith after := by
  have hattested : AttestedBy (exchangesOf sha256 database events) (run sha256 database events) :=
    run_attested hinit events
  have hmaintains : Maintains sha256 (fun _ _ => True) Aggregate.Uniform := maintains_uniform
  have huniform := hmaintains.run hinit (.of_all (fun _ _ => trivial) database events)
  have hallocations : ∀ r, ∀ aggregate ∈ (run sha256 database events).aggregate? r,
      ∀ view ∈ aggregate.allocations, view.provider.kind = .external → ∀ kind : SettlementKind,
        view.allocation.status = kind.settledStatus → after view.hold = kind.holdState := by
    intro r aggregate ha view hv hexternal kind hs
    obtain ⟨exchange, he, hstates⟩ := (hattested.attested r aggregate ha view hv).status hexternal kind hs
    exact htruthful.stands he hstates kind.holdState_final
  constructor
  · exact hallocations
  · exact fun r aggregate ha hs view hv hexternal =>
      hallocations r aggregate ha view hv hexternal .confirm ((huniform r aggregate ha).confirmed hs view hv)
  · exact fun r aggregate ha hs view hv hexternal =>
      hallocations r aggregate ha view hv hexternal .release ((huniform r aggregate ha).withdrawn hs view hv)
  · intro a ha b hb hsame hconfirm hrelease hboth
    obtain ⟨kind, r, aggregate, view, hr, hv, hid, htype, exchange, he, hstates⟩ := hattested.operation ha hboth.1
    obtain ⟨kind', r', aggregate', view', hr', hv', hid', htype', exchange', he', hstates'⟩ :=
      hattested.operation hb hboth.2
    rw [Database.view_unique hr hr' hv hv' (hid.trans (hsame.trans hid'.symm))] at hstates
    have hkind : kind = .confirm := SettlementKind.operationType_injective (htype.symm.trans hconfirm)
    have hkind' : kind' = .release := SettlementKind.operationType_injective (htype'.symm.trans hrelease)
    rw [hkind] at hstates
    rw [hkind'] at hstates'
    cases htruthful.consistent he he' hstates hstates' (Or.inl rfl) (Or.inr rfl)

/-- The hold of the example, once its provider has confirmed it. -/
def confirmedHold : Holds := fun hold => if hold = (20, "hold") then .confirmed else .absent

/-- The provider confirms a hold, its answer is lost, and the reconciliation hears of it. -/
theorem run_agrees_reconciled :
    (run Deployment.sha256 Deployment.database
      [Deployment.create 1000 100 0 [Deployment.line 2 20 1] "a",
        Deployment.confirming .unknown (Deployment.confirm 1100 100 10),
        Deployment.reconcile 1200 50]).AgreesWith confirmedHold :=
  run_agrees Deployment.sha256 Deployment.initial _
    (Testimony.Attested.of_evolves (fun _ h => nomatch h) (.of_stated (by decide +kernel)) :
      Truthful _ (fun _ => .absent) confirmedHold)

end System
end InventoryReservation
