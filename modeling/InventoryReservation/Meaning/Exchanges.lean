import InventoryReservation.Meaning.Refinement

/-! # The provider calls of a transaction

What a transaction asked of providers, wherever it stopped. Every confirm or release request is one
its walk sends for an allocation (`Settlement.Sent`), and whatever is raised on the way is an ordinary
failure, or comes from an unknown outcome whose next attempt falls out of range (`Settlement.overflows`).
-/

namespace InventoryReservation
set_option autoImplicit false

open Relational Transactional

/-- A request that a walk sends for an allocation, next to the database as the transaction saw it:
the operations of the other kind are as the walk found them. -/
structure Settlement.Sent {ω : Type} (S : Settlement ω) (environment : Environment)
    (context : ProviderOperationContext) (view : AllocationView) (entry : Database × Exchange) :
    Prop where
  asks : S.asks context view
  exchange : entry.2 = S.exchange view.provider.id (S.command context view)
    (S.reply environment context view)
  others : ∀ kind : SettlementKind, kind ≠ S.kind →
    entry.1.operations.find? (kind.key context.reservationId view.allocation.id) = view.operation kind

/-- The provider leaves the outcome of this allocation unknown, and the next attempt cannot be scheduled. -/
def Settlement.overflows {ω : Type} [DecidableEq ω] (S : Settlement ω) (environment : Environment)
    (context : ProviderOperationContext) (view : AllocationView) : Prop :=
  S.gets environment context view S.unknown ∧
    context.nextAttemptAt (S.inProgress context view).attemptCount = .error .overflow

/-- Neither the verdict of a create nor an instant or interval out of range. -/
def Failure.isOrdinary : Failure → Bool
  | insufficientInventory _ => false
  | overflow => false
  | _ => true

/-- Ordinary failures are among those of `E`. -/
class AdmitsOrdinary (E : Failure → Prop) : Prop where
  of_ordinary : ∀ failure : Failure, failure.isOrdinary = true → E failure

instance : AdmitsOrdinary NoVerdict where
  of_ordinary failure h := by
    rintro items rfl
    cases h

/-- Every call so far is one of `Q`. -/
def Traced (Q : Database × Exchange → Prop) (s : Session) : Prop := ∀ entry ∈ s.exchanges, Q entry

/-- No run adds a call outside `Q`, and none raises the verdict of a create. -/
abbrev Traces {α : Type} (Q : Database × Exchange → Prop) (x : TransactionM α) : Prop :=
  Keeps (Traced Q) NoVerdict x

/-! ## Primitives -/

section Primitives
variable {α : Type} {Q : Database × Exchange → Prop} {E : Failure → Prop}

theorem traces_readDatabase : Keeps (Traced Q) E readDatabase := fun _ hs => hs

theorem traces_writeDatabase (database : Database) : Keeps (Traced Q) E (writeDatabase database) :=
  fun _ hs => hs

theorem traces_newId (environment : Environment) : Keeps (Traced Q) E (newId environment) :=
  fun _ hs => hs

theorem traces_recordExchange {exchange : Exchange} (h : ∀ database, Q (database, exchange)) :
    Keeps (Traced Q) E (recordExchange exchange) := by
  intro s hs entry he
  rcases List.mem_append.mp he with he | he
  · exact hs entry he
  · rw [List.mem_singleton.mp he]
    exact h _

theorem traces_raiseIf {violation : Option Failure} (h : ∀ failure ∈ violation, E failure) :
    Keeps (Traced Q) E (raiseIf violation) := by
  cases violation with
  | none => exact Keeps.pure ()
  | some failure => exact Keeps.throw (h failure rfl)

theorem traces_ofExcept {x : Except Failure α} (h : ∀ failure, x = .error failure → E failure) :
    Keeps (Traced Q) E (ofExcept x) := by
  cases x with
  | ok a => exact Keeps.pure a
  | error failure => exact Keeps.throw (h failure rfl)

theorem traces_forEach {body : α → TransactionM Unit} {xs : List α}
    (h : ∀ x ∈ xs, Keeps (Traced Q) E (body x)) : Keeps (Traced Q) E (forEach body xs) := by
  induction xs with
  | nil => exact Keeps.pure ()
  | cons x xs ih =>
    exact Keeps.bind (h x List.mem_cons_self) fun _ => ih fun y hy => h y (List.mem_cons_of_mem x hy)

theorem traces_writeReservation (environment : Environment) (reservationId : Uuid)
    (assign : ReservationModel → ReservationModel)
    (keeps : ∀ reservation, (assign reservation).id = reservation.id) :
    Keeps (Traced Q) E (writeReservation environment reservationId assign keeps) :=
  Keeps.bind traces_readDatabase fun _ => traces_writeDatabase _

theorem traces_concludeRelease (environment : Environment) (reservationId : Uuid)
    (terminalStatus : ReservationStatusModel) (flags : PassFlags) :
    Keeps (Traced Q) E (concludeRelease environment reservationId terminalStatus flags) :=
  Keeps.ite (fun _ => traces_writeReservation _ _ _ _) fun _ => traces_writeReservation _ _ _ _

theorem isOrdinary_violation {offer : ProductOfferModel} :
    ∀ failure ∈ offer.violation, failure.isOrdinary = true := by
  intro failure hf
  unfold ProductOfferModel.violation ProductOfferModel.failedCheck at hf
  repeat' split at hf
  all_goals cases hf
  all_goals rfl

theorem isOrdinary_encodingFailure {statement : OfferStatement} :
    ∀ failure ∈ statement.encodingFailure, failure.isOrdinary = true := by
  intro failure hf
  rw [OfferStatement.eq_of_mem_encodingFailure hf]
  rfl

theorem isOrdinary_construct {id userId : Uuid} {items : List ReservationItem}
    {idempotencyKey requestFingerprint : String} {createdAt expiresAt : Instant}
    {status : ReservationStatus} {releaseTargetStatus : Option ReservationStatus} {failure : Failure}
    (h : Reservation.construct id userId items idempotencyKey requestFingerprint createdAt expiresAt
      status releaseTargetStatus = .error failure) : failure.isOrdinary = true := by
  unfold Reservation.construct at h
  repeat' split at h
  all_goals cases h
  all_goals rfl

theorem ReservationStatusModel.isOrdinary_toDomain {status : ReservationStatusModel} {failure : Failure}
    (h : status.toDomain = .error failure) : failure.isOrdinary = true := by
  cases status <;> cases h <;> rfl

theorem isOrdinary_releaseTargetToDomain {target : Option ReservationStatusModel} {failure : Failure}
    (h : releaseTargetToDomain target = .error failure) : failure.isOrdinary = true := by
  cases target with
  | none => cases h
  | some status =>
    cases hd : status.toDomain with
    | error failure' =>
      rw [releaseTargetToDomain, hd] at h
      cases h
      exact ReservationStatusModel.isOrdinary_toDomain hd
    | ok status' =>
      rw [releaseTargetToDomain, hd] at h
      cases h

theorem isOrdinary_toDomain {database : Database} {model : ReservationModel} {failure : Failure}
    (h : database.toDomain model = .error failure) : failure.isOrdinary = true := by
  unfold Database.toDomain at h
  cases hs : model.status.toDomain with
  | error failure' =>
    rw [hs] at h
    cases h
    exact ReservationStatusModel.isOrdinary_toDomain hs
  | ok status =>
    cases ht : releaseTargetToDomain model.releaseTargetStatus with
    | error failure' =>
      rw [hs, ht] at h
      cases h
      exact isOrdinary_releaseTargetToDomain ht
    | ok target =>
      rw [hs, ht] at h
      exact isOrdinary_construct h

variable [AdmitsOrdinary E]

/-- `E` admits a failure that is seen to be ordinary. -/
theorem admits {failure : Failure} (h : failure.isOrdinary = true) : E failure :=
  AdmitsOrdinary.of_ordinary failure h

theorem traces_updateOffer (statement : OfferStatement) (productId providerId : Uuid) :
    Keeps (Traced Q) E (updateOffer statement productId providerId) := by
  refine Keeps.bind (traces_raiseIf fun failure hf => admits (isOrdinary_encodingFailure failure hf)) fun _ =>
    Keeps.bind traces_readDatabase fun database => ?_
  split
  · exact Keeps.pure _
  · exact Keeps.bind (traces_raiseIf fun failure hf => admits (isOrdinary_violation failure hf)) fun _ =>
      Keeps.bind (traces_writeDatabase _) fun _ => Keeps.pure _

theorem traces_toDomain (model : Option ReservationModel) : Keeps (Traced Q) E (toDomain model) := by
  cases model with
  | none => exact Keeps.pure none
  | some model =>
    exact Keeps.bind traces_readDatabase fun _ =>
      Keeps.bind (traces_ofExcept fun _ h => admits (isOrdinary_toDomain h)) fun _ => Keeps.pure _

theorem traces_getReservation (reservationId : Uuid) :
    Keeps (Traced Q) E (getReservation reservationId) :=
  Keeps.bind traces_readDatabase fun _ => traces_toDomain _

theorem traces_getByIdempotencyKey (userId : Uuid) (idempotencyKey : String) :
    Keeps (Traced Q) E (getByIdempotencyKey userId idempotencyKey) :=
  Keeps.bind traces_readDatabase fun _ => traces_toDomain _

theorem traces_toDomainBatch (reservations : List ReservationModel) :
    Keeps (Traced Q) E (toDomainBatch reservations) := by
  induction reservations with
  | nil => exact Keeps.pure []
  | cons reservation reservations ih =>
    exact Keeps.bind (traces_getReservation reservation.id) fun _ => Keeps.bind ih fun _ => Keeps.pure _

theorem traces_ensureOrder (environment : Environment) (reservation : ReservationModel) :
    Keeps (Traced Q) E (ensureOrder environment reservation) := by
  refine Keeps.bind traces_readDatabase fun database => ?_
  split
  · exact Keeps.pure ()
  · refine Keeps.bind (traces_newId environment) fun id => Keeps.bind ?_ fun _ => traces_forEach ?_
    · refine Keeps.bind traces_readDatabase fun database =>
        Keeps.ite (fun _ => Keeps.throw (admits rfl)) fun _ => ?_
      split
      · exact Keeps.throw (admits rfl)
      · exact traces_writeDatabase _
    · intro item _
      refine Keeps.bind traces_readDatabase fun database => ?_
      split
      · exact Keeps.throw (admits rfl)
      · exact traces_writeDatabase _

theorem traces_concludeConfirmation (environment : Environment) (reservation : ReservationModel)
    (flags : PassFlags) :
    Keeps (Traced Q) E (concludeConfirmation environment reservation flags) :=
  Keeps.ite (fun _ => traces_writeReservation _ _ _ _) fun _ =>
    Keeps.ite (fun _ => traces_writeReservation _ _ _ _) fun _ =>
      Keeps.bind (traces_writeReservation _ _ _ _) fun _ => traces_ensureOrder _ _

end Primitives

/-! ## Walks -/

theorem ProviderOperationContext.nextAttemptAt_failure {context : ProviderOperationContext}
    {attemptCount : ℕ} {failure : Failure} (h : context.nextAttemptAt attemptCount = .error failure) :
    failure = .overflow := by
  unfold nextAttemptAt at h
  dsimp only at h
  repeat' split at h
  all_goals cases h
  all_goals rfl

namespace Settlement
variable {ω : Type} [DecidableEq ω] {S : Settlement ω} {environment : Environment}
  {context : ProviderOperationContext} {row : AllocationRow} {Q : Database × Exchange → Prop}
  {E : Failure → Prop} {s : Session}

/-- The only outcome that cannot be recorded is an unknown one. -/
theorem recordOutcome_failure {outcome : ω} {operation : ProviderOperationModel} {failure : Failure}
    (h : S.recordOutcome context outcome operation = .error failure) :
    outcome = S.unknown ∧ failure = .overflow ∧
      context.nextAttemptAt operation.attemptCount = .error .overflow := by
  unfold recordOutcome at h
  split at h
  · cases h
  · split at h
    · next hunknown =>
      cases hn : context.nextAttemptAt operation.attemptCount with
      | ok nextAttemptAt =>
        rw [hn] at h
        cases h
      | error failure' =>
        rw [hn] at h
        cases h
        obtain rfl := ProviderOperationContext.nextAttemptAt_failure hn
        exact ⟨hunknown, rfl, rfl⟩
    · cases h

variable [AdmitsOrdinary E]

theorem attempt_stops {provider : InventoryProviderModel} {holdReference : String}
    {operation : ProviderOperationModel} (hs : Traced Q s)
    (hsent : Q (s.database, S.exchange provider.id ⟨holdReference, operation.idempotencyKey⟩
      (S.send environment provider.id ⟨holdReference, operation.idempotencyKey⟩)))
    (hlate : S.send environment provider.id ⟨holdReference, operation.idempotencyKey⟩ = .attempt S.unknown →
      context.nextAttemptAt operation.attemptCount = .error .overflow → E .overflow) :
    Stops (Traced Q) E (S.attempt environment context provider holdReference operation s) := by
  rw [attempt, recordExchange_bind]
  have hsent' : Traced Q { s with
      exchanges := s.exchanges ++ [(s.database, S.exchange provider.id
        ⟨holdReference, operation.idempotencyKey⟩
          (S.send environment provider.id ⟨holdReference, operation.idempotencyKey⟩))] } := by
    intro entry he
    rcases List.mem_append.mp he with he | he
    · exact hs entry he
    · rw [List.mem_singleton.mp he]
      exact hsent
  revert hsent' hlate
  generalize S.send environment provider.id ⟨holdReference, operation.idempotencyKey⟩ = reply
  intro hlate hsent'
  cases reply with
  | raised => exact Keeps.throw (admits rfl) _ hsent'
  | attempt outcome =>
    refine Keeps.bind (traces_ofExcept fun failure h => ?_) (fun _ =>
      Keeps.bind traces_readDatabase fun _ =>
        Keeps.bind (traces_writeDatabase _) fun _ => Keeps.pure _) _ hsent'
    obtain ⟨rfl, rfl, hn⟩ := recordOutcome_failure h
    exact hlate rfl hn

theorem settleExternalHold_stops (hfailure : E S.failure) (hp : ¬ S.passes row)
    (hk : row.provider.kind = .external) (hs : Traced Q s)
    (hQ : ∀ entry, S.Sent environment context (s.database.view context.reservationId row) entry →
      Q entry)
    (hE : S.overflows environment context (s.database.view context.reservationId row) → E .overflow) :
    Stops (Traced Q) E
      (S.settleExternalHold environment context row.allocation row.provider s) := by
  rcases settleExternalHold_cases environment s hp hk with
    ⟨failure, hf, he⟩ | ⟨ha, he⟩ | ⟨ha, holdReference, operation, operations, hr, ho, hkey, hops, he⟩
  · rw [he]
    refine ⟨hs, ?_⟩
    rcases hf with rfl | rfl
    · exact hfailure
    · exact admits rfl
  · rw [he]
    exact hs
  · rw [he]
    have hcommand : (⟨holdReference, operation.idempotencyKey⟩ : OperationCommand) =
        S.command context (s.database.view context.reservationId row) := by
      rw [hkey]
      simp only [command, Database.view, hr, Option.getD_some]
    apply attempt_stops (s := { s with database := { s.database with operations } }) hs
    · rw [hcommand]
      refine hQ _ ⟨ha, rfl, ?_⟩
      intro kind hkind
      refine (hops _).trans (if_neg ?_)
      intro hsame
      exact hkind (SettlementKind.key_inj.mp hsame).1
    · rw [hcommand, ho]
      exact fun hreply hn => hE ⟨⟨ha, hreply⟩, hn⟩

theorem settleAllocation_stops (hfailure : E S.failure) (hs : Traced Q s)
    (hQ : ∀ entry, S.Sent environment context (s.database.view context.reservationId row) entry →
      Q entry)
    (hE : S.overflows environment context (s.database.view context.reservationId row) → E .overflow) :
    Stops (Traced Q) E (S.settleAllocation environment context row s) := by
  unfold settleAllocation
  by_cases hp : row.allocation.status = S.settledStatus
  · rw [if_pos hp]
    exact hs
  · rw [if_neg hp]
    cases hk : row.provider.kind with
    | external => exact settleExternalHold_stops hfailure hp hk hs hQ hE
    | internal =>
      refine Keeps.bind (traces_updateOffer _ _ _) (fun inventory => ?_) s hs
      cases inventory with
      | none => exact Keeps.throw hfailure
      | some _ => exact Keeps.pure _

/-- The calls of a walk, from the database it starts in. -/
theorem settleAllocations_stops (hS : S.Lawful) (hfailure : E S.failure) {rows : List AllocationRow}
    {flags : PassFlags} (hrows : (rows.map fun row => row.allocation.id).Nodup) (hs : Traced Q s)
    (hQ : ∀ row ∈ rows, ∀ entry,
      S.Sent environment context (s.database.view context.reservationId row) entry → Q entry)
    (hE : ∀ row ∈ rows,
      S.overflows environment context (s.database.view context.reservationId row) → E .overflow) :
    Stops (Traced Q) E (S.settleAllocations environment context rows flags s) := by
  induction rows generalizing flags s with
  | nil => exact hs
  | cons row rows ih =>
    rw [List.map_cons, List.nodup_cons] at hrows
    obtain ⟨hrow, hrows⟩ := hrows
    have hstops := settleAllocation_stops hfailure hs (hQ row List.mem_cons_self)
      (hE row List.mem_cons_self)
    rw [settleAllocations]
    refine hstops.bind fun outcome u hu => ?_
    obtain ⟨rfl, heffect⟩ := settleAllocation_ok hS hu
    have hne : ∀ row' ∈ rows, row'.allocation.id ≠ row.allocation.id := by
      intro row' hr' he
      exact hrow (he ▸ List.mem_map_of_mem hr')
    have hview : ∀ row' ∈ rows,
        (S.assigned environment context row s u).database.view context.reservationId row' =
          s.database.view context.reservationId row' := fun row' hr' => heffect.view_eq hne hr'
    rw [setAllocationStatus_bind]
    have hu' : Traced Q u := hstops.of_ok hu
    refine ih (s := S.assigned environment context row s u) hrows hu' ?_ ?_
    · intro row' hr' entry hsent
      rw [hview row' hr'] at hsent
      exact hQ row' (List.mem_cons_of_mem row hr') entry hsent
    · intro row' hr' hlate
      rw [hview row' hr'] at hlate
      exact hE row' (List.mem_cons_of_mem row hr') hlate

end Settlement

section Walks
variable {environment : Environment} {reservation : ReservationModel} {Q : Database × Exchange → Prop}
  {E : Failure → Prop} [AdmitsOrdinary E] {context : ProviderOperationContext} {s : Session}

theorem walk_stops {ω : Type} [DecidableEq ω] {S : Settlement ω} (hS : S.Lawful) (hfailure : E S.failure)
    {rows : List AllocationRow} {flags : PassFlags}
    (hrows : rows.Perm (s.database.allocationRows context.reservationId)) (hs : Traced Q s)
    (hQ : ∀ view ∈ s.database.allocationViews context.reservationId, ∀ entry,
      S.Sent environment context view entry → Q entry)
    (hE : ∀ view ∈ s.database.allocationViews context.reservationId,
      S.overflows environment context view → E .overflow) :
    Stops (Traced Q) E (S.settleAllocations environment context rows flags s) := by
  have hview : ∀ row ∈ rows, s.database.view context.reservationId row ∈
      s.database.allocationViews context.reservationId :=
    fun row hrow => List.mem_map_of_mem (hrows.mem_iff.mp hrow)
  refine Settlement.settleAllocations_stops hS hfailure ?_ hs ?_ ?_
  · exact (hrows.map _).nodup_iff.mpr (s.database.allocationRows_nodup context.reservationId)
  · exact fun row hrow => hQ _ (hview row hrow)
  · exact fun row hrow => hE _ (hview row hrow)

/-- The calls of a releasing walk. -/
theorem releaseReservation_stops {terminalStatus : ReservationStatusModel}
    {context? : Option ProviderOperationContext}
    (hcontext : context?.getD (.request reservation.id) = context)
    (hid : context.reservationId = reservation.id) (hs : Traced Q s)
    (hQ : ∀ view ∈ s.database.allocationViews context.reservationId, ∀ entry,
      releasing.Sent environment context view entry → Q entry)
    (hE : ∀ view ∈ s.database.allocationViews context.reservationId,
      releasing.overflows environment context view → E .overflow) :
    Stops (Traced Q) E (releaseReservation environment reservation terminalStatus context? s) := by
  rw [releaseReservation, readDatabase_bind, writeReservation_bind, hcontext]
  refine Stops.bind_keeps ?_ fun flags => traces_concludeRelease _ _ _ _
  refine walk_stops releasing_lawful (admits rfl) ?_ hs hQ hE
  rw [hid]
  exact s.database.scanAllocations_perm environment reservation.id

/-- The calls of a confirming walk. -/
theorem confirmReservation_stops (hid : context.reservationId = reservation.id) (hs : Traced Q s)
    (hQ : ∀ view ∈ s.database.allocationViews context.reservationId, ∀ entry,
      confirmation.Sent environment context view entry → Q entry)
    (hE : ∀ view ∈ s.database.allocationViews context.reservationId,
      confirmation.overflows environment context view → E .overflow) :
    Stops (Traced Q) E (confirmReservation environment reservation context s) := by
  rw [confirmReservation, readDatabase_bind]
  refine Stops.bind_keeps ?_ fun flags =>
    Keeps.bind (traces_concludeConfirmation _ _ _) fun _ => traces_getReservation _
  refine walk_stops confirmation_lawful (admits rfl) ?_ hs hQ hE
  rw [hid]
  exact s.database.scanAllocations_perm environment reservation.id

end Walks

/-! ## Routing a hold -/

/-- A call made to route this command: a question about the stock of its product, or the command
itself, answered as the environment has it. -/
def Exchange.routesFor (environment : Environment) (command : HoldCommand) : Exchange → Prop
  | availability _ asked _ => asked.productId = command.productId
  | hold providerId sent reply => sent = command ∧ reply = environment.hold providerId sent
  | confirm _ _ _ => False
  | release _ _ _ => False

theorem Exchange.routes_of_routesFor {environment : Environment} {command : HoldCommand}
    {exchange : Exchange} (h : exchange.routesFor environment command) : exchange.routes := by
  cases exchange with
  | availability => trivial
  | hold => trivial
  | confirm => exact h
  | release => exact h

section Routing
variable {environment : Environment} {Q : Database × Exchange → Prop} {command : HoldCommand}
  (hroutes : ∀ entry : Database × Exchange, entry.2.routesFor environment command → Q entry)

theorem traces_observeAvailability (productId providerId : Uuid) (attempt : ProviderAvailabilityAttempt) :
    Traces Q (observeAvailability productId providerId attempt) := by
  unfold observeAvailability
  split
  · exact Keeps.bind (traces_updateOffer _ _ _) fun _ => Keeps.pure ()
  · exact Keeps.pure ()

include hroutes

theorem traces_availability {candidate : InventoryProviderModel} {provider : HoldProvider TransactionM}
    (hp : holdProvider environment candidate = some provider) :
    Traces Q (provider.availability ⟨command.productId⟩) := by
  unfold holdProvider at hp
  split at hp
  · cases hp
    exact Keeps.bind (Keeps.bind traces_readDatabase fun _ => Keeps.pure _) fun _ => Keeps.pure _
  · obtain ⟨-, ⟨⟩⟩ := Option.ite_none_right_eq_some.mp hp
    refine Keeps.bind (traces_recordExchange fun _ => hroutes _ rfl) fun _ => ?_
    split
    · exact Keeps.pure _
    · exact Keeps.throw (noVerdict_of rfl)

theorem traces_hold {candidate : InventoryProviderModel} {provider : HoldProvider TransactionM}
    (hp : holdProvider environment candidate = some provider) :
    Traces Q (provider.hold command) := by
  unfold holdProvider at hp
  split at hp
  · cases hp
    refine Keeps.bind (traces_updateOffer _ _ _) fun snapshot => ?_
    cases snapshot with
    | none => exact Keeps.pure _
    | some _ => exact Keeps.pure _
  · obtain ⟨-, ⟨⟩⟩ := Option.ite_none_right_eq_some.mp hp
    refine Keeps.bind (traces_recordExchange fun _ => hroutes _ ⟨rfl, rfl⟩) fun _ => ?_
    split
    · exact Keeps.pure _
    · exact Keeps.throw (noVerdict_of rfl)

theorem traces_holdAmong {router : ProviderRouter TransactionM} (productId : Uuid)
    (hobserver : router.availabilityObserver = some (observeAvailability productId))
    {providers : List (HoldProvider TransactionM)}
    (hadapters : ∀ provider ∈ providers, ∃ candidate : InventoryProviderModel,
      holdProvider environment candidate = some provider) :
    Traces Q (router.holdAmong command providers) := by
  induction providers with
  | nil => exact Keeps.pure none
  | cons provider rest ih =>
    obtain ⟨candidate, hp⟩ := hadapters provider List.mem_cons_self
    have hrest : Traces Q (router.holdAmong command rest) :=
      ih fun provider' hmem => hadapters provider' (List.mem_cons_of_mem _ hmem)
    refine Keeps.bind (Keeps.ite (fun _ => ?_) fun _ => Keeps.pure false) fun skipped => ?_
    · rw [hobserver]
      exact Keeps.bind (traces_availability hroutes hp) fun _ =>
        Keeps.bind (traces_observeAvailability _ _ _) fun _ => Keeps.pure _
    · refine Keeps.ite (fun _ => hrest) fun _ => Keeps.bind (traces_hold hroutes hp) fun attempt => ?_
      cases attempt.outcome with
      | held => exact Keeps.pure _
      | outOfStock => exact hrest
      | temporarilyUnavailable => exact hrest
      | unknown => exact Keeps.throw (noVerdict_of rfl)

variable (command) in
theorem traces_tryHoldSelected (providerId : Uuid) :
    Traces Q (tryHoldSelected environment command.productId providerId command.quantity
      command.idempotencyKey) := by
  refine Keeps.bind traces_readDatabase fun database => ?_
  refine traces_holdAmong hroutes command.productId rfl (?_ : ∀ provider ∈ _, ∃ candidate,
    holdProvider environment candidate = some provider)
  intro provider hmem
  obtain ⟨candidate, -, hp⟩ := exists_candidate hmem
  exact ⟨candidate, hp⟩

end Routing
end InventoryReservation
