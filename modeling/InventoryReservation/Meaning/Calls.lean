import InventoryReservation.Meaning.Commit
import InventoryReservation.Meaning.Relations

/-! # Counting provider calls

A transaction that returns makes one call for every attempt it books: the attempts of an operation move
with the calls made under its key (`Tallies`). The calls of a run are those of the transactions it
committed.
-/

namespace InventoryReservation
set_option autoImplicit false

open Relational Transactional

/-- The idempotency key of a call. -/
def Exchange.idempotencyKey? : Exchange → Option ProviderKey
  | availability _ _ _ => none
  | hold _ command _ => some command.idempotencyKey
  | confirm _ command _ => some command.idempotencyKey
  | release _ command _ => some command.idempotencyKey

def callsWith (key : ProviderKey) (exchanges : List (Database × Exchange)) : ℕ :=
  exchanges.countP fun entry => entry.2.idempotencyKey? = some key

/-- The attempts booked under a key. -/
def Database.attempts (database : Database) (key : ProviderKey) : ℕ :=
  ((database.operations.find? key).map ProviderOperationModel.attemptCount).getD 0

/-- Attempts and calls of confirm and release operations move together. -/
structure Tallies (s t : Session) : Prop where
  balance : ∀ (kind : SettlementKind) (r a : Uuid),
    t.database.attempts (kind.key r a) + callsWith (kind.key r a) s.exchanges =
      s.database.attempts (kind.key r a) + callsWith (kind.key r a) t.exchanges

theorem Tallies.refl (s : Session) : Tallies s s := ⟨fun _ _ _ => rfl⟩

theorem Tallies.trans {s t u : Session} (h : Tallies s t) (h' : Tallies t u) : Tallies s u := by
  refine ⟨fun kind r a => ?_⟩
  have h1 := h.balance kind r a
  have h2 := h'.balance kind r a
  omega

/-- Nothing booked, nothing called. -/
theorem Tallies.of_silent {s t : Session} (hoperations : t.database.operations = s.database.operations)
    (hexchanges : t.exchanges = s.exchanges) : Tallies s t := by
  refine ⟨fun kind r a => ?_⟩
  unfold Database.attempts
  rw [hoperations, hexchanges]

theorem tallies_composes : Composes Tallies where
  trans _ _ _ := Tallies.trans
  silent _ _ := .of_silent

theorem callsWith_append (key : ProviderKey) (exchanges : List (Database × Exchange))
    (entry : Database × Exchange) :
    callsWith key (exchanges ++ [entry]) =
      callsWith key exchanges + if entry.2.idempotencyKey? = some key then 1 else 0 := by
  unfold callsWith
  rw [List.countP_append, List.countP_singleton]
  simp only [decide_eq_true_eq]

/-- A call under a key of another form is not counted. -/
theorem Tallies.of_routing {s t : Session} {e : Database × Exchange}
    (hoperations : t.database.operations = s.database.operations)
    (hexchanges : t.exchanges = s.exchanges ++ [e])
    (hkey : ∀ (kind : SettlementKind) (r a : Uuid), e.2.idempotencyKey? ≠ some (kind.key r a)) :
    Tallies s t := by
  refine ⟨fun kind r a => ?_⟩
  unfold Database.attempts
  rw [hoperations, hexchanges, callsWith_append, if_neg (hkey kind r a), Nat.add_zero]

/-- One attempt more under the key of the call. -/
theorem Tallies.of_call {s t : Session} {e : Database × Exchange} {key : ProviderKey}
    (hexchanges : t.exchanges = s.exchanges ++ [e]) (hkey : e.2.idempotencyKey? = some key)
    (hself : t.database.attempts key = s.database.attempts key + 1)
    (hothers : ∀ key', key' ≠ key → t.database.attempts key' = s.database.attempts key') :
    Tallies s t := by
  refine ⟨fun kind r a => ?_⟩
  rw [hexchanges, callsWith_append, hkey]
  by_cases hk : kind.key r a = key
  · rw [hk, hself, if_pos rfl]
    omega
  · rw [hothers _ hk, if_neg fun h => hk (Option.some.inj h).symm, Nat.add_zero]

theorem SettlementKind.key_ne_hold (kind : SettlementKind) (r a r' p v : Uuid) :
    ProviderKey.hold r' p v ≠ kind.key r a := by
  cases kind <;> exact nofun

section Requests
variable {environment : Environment} {pass : Pass} {view : AllocationView}

/-- A request of a walk is sent under the key of the operation it asks about. -/
theorem Pass.Sent.asked {entry : Database × Exchange} (h : pass.Sent environment view entry) :
    pass.asks view ∧
      entry.2.idempotencyKey? = some (pass.kind.key pass.context.reservationId view.allocation.id) := by
  cases pass with
  | confirm context =>
    refine ⟨h.asks, ?_⟩
    rw [h.exchange]
    rfl
  | release context terminalStatus =>
    refine ⟨h.asks, ?_⟩
    rw [h.exchange]
    rfl

/-- A walk that asked has made its call. -/
theorem Pass.Answered.called {exchanges : List (Database × Exchange)}
    (h : pass.Answered environment exchanges view) (ha : pass.asks view) :
    ∃ entry ∈ exchanges,
      entry.2.idempotencyKey? = some (pass.kind.key pass.context.reservationId view.allocation.id) := by
  cases pass with
  | confirm context =>
    obtain ⟨-, database, hmem⟩ := h ha
    exact ⟨_, hmem, rfl⟩
  | release context terminalStatus =>
    obtain ⟨-, database, hmem⟩ := h ha
    exact ⟨_, hmem, rfl⟩

end Requests

/-- Returning runs make one call for every attempt they book. -/
abbrev Tallied {α : Type} (x : TransactionM α) : Prop := Relates Tallies x

/-! ## Routing -/

section Routing
variable {α : Type}

theorem tallied_pure (a : α) : Tallied (pure a) := tallies_composes.pure a

theorem Tallied.bind {β : Type} {x : TransactionM α} {f : α → TransactionM β} (hx : Tallied x)
    (hf : ∀ a, Tallied (f a)) : Tallied (x >>= f) := tallies_composes.bind hx hf

theorem tallied_observeAvailability (productId providerId : Uuid) (attempt : ProviderAvailabilityAttempt) :
    Tallied (observeAvailability productId providerId attempt) := by
  unfold observeAvailability
  split
  · exact Tallied.bind (tallies_composes.updateOffer _ _ _) fun _ => tallied_pure ()
  · exact tallied_pure ()

/-- A recorded call that routes a hold. -/
theorem tallied_recordExchange {exchange : Exchange}
    (hkey : ∀ (kind : SettlementKind) (r a : Uuid), exchange.idempotencyKey? ≠ some (kind.key r a)) :
    Tallied (recordExchange exchange) := by
  intro s a t h
  cases h
  exact .of_routing (e := (s.database, exchange)) rfl rfl hkey

variable {environment : Environment} {candidate : InventoryProviderModel}
  {provider : HoldProvider TransactionM}

theorem tallied_availability (hp : holdProvider environment candidate = some provider)
    (command : AvailabilityCommand) : Tallied (provider.availability command) := by
  unfold holdProvider at hp
  split at hp
  · cases hp
    exact Tallied.bind (Tallied.bind tallies_composes.readDatabase fun _ => tallied_pure _) fun _ => tallied_pure _
  · obtain ⟨-, ⟨⟩⟩ := Option.ite_none_right_eq_some.mp hp
    refine (tallied_recordExchange fun _ _ _ h => by cases h).bind fun _ => ?_
    split
    · exact tallied_pure _
    · exact Relates.throw _

theorem tallied_hold (hp : holdProvider environment candidate = some provider) {command : HoldCommand}
    {r p v : Uuid} (hkey : command.idempotencyKey = .hold r p v) : Tallied (provider.hold command) := by
  unfold holdProvider at hp
  split at hp
  · cases hp
    refine Tallied.bind (tallies_composes.updateOffer _ _ _) fun snapshot => ?_
    cases snapshot with
    | none => exact tallied_pure _
    | some _ => exact tallied_pure _
  · obtain ⟨-, ⟨⟩⟩ := Option.ite_none_right_eq_some.mp hp
    refine (tallied_recordExchange fun kind r' a h => ?_).bind fun _ => ?_
    · exact kind.key_ne_hold r' a r p v (hkey ▸ Option.some.inj h)
    · split
      · exact tallied_pure _
      · exact Relates.throw _

theorem tallied_holdAmong {router : ProviderRouter TransactionM} {productId : Uuid}
    (hobserver : router.availabilityObserver = some (observeAvailability productId))
    {command : HoldCommand} {r p v : Uuid} (hkey : command.idempotencyKey = .hold r p v)
    {providers : List (HoldProvider TransactionM)}
    (hadapters : ∀ provider ∈ providers, ∃ candidate : InventoryProviderModel,
      holdProvider environment candidate = some provider) :
    Tallied (router.holdAmong command providers) := by
  induction providers with
  | nil => exact tallied_pure none
  | cons provider rest ih =>
    obtain ⟨candidate, hp⟩ := hadapters provider List.mem_cons_self
    have hrest : Tallied (router.holdAmong command rest) :=
      ih fun provider' hmem => hadapters provider' (List.mem_cons_of_mem _ hmem)
    refine Tallied.bind (Relates.ite (fun _ => ?_) fun _ => tallied_pure false) fun skipped => ?_
    · rw [hobserver]
      exact (tallied_availability hp _).bind fun _ =>
        (tallied_observeAvailability _ _ _).bind fun _ => tallied_pure _
    · refine Relates.ite (fun _ => hrest) fun _ => (tallied_hold hp hkey).bind fun attempt => ?_
      cases attempt.outcome with
      | held => exact tallied_pure _
      | outOfStock => exact hrest
      | temporarilyUnavailable => exact hrest
      | unknown => exact Relates.throw _

theorem tallied_tryHoldSelected (productId providerId : Uuid) (quantity : ℤ) (r p v : Uuid) :
    Tallied (tryHoldSelected environment productId providerId quantity (.hold r p v)) := by
  refine Tallied.bind tallies_composes.readDatabase fun database => ?_
  refine tallied_holdAmong rfl (rfl : (HoldCommand.mk productId quantity (.hold r p v)).idempotencyKey = _)
    (?_ : ∀ provider ∈ _, ∃ candidate, holdProvider environment candidate = some provider)
  intro provider hmem
  obtain ⟨candidate, -, hp⟩ := exists_candidate hmem
  exact ⟨candidate, hp⟩

end Routing

/-! ## Walks -/

namespace Settlement
variable {ω : Type} [DecidableEq ω] {S : Settlement ω} {environment : Environment}
  {context : ProviderOperationContext} {row : AllocationRow} {s t : Session}

omit [DecidableEq ω] in
/-- The row of an attempt counts it. -/
theorem inProgress_attemptCount (S : Settlement ω) (context : ProviderOperationContext)
    (database : Database) (row : AllocationRow) :
    (S.inProgress context (database.view context.reservationId row)).attemptCount =
      database.attempts (S.kind.key context.reservationId row.allocation.id) + 1 := by
  unfold inProgress Database.attempts
  cases ho : (database.view context.reservationId row).operation S.kind with
  | none =>
    have hfind : database.operations.find? (S.kind.key context.reservationId row.allocation.id) = none := ho
    rw [hfind]
    rfl
  | some operation =>
    have hfind : database.operations.find? (S.kind.key context.reservationId row.allocation.id) =
      some operation := ho
    rw [hfind]
    rfl

variable (hsends : ∀ providerId command reply,
  (S.exchange providerId command reply).idempotencyKey? = some command.idempotencyKey)
include hsends

theorem settleExternalHold_tallies {outcome : ω} (hp : ¬ S.passes row)
    (hk : row.provider.kind = .external)
    (h : S.settleExternalHold environment context row.allocation row.provider s = .ok outcome t) :
    Tallies s t := by
  rcases settleExternalHold_cases environment s hp hk with
    ⟨failure, -, he⟩ | ⟨ha, he⟩ | ⟨ha, holdReference, operation, operations, hr, ho, hkey, hops, he⟩
  · rw [he] at h
    cases h
  · rw [he] at h
    cases h
    exact .refl _
  · rw [he] at h
    obtain ⟨hsend, recorded, hrec, rfl⟩ := attempt_ok h
    obtain ⟨hrkey, hcount⟩ := recordOutcome_ok hrec
    refine Tallies.of_call rfl ((hsends _ _ _).trans (congrArg some hkey)) ?_ fun key' hne => ?_
    · rw [← inProgress_attemptCount S context s.database row, ← ho, ← hcount]
      unfold Database.attempts
      rw [Table.find?_replace, hrkey, hkey, if_pos rfl, hops, if_pos rfl]
      rfl
    · unfold Database.attempts
      rw [Table.find?_replace, hrkey, hkey, if_neg hne, hops, if_neg hne]

end Settlement

section Walks
variable {environment : Environment}

theorem tallied_walk (walk : Walk) : Tallied (walk.run environment) :=
  tallies_composes.walk
    (fun _ hp hk _ _ _ h =>
      Settlement.settleExternalHold_tallies (fun _ _ _ => rfl) hp hk h)
    (fun _ hp hk _ _ _ h =>
      Settlement.settleExternalHold_tallies (fun _ _ _ => rfl) hp hk h)

theorem tallied_releaseReservation (reservation : ReservationModel)
    (terminalStatus : ReservationStatusModel) (context? : Option ProviderOperationContext) :
    Tallied (releaseReservation environment reservation terminalStatus context?) :=
  tallies_composes.releaseReservation fun _ hp hk _ _ _ h =>
    Settlement.settleExternalHold_tallies (fun _ _ _ => rfl) hp hk h

end Walks

/-! ## Creations -/

section Creations
variable {environment : Environment}

theorem tallied_holdItems (reservation : ReservationModel) (items : List ReservationItemModel) :
    Tallied (holdItems environment reservation items) := by
  induction items with
  | nil => exact tallied_pure true
  | cons item items ih =>
    refine (tallied_tryHoldSelected _ _ _ _ _ _).bind fun hold => ?_
    cases hold with
    | none =>
      exact Tallied.bind (tallies_composes.writeReservation _ _ _ _) fun _ =>
        (tallied_releaseReservation _ _ _).bind fun _ => tallied_pure false
    | some hold =>
      refine Tallied.bind (fun s a t h => ?_) fun _ => ih
      obtain ⟨_, _, _, -, -, -, -, -, rfl⟩ := insertAllocation_ok h
      exact .of_silent rfl rfl

theorem tallied_addWithHold (reservation : Reservation) : Tallied (addWithHold environment reservation) := by
  refine Tallied.bind (fun s models t h => ?_) fun models => tallied_holdItems _ models
  have hstored := addReservation_ok h
  exact .of_silent (by rw [hstored.tables]) hstored.exchanges

end Creations

/-! ## Runs -/

namespace System
variable (sha256 : String → String)

/-- The provider calls of a step that were committed with it. -/
def committedCalls (event : Event) (database : Database) : List (Database × Exchange) :=
  ((commit sha256 event database).map Session.exchanges).getD []

/-- The provider calls of the transactions a run committed. -/
def committedCallsOf : Database → List Event → List (Database × Exchange)
  | _, [] => []
  | database, event :: events =>
    committedCalls sha256 event database ++ committedCallsOf (step sha256 database event) events

variable {sha256}

theorem Committed.tallies {event : Event} {database : Database} {t : Session}
    (h : Committed sha256 event database t) : Tallies (.start database) t := by
  cases h with
  | found => exact .refl _
  | walked t h => exact tallies_composes.forEach (fun walk _ => tallied_walk walk) _ _ _ h
  | created userId items idempotencyKey reservation held t hrequest hnone hstart h =>
    exact tallied_addWithHold reservation _ _ _ h
  | leveled t heffect hexchanges =>
    exact .of_silent (by rw [heffect.tables]) hexchanges

/-- A step books one attempt for every call it commits. -/
theorem step_attempts {event : Event} {database : Database} (hbooked : database.Booked)
    (kind : SettlementKind) (r a : Uuid) :
    (step sha256 database event).attempts (kind.key r a) = database.attempts (kind.key r a) +
      callsWith (kind.key r a) (committedCalls sha256 event database) := by
  rw [step_eq_commit]
  unfold committedCalls
  cases hc : commit sha256 event database with
  | none => rfl
  | some t => exact (commit_cases hbooked hc).tallies.balance kind r a

/-- A run books one attempt for every call it commits. -/
theorem run_attempts {database : Database} (hsound : database.Sound) (events : List Event)
    (kind : SettlementKind) (r a : Uuid) :
    (run sha256 database events).attempts (kind.key r a) = database.attempts (kind.key r a) +
      callsWith (kind.key r a) (committedCallsOf sha256 database events) := by
  induction events generalizing database with
  | nil => rfl
  | cons event events ih =>
    have hrun := ih (step_sound sha256 hsound event)
    rw [step_attempts hsound.booked] at hrun
    unfold callsWith at hrun ⊢
    rw [committedCallsOf, List.countP_append, ← Nat.add_assoc]
    exact hrun

end System
end InventoryReservation
