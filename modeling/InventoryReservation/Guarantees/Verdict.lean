import InventoryReservation.Guarantees.Lifecycle
import InventoryReservation.Meaning.Loading

/-! # Create keeps its verdict

The answer of a retried create is not stored. It is read off the status and the release target of the
reservation found under the key, so it stays the same as long as no walk moves a reservation between
the two answers: cancelling one whose creation was turned down does, and so does confirming one when
the rejections do not match the status.
-/

namespace InventoryReservation
set_option autoImplicit false

open Relational Transactional

/-! ## Answers -/

/-- The creation of this reservation counts as turned down. -/
def ReservationModel.TurnedDown (reservation : ReservationModel) : Prop :=
  reservation.status = .failed ∨ reservation.releaseTargetStatus = some .failed

instance (reservation : ReservationModel) : Decidable reservation.TurnedDown :=
  inferInstanceAs (Decidable (_ ∨ _))

/-- The identifier of the reservation that a create returned. -/
def createdId : Except Failure Response → Option Uuid
  | .ok (.created reservation) => some reservation.id
  | _ => none

/-- The create raised `InsufficientInventoryError`. -/
def isRefused : Except Failure Response → Bool
  | .error (.insufficientInventory _) => true
  | _ => false

/-- The later answer is the earlier one, if that was a verdict. -/
structure KeepsVerdict (earlier later : Except Failure Response) : Prop where
  created : ∀ id, createdId earlier = some id → createdId later = some id
  refused : isRefused earlier = true → isRefused later = true

/-- A pass that leaves the answer to a retried create as it is. -/
def Pass.keepsVerdict (environment : Environment) (aggregate : Aggregate) : Pass → Prop
  | .confirm context => aggregate.reservation.releaseTargetStatus = some .failed ∨
    (aggregate.reservation.status = .failed ↔
      ∃ view ∈ aggregate.allocations, confirmation.gets environment context view .rejected)
  | .release _ terminalStatus => terminalStatus = .cancelled → ¬ aggregate.reservation.TurnedDown

instance (environment : Environment) (aggregate : Aggregate) (pass : Pass) :
    Decidable (pass.keepsVerdict environment aggregate) :=
  match pass with
  | .confirm context => inferInstanceAs (Decidable (_ ∨ (_ ↔ ∃ view ∈ aggregate.allocations,
      confirmation.gets environment context view .rejected)))
  | .release _ _ => inferInstanceAs (Decidable (_ → ¬ aggregate.reservation.TurnedDown))

def Event.keepsVerdict (database : Database) (event : Event) : Prop :=
  ∀ walk ∈ event.walks database, ∀ before ∈ database.aggregate? walk.reservation.id,
    walk.pass.keepsVerdict event.environment before

instance (database : Database) (event : Event) : Decidable (event.keepsVerdict database) :=
  inferInstanceAs (Decidable (∀ walk ∈ event.walks database, _))

/-! ## What is stored under a key -/

/-- The reservation stored for a request. -/
structure Database.Holds (database : Database) (userId : Uuid) (idempotencyKey fingerprint : String)
    (model : ReservationModel) : Prop where
  found : database.findByIdempotencyKey userId idempotencyKey = some model
  fingerprint : model.requestFingerprint = fingerprint

section Stored
variable {database : Database} {userId : Uuid} {idempotencyKey fingerprint : String}
  {model : ReservationModel}

theorem ReservationStatusModel.toDomain_ok {status : ReservationStatusModel}
    (h : status ∉ [.reserving, .active]) :
    ∃ status', status.toDomain = .ok status' ∧ (status' = .failed ↔ status = .failed) := by
  cases status with
  | reserving => exact absurd List.mem_cons_self h
  | active => exact absurd (by decide) h
  | pending => exact ⟨.pending, rfl, by decide⟩
  | confirming => exact ⟨.confirming, rfl, by decide⟩
  | confirmed => exact ⟨.confirmed, rfl, by decide⟩
  | releasing => exact ⟨.releasing, rfl, by decide⟩
  | cancelled => exact ⟨.cancelled, rfl, by decide⟩
  | expired => exact ⟨.expired, rfl, by decide⟩
  | failed => exact ⟨.failed, rfl, by decide⟩

theorem releaseTargetToDomain_ok {target : Option ReservationStatusModel}
    (h : target ∈ [none, some .cancelled, some .expired, some .failed]) :
    ∃ target', releaseTargetToDomain target = .ok target' ∧
      (target' = some .failed ↔ target = some .failed) := by
  cases target with
  | none => exact ⟨none, rfl, by decide⟩
  | some status =>
    have hstatus : status ∉ [.reserving, .active] := by
      intro hmem
      have hor : status = .reserving ∨ status = .active := by simpa using hmem
      rcases hor with rfl | rfl
      · exact absurd h (by decide)
      · exact absurd h (by decide)
    obtain ⟨status', hd, hiff⟩ := ReservationStatusModel.toDomain_ok hstatus
    refine ⟨some status', ?_, ?_⟩
    · rw [releaseTargetToDomain, hd]
      rfl
    · rw [Option.some.injEq, Option.some.injEq, hiff]

/-- Every stored reservation can be loaded, and says whether it was turned down. -/
theorem Database.Sound.toDomain_ok (hsound : database.Sound) (hm : model ∈ database.reservations) :
    ∃ existing, database.toDomain model = .ok existing ∧ existing.id = model.id ∧
      existing.requestFingerprint = model.requestFingerprint ∧
      (existing.status = .failed ∨ existing.releaseTargetStatus = some .failed ↔ model.TurnedDown) := by
  have haggregate := hsound.aggregates model.id ⟨model, _, _, _⟩
    (Database.aggregate?_eq_some_iff.mpr ⟨Table.find?_of_mem hm, rfl, rfl, rfl⟩)
  obtain ⟨status, hstatus, hfailed⟩ := ReservationStatusModel.toDomain_ok haggregate.status
  obtain ⟨target, htarget, htargeted⟩ := releaseTargetToDomain_ok haggregate.target
  have hitems : (database.itemsByProduct model.id).map ReservationItemModel.toDomain ≠ [] := by
    intro hnil
    have hperm : (database.itemsByProduct model.id).Perm (database.itemsOf model.id) :=
      List.perm_insertionSort _ _
    rw [List.map_eq_nil_iff.mp hnil] at hperm
    exact haggregate.items hperm.nil_eq.symm
  have hlifetime : model.createdAt < model.expiresAt := haggregate.lifetime
  unfold Database.toDomain
  rw [hstatus, htarget]
  simp only [bind, Except.bind, Reservation.construct, dif_neg hitems, dif_pos hlifetime]
  refine ⟨_, rfl, rfl, rfl, ?_⟩
  unfold ReservationModel.TurnedDown
  rw [← hfailed, ← htargeted]

/-- A lookup finds what is stored, and can load it. -/
theorem Database.Sound.loads (hsound : database.Sound)
    (hf : database.findByIdempotencyKey userId idempotencyKey = some model) :
    ∃ existing, getByIdempotencyKey userId idempotencyKey (.start database) =
        .ok (some existing) (.start database) ∧ existing.id = model.id ∧
      existing.requestFingerprint = model.requestFingerprint ∧
      (existing.status = .failed ∨ existing.releaseTargetStatus = some .failed ↔ model.TurnedDown) := by
  obtain ⟨existing, hd, hread⟩ := hsound.toDomain_ok (Database.findByIdempotencyKey_eq_some hf).1
  refine ⟨existing, ?_, hread⟩
  have hf : (Session.start database).database.findByIdempotencyKey userId idempotencyKey = some model := hf
  have hd : (Session.start database).database.toDomain model = .ok existing := hd
  rw [getByIdempotencyKey, readDatabase_bind, hf, InventoryReservation.toDomain,
    readDatabase_bind, hd]
  rfl

/-- What a retry gets from the stored reservation. -/
theorem resolveIdempotentRetry_ok {existing reservation : Reservation}
    (h : resolveIdempotentRetry existing idempotencyKey fingerprint = .ok reservation) :
    reservation = existing ∧ existing.requestFingerprint = fingerprint ∧
      ¬ (existing.status = .failed ∨ existing.releaseTargetStatus = some .failed) := by
  unfold resolveIdempotentRetry at h
  split at h
  · cases h
  · next hf =>
    split at h
    · cases h
    · next hv => exact ⟨(Except.ok.inj h).symm, not_not.mp hf, hv⟩

theorem resolveIdempotentRetry_refused {existing : Reservation} {items : List ReservationItem}
    (h : resolveIdempotentRetry existing idempotencyKey fingerprint =
      .error (.insufficientInventory items)) :
    existing.requestFingerprint = fingerprint ∧
      (existing.status = .failed ∨ existing.releaseTargetStatus = some .failed) := by
  unfold resolveIdempotentRetry at h
  split at h
  · cases h
  · next hf =>
    split at h
    · next hv => exact ⟨not_not.mp hf, hv⟩
    · cases h

end Stored

/-! ## Creates -/

section Creates
variable {sha256 : String → String} {environment : Environment} {userId : Uuid}
  {items : List ReservationItem} {idempotencyKey : String} {database : Database}

/-- The stored reservation that an answer speaks of. -/
def Database.Backs (database : Database) (sha256 : String → String) (userId : Uuid)
    (items : List ReservationItem) (idempotencyKey : String) (result : Except Failure Reservation) : Prop :=
  (∀ reservation, result = .ok reservation → ∃ model,
    database.Holds userId idempotencyKey (reservationRequestFingerprint sha256 items) model ∧
      model.id = reservation.id ∧ ¬ model.TurnedDown) ∧
  (∀ items', result = .error (.insufficientInventory items') → ∃ model,
    database.Holds userId idempotencyKey (reservationRequestFingerprint sha256 items) model ∧
      model.TurnedDown)

/-- An answer resolved from the stored reservation. -/
theorem Database.Sound.backs_resolved (hsound : database.Sound) (sha256 : String → String)
    (items : List ReservationItem) {model : ReservationModel} {existing : Reservation}
    (hf : database.findByIdempotencyKey userId idempotencyKey = some model)
    (hd : database.toDomain model = .ok existing) :
    database.Backs sha256 userId items idempotencyKey
      (resolveIdempotentRetry existing idempotencyKey (reservationRequestFingerprint sha256 items)) := by
  obtain ⟨existing', hd', hid, hfingerprint, hverdict⟩ :=
    hsound.toDomain_ok (Database.findByIdempotencyKey_eq_some hf).1
  rw [hd] at hd'
  cases hd'
  constructor
  · intro reservation hr
    obtain ⟨rfl, hsame, hnot⟩ := resolveIdempotentRetry_ok hr
    exact ⟨model, ⟨hf, hfingerprint ▸ hsame⟩, hid.symm, fun h => hnot (hverdict.mpr h)⟩
  · intro items' hr
    obtain ⟨hsame, hfailed⟩ := resolveIdempotentRetry_refused hr
    exact ⟨model, ⟨hf, hfingerprint ▸ hsame⟩, hverdict.mp hfailed⟩

/-- A new reservation is found under its key, with the verdict of its create. -/
theorem Creation.found {reservation : Reservation} {held : Bool} {s t : Session}
    (hstart : Reservation.start (creationDraft sha256 environment userId items idempotencyKey) = .ok reservation)
    (h : Creation environment reservation held s t) :
    ∃ winner, t.database.findByIdempotencyKey userId idempotencyKey = some winner ∧
      winner.id = reservation.id ∧ winner.requestFingerprint = reservationRequestFingerprint sha256 items ∧
      (winner.TurnedDown ↔ held = false) := by
  obtain ⟨hid, huser, -, hkey, hfingerprint, hstatus, htarget⟩ := Reservation.start_ok hstart
  obtain ⟨after, hafter, hcreated⟩ := h.aggregate
  have hmem := Table.mem_of_find? (Database.aggregate?_eq_some_iff.mp hafter).1
  have hrequest : (toModel environment reservation).SameRequest after.reservation := by
    cases hcreated with
    | held _ hopened => exact hopened.request
    | compensated before _ done hdone hopened hr => exact hopened.request.trans hr.request
  have hfound := h.wellFormed.findByIdempotencyKey hmem
  have huser' : after.reservation.userId = userId := hrequest.userId.trans huser
  have hkey' : after.reservation.idempotencyKey = idempotencyKey := hrequest.idempotencyKey.trans hkey
  rw [huser', hkey'] at hfound
  refine ⟨after.reservation, hfound, hrequest.id, hrequest.requestFingerprint.trans hfingerprint, ?_⟩
  cases hcreated with
  | held _ hopened =>
    unfold ReservationModel.TurnedDown
    rw [hopened.status, hopened.releaseTargetStatus, hstatus, htarget]
    decide
  | compensated before _ done hdone hopened hr =>
    refine ⟨fun _ => rfl, fun _ => ?_⟩
    rcases hr.cases with ⟨-, -, ht⟩ | ⟨-, hs, -⟩
    · exact Or.inr ht
    · exact Or.inl hs

/-- The verdict of a new reservation. -/
theorem Creation.backs {reservation : Reservation} {held : Bool} {s t : Session}
    (hstart : Reservation.start (creationDraft sha256 environment userId items idempotencyKey) =
      .ok reservation) (h : Creation environment reservation held s t) :
    t.database.Backs sha256 userId items idempotencyKey
      (ReservationService.createVerdict items reservation held) := by
  obtain ⟨winner, hfound, hid, hfingerprint, hturned⟩ := h.found hstart
  cases held with
  | true =>
    refine ⟨fun result hr => ?_, fun _ hr => nomatch hr⟩
    cases hr
    exact ⟨winner, ⟨hfound, hfingerprint⟩, hid, fun ht => nomatch hturned.mp ht⟩
  | false => exact ⟨fun _ hr => (nomatch hr), fun _ _ => ⟨winner, ⟨hfound, hfingerprint⟩, hturned.mpr rfl⟩⟩

theorem translateFailure_refused {failure : Failure} {items' : List ReservationItem}
    (h : translateFailure failure = .insufficientInventory items') :
    failure = .insufficientInventory items' := by
  unfold translateFailure at h
  split at h
  · cases h
  · exact h

/-- Other failures are no verdict. -/
theorem Database.Backs.of_noVerdict {failure : Failure} (h : NoVerdict failure) :
    database.Backs sha256 userId items idempotencyKey (.error (translateFailure failure)) :=
  ⟨fun _ hr => (nomatch hr),
    fun items' hr => absurd (translateFailure_refused (Except.error.inj hr)) (h items')⟩

/-- What a create answers is what is stored afterwards. -/
theorem Database.Sound.create_backs (hsound : database.Sound) (sha256 : String → String)
    (environment : Environment) (userId : Uuid) (items : List ReservationItem) (idempotencyKey : String) :
    (ReservationService.create sha256 environment userId items idempotencyKey database).database.Backs
      sha256 userId items idempotencyKey
      (ReservationService.create sha256 environment userId items idempotencyKey database).result := by
  unfold ReservationService.create reservationTransaction
  rcases databaseTransaction_cases (ReservationService.createTransaction sha256 environment userId items
      idempotencyKey) database with ⟨⟨reservation, held⟩, t, hr, he⟩ | ⟨failure, t, hr, he⟩
  · rw [he]
    simp only [TransactionOutcome.withResult, Except.mapError]
    rcases createTransaction_ok (s := .start database) hsound.wellFormed rfl hr with
      ⟨model, existing, hf, hd, hresolve, rfl, rfl⟩ | ⟨-, hstart, hcreation⟩
    · have hbacks := hsound.backs_resolved sha256 items hf hd
      rw [hresolve] at hbacks
      exact hbacks
    · exact hcreation.backs hstart
  · rw [he]
    simp only [TransactionOutcome.withResult, Except.mapError]
    split
    · next h => cases h
    · rcases databaseTransaction_cases (getByIdempotencyKey userId idempotencyKey) database with
        ⟨found, u, hu, hsecond⟩ | ⟨failure', u, hu, hsecond⟩
      · rw [hsecond]
        rw [getByIdempotencyKey, readDatabase_bind] at hu
        cases hf : database.findByIdempotencyKey userId idempotencyKey with
        | none =>
          have hf' : (Session.start database).database.findByIdempotencyKey userId idempotencyKey = none := hf
          rw [hf'] at hu
          obtain ⟨rfl, -⟩ := pure_ok_iff.mp hu
          exact ⟨fun _ h => (by cases h), fun _ h => (by cases h)⟩
        | some model =>
          have hf' : (Session.start database).database.findByIdempotencyKey userId idempotencyKey =
            some model := hf
          rw [hf', InventoryReservation.toDomain, readDatabase_bind] at hu
          obtain ⟨existing, hd, hu⟩ := ofExcept_bind_ok_iff.mp hu
          obtain ⟨rfl, -⟩ := pure_ok_iff.mp hu
          exact hsound.backs_resolved sha256 items hf hd
      · rw [hsecond]
        have hstops := traces_getByIdempotencyKey (Q := fun _ => True) (E := NoVerdict) userId
          idempotencyKey (.start database) fun _ _ => trivial
        exact .of_noVerdict (hstops.of_error hu).2
    · next failure' _ h =>
      have hfailure : translateFailure failure = failure' := Except.error.inj h
      rw [← hfailure]
      rcases ((createTransaction_stops (s := .start database) hsound.wellFormed rfl).of_error hr).2 with
        hno | ⟨model, existing, hf, hd, hresolve⟩
      · exact .of_noVerdict hno
      · have hbacks := hsound.backs_resolved sha256 items hf hd
        rw [hresolve] at hbacks
        refine ⟨fun _ hr => (by cases hr), fun items' hrefused => hbacks.2 items' ?_⟩
        rw [translateFailure_refused (Except.error.inj hrefused)]

/-- A create that finds the reservation of its request answers from it. -/
theorem Database.Sound.create_again (hsound : database.Sound) (environment : Environment)
    {model : ReservationModel}
    (h : database.Holds userId idempotencyKey (reservationRequestFingerprint sha256 items) model) :
    ∃ existing : Reservation, database.Loads model existing ∧
      (ReservationService.create sha256 environment userId items idempotencyKey database).result =
        if model.TurnedDown then .error (.insufficientInventory existing.items) else .ok existing := by
  obtain ⟨existing, hload, -, hfingerprint, hverdict⟩ := hsound.loads h.found
  refine ⟨existing, (getByIdempotencyKey_iff h.found).mp hload, ?_⟩
  have hsame : existing.requestFingerprint = reservationRequestFingerprint sha256 items :=
    hfingerprint.trans h.fingerprint
  have hbody : ReservationService.createTransaction sha256 environment userId items idempotencyKey
      (.start database) = if model.TurnedDown then
        .error (.insufficientInventory existing.items) (.start database)
      else .ok (existing, true) (.start database) := by
    rw [ReservationService.createTransaction, bind_of_ok hload]
    dsimp only
    rw [resolveIdempotentRetry, if_neg (not_not.mpr hsame)]
    by_cases ht : model.TurnedDown
    · rw [if_pos (hverdict.mpr ht), if_pos ht]
      rfl
    · rw [if_neg (fun hor => ht (hverdict.mp hor)), if_neg ht]
      rfl
  unfold ReservationService.create reservationTransaction databaseTransaction
  rw [hbody]
  by_cases ht : model.TurnedDown
  · rw [if_pos ht, if_pos ht]
    rfl
  · rw [if_neg ht, if_neg ht]
    rfl

end Creates

/-! ## Walks -/

/-- A pending reservation has no release target. -/
def Aggregate.PendingUntargeted (aggregate : Aggregate) : Prop :=
  aggregate.reservation.status = .pending → aggregate.reservation.releaseTargetStatus = none

section Walks
variable {event : Event} {database : Database} {walk : Walk} {before after : Aggregate}

/-- After a releasing walk the target decides. -/
theorem Aggregate.Released.turnedDown_iff {environment : Environment} {context : ProviderOperationContext}
    {terminalStatus : ReservationStatusModel}
    (h : before.Released environment context terminalStatus after) :
    after.reservation.TurnedDown ↔ terminalStatus = .failed := by
  unfold ReservationModel.TurnedDown
  rcases h.cases with ⟨-, hs, ht⟩ | ⟨-, hs, ht⟩
  · rw [hs, ht, Option.some.injEq]
    exact ⟨fun hor => hor.resolve_left (by decide), Or.inr⟩
  · rw [hs, ht]
    exact ⟨fun hor => hor.resolve_right nofun, Or.inl⟩

/-- After a confirming walk the rejections and the old target decide. -/
theorem Aggregate.Confirmed.turnedDown_iff {environment : Environment} {context : ProviderOperationContext}
    (h : before.Confirmed environment context after) :
    after.reservation.TurnedDown ↔
      (∃ view ∈ before.allocations, confirmation.gets environment context view .rejected) ∨
        before.reservation.releaseTargetStatus = some .failed := by
  have hfailed : after.reservation.status = .failed ↔
      ∃ view ∈ before.allocations, confirmation.gets environment context view .rejected := by
    rw [← confirmation_flags_rejected]
    rcases h.cases with ⟨hf, hs⟩ | ⟨hf, hs⟩ | ⟨hf, hs⟩
    · rw [hs, hf]
      exact ⟨fun _ => rfl, fun _ => rfl⟩
    · rw [hs, hf]
      exact ⟨nofun, nofun⟩
    · rw [hs, hf]
      exact ⟨nofun, nofun⟩
  unfold ReservationModel.TurnedDown
  rw [hfailed, h.releaseTargetStatus]

/-- A walk that keeps the verdict keeps the verdict. -/
theorem Event.keepsVerdict.turnedDown_iff (hok : event.keepsVerdict database)
    (hwalk : walk ∈ event.walks database) (hb : database.aggregate? walk.reservation.id = some before)
    (hpending : before.PendingUntargeted) (happlies : walk.pass.Applies event.environment before after) :
    after.reservation.TurnedDown ↔ before.reservation.TurnedDown := by
  have hkeeps := hok walk hwalk before hb
  obtain ⟨hoccasion, hstored⟩ := event.occasion hwalk
  have hreservation : before.reservation = walk.reservation :=
    Option.some.inj ((Database.aggregate?_eq_some_iff.mp hb).1.symm.trans hstored)
  obtain ⟨reservation, pass⟩ := walk
  cases pass with
  | confirm context =>
    rw [Aggregate.Confirmed.turnedDown_iff happlies]
    unfold ReservationModel.TurnedDown
    rcases hkeeps with htarget | hrejected
    · exact ⟨fun _ => Or.inr htarget, fun _ => Or.inr htarget⟩
    · rw [hrejected]
  | release context terminalStatus =>
    rw [Aggregate.Released.turnedDown_iff happlies]
    have hreservation : before.reservation = reservation := hreservation
    cases hoccasion with
    | cancel _ hrequest hcancelled hconfirmed hconfirming =>
      exact ⟨nofun, fun ht => absurd ht (hkeeps rfl)⟩
    | expire _ limit hrequest hs =>
      refine ⟨nofun, fun ht => ?_⟩
      have hs : before.reservation.status = .pending := hreservation ▸ hs
      unfold ReservationModel.TurnedDown at ht
      rw [hs, hpending hs] at ht
      exact absurd ht (by decide)
    | resumeRelease _ limit maxAttempts retryBaseDelay _ hrequest hreleasing htarget hterminal =>
      unfold ReservationModel.TurnedDown
      rw [hreservation, hreleasing, htarget, Option.some.injEq]
      exact ⟨Or.inr, fun hor => hor.resolve_left nofun⟩

end Walks

/-! ## Runs -/

namespace System
variable {sha256 : String → String}

theorem maintains_pendingUntargeted :
    Maintains sha256 (fun _ _ => True) Aggregate.PendingUntargeted :=
  maintains_pending fun hstart h => by
    rw [h.releaseTargetStatus, (Reservation.start_ok hstart).2.2.2.2.2.2]
    rfl

/-- The reservation of a request, and whether it was turned down, after one step. -/
theorem step_holds {database : Database} {event : Event} (hsound : database.Sound)
    (hpending : ∀ r aggregate, database.aggregate? r = some aggregate → aggregate.PendingUntargeted)
    (hok : event.keepsVerdict database) {userId : Uuid} {idempotencyKey fingerprint : String}
    {model : ReservationModel} (h : database.Holds userId idempotencyKey fingerprint model) :
    ∃ model', (step sha256 database event).Holds userId idempotencyKey fingerprint model' ∧
      model'.id = model.id ∧ (model'.TurnedDown ↔ model.TurnedDown) := by
  obtain ⟨hmem, huser, hkey⟩ := Database.findByIdempotencyKey_eq_some h.found
  have hafter := step_sound sha256 hsound event
  -- whatever the step made of the row, it is still the one found under the key
  have hrow : ∀ aggregate, (step sha256 database event).aggregate? model.id = some aggregate →
      model.SameRequest aggregate.reservation →
      (step sha256 database event).Holds userId idempotencyKey fingerprint aggregate.reservation := by
    intro aggregate ha hsame
    have hfound := hafter.wellFormed.findByIdempotencyKey
      (Table.mem_of_find? (Database.aggregate?_eq_some_iff.mp ha).1)
    rw [hsame.userId, hsame.idempotencyKey, huser, hkey] at hfound
    exact ⟨hfound, hsame.requestFingerprint.trans h.fingerprint⟩
  obtain ⟨before, hb, hreservation⟩ : ∃ before, database.aggregate? model.id = some before ∧
      before.reservation = model :=
    ⟨⟨model, _, _, _⟩,
      Database.aggregate?_eq_some_iff.mpr ⟨Table.find?_of_mem hmem, rfl, rfl, rfl⟩, rfl⟩
  have hchange := (step_transition sha256 hsound event).changes model.id
  rw [hb] at hchange
  generalize ha : (step sha256 database event).aggregate? model.id = after? at hchange
  cases hchange with
  | kept =>
    have hholds := hrow before ha (hreservation ▸ .refl _)
    exact ⟨before.reservation, hholds, by rw [hreservation], by rw [hreservation]⟩
  | walked walk _ after hwalk hreservation' hid happlies hanswered =>
    refine ⟨after.reservation, hrow after ha (hreservation ▸ happlies.request), ?_, ?_⟩
    · rw [happlies.request.id, hreservation]
    · rw [hok.turnedDown_iff hwalk (hid ▸ hb) (hpending _ _ hb) happlies, hreservation]

/-- The reservation of a request, and whether it was turned down, over a run. -/
theorem run_holds {database : Database} {events between : List Event} (hinit : database.Initial)
    (hbetween : Runs.Admissible (step sha256) (fun database event => event.keepsVerdict database)
      (run sha256 database events) between)
    {userId : Uuid} {idempotencyKey fingerprint : String} {model : ReservationModel}
    (h : (run sha256 database events).Holds userId idempotencyKey fingerprint model) :
    ∃ model', (run sha256 (run sha256 database events) between).Holds userId idempotencyKey fingerprint
        model' ∧ model'.id = model.id ∧ (model'.TurnedDown ↔ model.TurnedDown) := by
  have hrun := Runs.run_invariant (I := fun database => (database.Sound ∧
      ∀ r aggregate, database.aggregate? r = some aggregate → aggregate.PendingUntargeted) ∧
      ∃ model', database.Holds userId idempotencyKey fingerprint model' ∧ model'.id = model.id ∧
        (model'.TurnedDown ↔ model.TurnedDown))
    (fun database event hd hok => by
      obtain ⟨⟨hsound, hpending⟩, model', hm, hid, hv⟩ := hd
      refine ⟨⟨step_sound sha256 hsound event, maintains_pendingUntargeted.step hsound hpending trivial⟩, ?_⟩
      obtain ⟨model'', hm', hid', hv'⟩ := step_holds hsound hpending hok hm
      exact ⟨model'', hm', hid'.trans hid, hv'.trans hv⟩)
    ⟨⟨run_sound sha256 hinit events,
      maintains_pendingUntargeted.run hinit (.of_all (fun _ _ => trivial) database events)⟩,
      model, h, rfl, Iff.rfl⟩ hbetween
  exact hrun.2

theorem createdId_eq_some {result : Except Failure Reservation} {id : Uuid} :
    createdId (result.map .created) = some id ↔ ∃ reservation, result = .ok reservation ∧ reservation.id = id := by
  cases result with
  | ok reservation => simp [createdId, Except.map]
  | error failure => simp [createdId, Except.map]

theorem isRefused_iff {result : Except Failure Reservation} :
    isRefused (result.map .created) = true ↔ ∃ items, result = .error (.insufficientInventory items) := by
  cases result with
  | ok reservation => simp [isRefused, Except.map]
  | error failure => cases failure <;> simp [isRefused, Except.map]

/-- As long as no walk moves a reservation between the two answers, every later create with the same
key and items gets the verdict of an earlier one. -/
theorem run_create_keeps_verdict {database : Database} {events between : List Event} {first later : Event}
    {userId : Uuid} {items : List ReservationItem} {idempotencyKey : String} (hinit : database.Initial)
    (hfirst : first.request = .create userId items idempotencyKey)
    (hlater : later.request = .create userId items idempotencyKey)
    (hadmissible : Runs.Admissible (step sha256) (fun database event => event.keepsVerdict database)
      database (events ++ first :: between)) :
    KeepsVerdict (execute sha256 first (run sha256 database events)).result
      (execute sha256 later (run sha256 database (events ++ first :: between))).result := by
  obtain ⟨environment, request⟩ := first
  obtain ⟨environment', request'⟩ := later
  cases hfirst
  cases hlater
  have hsplit : events ++ ⟨environment, .create userId items idempotencyKey⟩ :: between =
      (events ++ [⟨environment, .create userId items idempotencyKey⟩]) ++ between := by simp
  rw [hsplit] at hadmissible ⊢
  obtain ⟨-, hbetween⟩ := Runs.Admissible.append_iff.mp hadmissible
  have hstored : run sha256 database (events ++ [⟨environment, .create userId items idempotencyKey⟩]) =
      (ReservationService.create sha256 environment userId items idempotencyKey
        (run sha256 database events)).database := Runs.run_append _ _ _ _
  have hbacks := (run_sound sha256 hinit events).create_backs sha256 environment userId items idempotencyKey
  have hsound := run_sound sha256 hinit
    ((events ++ [⟨environment, .create userId items idempotencyKey⟩]) ++ between)
  have hrun : run sha256 database
        ((events ++ [⟨environment, .create userId items idempotencyKey⟩]) ++ between) =
      run sha256 (run sha256 database
        (events ++ [⟨environment, .create userId items idempotencyKey⟩])) between :=
    Runs.run_append _ _ _ _
  rw [← hstored] at hbacks
  constructor
  · intro id hcreated
    obtain ⟨reservation, hr, rfl⟩ := createdId_eq_some.mp hcreated
    obtain ⟨model, hm, hid, hnot⟩ := hbacks.1 reservation hr
    obtain ⟨model', hm', hid', hv⟩ := run_holds hinit hbetween hm
    rw [← hrun] at hm'
    obtain ⟨existing, he, hresult⟩ := hsound.create_again environment' hm'
    rw [if_neg (fun ht => hnot (hv.mp ht))] at hresult
    exact createdId_eq_some.mpr ⟨existing, hresult, he.id.trans (hid'.trans hid)⟩
  · intro hrefused
    obtain ⟨items', hr⟩ := isRefused_iff.mp hrefused
    obtain ⟨model, hm, hturned⟩ := hbacks.2 items' hr
    obtain ⟨model', hm', -, hv⟩ := run_holds hinit hbetween hm
    rw [← hrun] at hm'
    obtain ⟨existing, -, hresult⟩ := hsound.create_again environment' hm'
    rw [if_pos (hv.mpr hturned)] at hresult
    exact isRefused_iff.mpr ⟨existing.items, hresult⟩

/-- A create is retried after its reservation has been confirmed. -/
theorem run_create_keeps_verdict_confirmed :
    KeepsVerdict
      (execute Deployment.sha256 (Deployment.create 1000 100 0 [Deployment.line 1 10 2] "a")
        (run Deployment.sha256 Deployment.database [])).result
      (execute Deployment.sha256 (Deployment.create 1200 300 20 [Deployment.line 1 10 2] "a")
        (run Deployment.sha256 Deployment.database
          ([] ++ Deployment.create 1000 100 0 [Deployment.line 1 10 2] "a" ::
            [Deployment.confirm 1100 100 10]))).result :=
  run_create_keeps_verdict Deployment.initial rfl rfl (by decide +kernel)

/-- Cancelling a reservation whose creation was turned down turns the verdict around. -/
theorem cancel_turns_verdict :
    ¬ ∀ (sha256 : String → String) (database : Database) (events between : List Event)
      (first later : Event) (userId : Uuid) (items : List ReservationItem) (idempotencyKey : String),
      database.Initial → first.request = .create userId items idempotencyKey →
        later.request = .create userId items idempotencyKey →
          KeepsVerdict (execute sha256 first (run sha256 database events)).result
            (execute sha256 later (run sha256 database (events ++ first :: between))).result := by
  intro h
  refine absurd (h Deployment.sha256 Deployment.database [] [Deployment.cancel 1100 100 10]
    (Deployment.outOfStock (Deployment.create 1000 100 0 [Deployment.line 2 20 1] "a"))
    (Deployment.create 1200 300 20 [Deployment.line 2 20 1] "a") 7 [Deployment.line 2 20 1] "a"
    Deployment.initial rfl rfl).refused ?_
  decide +kernel

end System
end InventoryReservation
