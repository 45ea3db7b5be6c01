import InventoryReservation.Controller.Reservation
import InventoryReservation.Guarantees.RepeatedRequests
import InventoryReservation.Guarantees.Verdict
import InventoryReservation.Meaning.Persistence
import InventoryReservation.Meaning.Refusals

/-! # What customers are answered

Whether the API refuses a request, and how, can be read off the stored rows beforehand
(`ReservationCall.refusal?`). A refusal changes nothing and asks no provider. Every other request succeeds,
creates a reservation its inventory does not suffice for, or fails with status 500 and leaves the database as
it was.
-/

namespace InventoryReservation
set_option autoImplicit false

open Relational Transactional

/-! ## The statement -/

namespace ReservationCall

/-- How the stored rows refuse a request, when they do. -/
def refusal? (sha256 : String → String) (database : Database) : ReservationCall → Option HttpResponse
  | createReservation request userId idempotencyKey =>
    (database.findByIdempotencyKey userId idempotencyKey.value).bind fun reservation =>
      if reservation.requestFingerprint ≠ reservationRequestFingerprint sha256 request.toItems then
        some (handleIdempotencyConflict reservation.id)
      else if reservation.TurnedDown then some handleInsufficientInventory else none
  | getReservation reservationId userId =>
    match database.findOwned reservationId userId with
    | none => some (handleReservationNotFound reservationId)
    | some _ => none
  | confirmReservation reservationId userId =>
    match database.findOwned reservationId userId with
    | none => some (handleReservationNotFound reservationId)
    | some reservation =>
      if reservation.status = .cancelled then some (handleReservationNotConfirmable reservationId) else none
  | cancelReservation reservationId userId =>
    match database.findOwned reservationId userId with
    | none => some (handleReservationNotFound reservationId)
    | some reservation =>
      if reservation.status = .confirmed then some (handleReservationNotCancellable reservationId)
      else if reservation.status = .confirming then some (handleReconciliationRequired reservationId)
      else none

/-- The call creates a reservation under a key that holds none. -/
def Creates (database : Database) : ReservationCall → Prop
  | createReservation _ userId idempotencyKey =>
    database.findByIdempotencyKey userId idempotencyKey.value = none
  | _ => False

/-- The call only reads. -/
def Reads : ReservationCall → Prop
  | getReservation _ _ => True
  | _ => False

/-- How a request that is not refused is answered. -/
inductive Accepted (sha256 : String → String) (environment : Environment) (call : ReservationCall)
    (database : Database) : Prop
  | succeeded (body : ReservationResponse)
      (hresponse : call.response sha256 environment database = ⟨call.successStatus, .reservation body⟩)
      (howner : body.userId = call.userId)
  | insufficient (hresponse : call.response sha256 environment database = handleInsufficientInventory)
      (hcreates : call.Creates database)
  | failed (hresponse : call.response sha256 environment database = ⟨500, .internalServerError⟩)
      (hreads : ¬ call.Reads)
      (hkept : (call.serve sha256 environment database).database = database)

structure Answers (sha256 : String → String) (environment : Environment) (call : ReservationCall)
    (database : Database) : Prop where
  refused : ∀ response, call.refusal? sha256 database = some response →
    call.response sha256 environment database = response ∧
      (call.serve sha256 environment database).database = database ∧
      (call.serve sha256 environment database).exchanges = []
  accepted : call.refusal? sha256 database = none → call.Accepted sha256 environment database

end ReservationCall

/-! ## Handlers -/

theorem EndpointError.handle_service {failure : Failure} (h : failure.isHandled = false) :
    (EndpointError.service failure).handle = ⟨500, .internalServerError⟩ := by
  cases failure <;> first | rfl | cases h

theorem translateFailure_isHandled (failure : Failure) :
    (translateFailure failure).isHandled = failure.isHandled := by
  unfold translateFailure
  split
  · next h =>
    rw [h]
    rfl
  · rfl

section Outcomes
variable {α : Type} {body : TransactionM α} {database : Database} {t : Session}
  {answer : α → Except EndpointError ReservationResponse}

theorem serve_of_ok {result : α} (h : body (.start database) = .ok result t) :
    (reservationTransaction body database).serve answer = ⟨answer result, t.database, t.exchanges⟩ := by
  rw [reservationTransaction_of_ok h]
  rfl

/-- A transaction that raised leaves the database, and its error goes to a handler. -/
theorem serve_of_error {failure : Failure} (h : body (.start database) = .error failure t) :
    (reservationTransaction body database).serve answer =
      ⟨.error (.service (translateFailure failure)), database, t.exchanges⟩ := by
  rw [reservationTransaction_of_error h]
  rfl

end Outcomes

/-! ## Answers -/

namespace ReservationCall
variable {sha256 : String → String} {environment : Environment} {call : ReservationCall} {database : Database}

/-- A request refused with an error that was raised before anything was written or asked. -/
theorem Answers.of_refused (error : EndpointError)
    (hserve : call.serve sha256 environment database = ⟨.error error, database, []⟩)
    (hrefusal : call.refusal? sha256 database = some error.handle) :
    call.Answers sha256 environment database where
  refused response h := by
    obtain rfl := Option.some.inj (hrefusal.symm.trans h)
    rw [ReservationCall.response, hserve]
    exact ⟨rfl, rfl, rfl⟩
  accepted h := by
    rw [hrefusal] at h
    cases h

theorem Answers.of_accepted (hrefusal : call.refusal? sha256 database = none)
    (h : call.Accepted sha256 environment database) : call.Answers sha256 environment database where
  refused response hr := by
    rw [hrefusal] at hr
    cases hr
  accepted _ := h

theorem Accepted.of_ok (body : ReservationResponse)
    (hserve : (call.serve sha256 environment database).answer = .ok body)
    (howner : body.userId = call.userId) : call.Accepted sha256 environment database := by
  refine .succeeded body ?_ howner
  rw [response, hserve]
  rfl

theorem Accepted.of_failure (failure : Failure)
    (hserve : (call.serve sha256 environment database).answer = .error (.service failure))
    (hplain : failure.isHandled = false) (hreads : ¬ call.Reads)
    (hkept : (call.serve sha256 environment database).database = database) :
    call.Accepted sha256 environment database := by
  refine .failed ?_ hreads hkept
  rw [response, hserve]
  exact EndpointError.handle_service hplain

end ReservationCall

/-! ## Reservations of a customer -/

section Owned
variable {database : Database} {reservationId userId : Uuid} {model : ReservationModel}

/-- A stored reservation can be loaded. -/
theorem Database.Sound.getReservation_ok (hsound : database.Sound)
    (hf : database.reservations.find? reservationId = some model) :
    ∃ reservation, database.Loads model reservation ∧
      getReservation reservationId (.start database) = .ok (some reservation) (.start database) := by
  obtain ⟨reservation, hd, -⟩ := hsound.toDomain_ok (Table.mem_of_find? hf)
  have hloads := Database.toDomain_eq_ok_iff.mp hd
  exact ⟨reservation, hloads, (getReservation_iff hf).mpr hloads⟩

/-- What is read of a stored reservation is what its rows describe. -/
theorem getReservation_loads {s t : Session} {result : Option Reservation}
    (hf : s.database.reservations.find? reservationId = some model)
    (h : getReservation reservationId s = .ok result t) :
    ∃ reservation, result = some reservation ∧ s.database.Loads model reservation := by
  rw [getReservation, readDatabase_bind, hf, toDomain, readDatabase_bind] at h
  obtain ⟨reservation, hd, h⟩ := ofExcept_bind_ok_iff.mp h
  obtain ⟨rfl, -⟩ := pure_ok_iff.mp h
  exact ⟨reservation, rfl, Database.toDomain_eq_ok_iff.mp hd⟩

/-- Without a reservation of this user under the id, there is none or it is another user's. -/
theorem Database.findOwned_eq_none (h : database.findOwned reservationId userId = none) :
    database.reservations.find? reservationId = none ∨
      ∃ other, database.reservations.find? reservationId = some other ∧ other.userId ≠ userId := by
  cases hf : database.reservations.find? reservationId with
  | none => exact Or.inl rfl
  | some other =>
    refine Or.inr ⟨other, rfl, fun hu => ?_⟩
    rw [findOwned, hf] at h
    exact absurd (Option.filter_eq_none_iff.mp h other rfl) (by simpa using hu)

/-- Reading a reservation that is not the user's. -/
theorem Database.Sound.requireOwned_none (hsound : database.Sound)
    (h : database.findOwned reservationId userId = none) :
    ∃ found, getReservation reservationId (.start database) = .ok found (.start database) ∧
      requireOwned reservationId userId found = .error (.reservationNotFound reservationId) := by
  rcases Database.findOwned_eq_none h with hf | ⟨other, hf, hother⟩
  · refine ⟨none, ?_, rfl⟩
    have hf : (Session.start database).database.reservations.find? reservationId = none := hf
    rw [getReservation, readDatabase_bind, hf]
    rfl
  · obtain ⟨reservation, hloads, hread⟩ := hsound.getReservation_ok hf
    refine ⟨some reservation, hread, if_pos ?_⟩
    rw [hloads.userId]
    exact hother

theorem Database.Sound.requireOwned_some (hsound : database.Sound)
    (h : database.findOwned reservationId userId = some model) :
    ∃ reservation, getReservation reservationId (.start database) =
        .ok (some reservation) (.start database) ∧ reservation.userId = userId ∧
      requireOwned reservationId userId (some reservation) = .ok (.fromDomain reservation) := by
  obtain ⟨hf, -, hu⟩ := Database.findOwned_eq_some h
  obtain ⟨reservation, hloads, hread⟩ := hsound.getReservation_ok hf
  have howner : reservation.userId = userId := hloads.userId.trans hu
  exact ⟨reservation, hread, howner, if_neg (not_not.mpr howner)⟩

end Owned

/-! ## Reading -/

namespace ReservationCall
variable {sha256 : String → String} {environment : Environment} {database : Database}

theorem getReservation_answers (hsound : database.Sound) (reservationId userId : Uuid) :
    (getReservation reservationId userId).Answers sha256 environment database := by
  cases howned : database.findOwned reservationId userId with
  | none =>
    obtain ⟨found, hread, hrequire⟩ := hsound.requireOwned_none howned
    have hserve : (getReservation reservationId userId).serve sha256 environment database =
        ⟨requireOwned reservationId userId found, database, []⟩ := serve_of_ok hread
    rw [hrequire] at hserve
    refine .of_refused _ hserve ?_
    rw [refusal?, howned]
    rfl
  | some model =>
    obtain ⟨reservation, hread, howner, hrequire⟩ := hsound.requireOwned_some howned
    have hserve : (getReservation reservationId userId).serve sha256 environment database =
        ⟨requireOwned reservationId userId (some reservation), database, []⟩ := serve_of_ok hread
    rw [hrequire] at hserve
    refine .of_accepted ?_ (.of_ok _ (congrArg Served.answer hserve) howner)
    rw [refusal?, howned]

end ReservationCall

/-! ## Confirming and cancelling -/

namespace SettlementKind
variable {kind : SettlementKind} {sha256 : String → String} {environment : Environment} {database : Database}
  {reservationId userId : Uuid} {model : ReservationModel}

/-- The endpoint behind which the request is made. -/
def endpoint : SettlementKind → Uuid → Uuid → ReservationCall
  | confirm => .confirmReservation
  | release => .cancelReservation

theorem endpoint_serve (sha256 : String → String) : (kind.endpoint reservationId userId).serve sha256 environment database =
    (reservationTransaction (kind.call environment reservationId userId) database).serve
      (requireReservation reservationId) := by
  cases kind <;> rfl

theorem endpoint_userId : (kind.endpoint reservationId userId).userId = userId := by
  cases kind <;> rfl

theorem endpoint_reads : ¬ (kind.endpoint reservationId userId).Reads := by
  cases kind <;> exact id

theorem call_unowned (howned : database.findOwned reservationId userId = none) :
    kind.call environment reservationId userId (.start database) = .ok none (.start database) := by
  have howned : (Session.start database).database.findOwned reservationId userId = none := howned
  cases kind with
  | confirm =>
    rw [call, InventoryReservation.confirm, readDatabase_bind, howned]
    rfl
  | release =>
    rw [call, cancel, readDatabase_bind, howned]
    rfl

/-- A call that returned answers with the reservation as its rows then describe it. -/
theorem call_loads (hsound : database.Sound) (howned : database.findOwned reservationId userId = some model)
    {result : Option Reservation} {t : Session}
    (h : kind.call environment reservationId userId (.start database) = .ok result t) :
    ∃ model' reservation, t.database.reservations.find? reservationId = some model' ∧
      model.SameRequest model' ∧ result = some reservation ∧ t.database.Loads model' reservation := by
  obtain ⟨hf, -, -⟩ := Database.findOwned_eq_some howned
  have hloaded : getReservation reservationId t = .ok result t := by
    cases (call_ok_iff (s := .start database) hsound.booked).mp h with
    | absent ho => cases howned.symm.trans ho
    | final reservation _ ho hstatus hloaded => exact hloaded
    | walked reservation _ _ ho hstatus hallowed hwalk hloaded => exact hloaded
  -- The digest plays no part in these requests.
  have hstep : System.step id database ⟨environment, kind.request reservationId userId⟩ = t.database := by
    cases kind with
    | confirm => exact congrArg TransactionOutcome.database (reservationTransaction_of_ok h)
    | release => exact congrArg TransactionOutcome.database (reservationTransaction_of_ok h)
  have hbefore : database.aggregate? reservationId = some ⟨model, _, _, _⟩ :=
    Database.aggregate?_eq_some_iff.mpr ⟨hf, rfl, rfl, rfl⟩
  obtain ⟨after, hafter, hpersists⟩ := System.step_persists id hsound
    ⟨environment, kind.request reservationId userId⟩ hbefore
  rw [hstep] at hafter
  have hfound := (Database.aggregate?_eq_some_iff.mp hafter).1
  obtain ⟨reservation, hresult, hloads⟩ := getReservation_loads hfound hloaded
  exact ⟨after.reservation, reservation, hfound, hpersists.request, hresult, hloads⟩

/-- A call its status does not refuse raises no error that has a handler. -/
theorem call_isHandled (howned : database.findOwned reservationId userId = some model)
    (hallowed : ¬ kind.refuses model.status) {failure : Failure} {t : Session}
    (h : kind.call environment reservationId userId (.start database) = .error failure t) :
    failure.isHandled = false := by
  have howned : (Session.start database).database.findOwned reservationId userId = some model := howned
  cases kind with
  | confirm =>
    have hallowed : ¬ model.status = .cancelled := hallowed
    rw [call, InventoryReservation.confirm, readDatabase_bind, howned] at h
    dsimp only at h
    rw [if_neg hallowed] at h
    refine Plain.isHandled (Keeps.ite (fun _ => ?_) fun _ => plain_confirmReservation _ _ _) h
    exact Keeps.bind (plain_ensureOrder _ _) fun _ => plain_getReservation _
  | release =>
    obtain ⟨hconfirmed, hconfirming⟩ := not_or.mp hallowed
    rw [call, cancel, readDatabase_bind, howned] at h
    dsimp only at h
    rw [if_neg hconfirmed, if_neg hconfirming] at h
    refine Plain.isHandled (Keeps.ite (fun _ => plain_getReservation _) fun _ => ?_) h
    exact Keeps.bind (plain_releaseReservation _ _ _ _) fun _ => plain_getReservation _

/-- A call that is not refused is accepted. -/
theorem endpoint_accepted (hsound : database.Sound)
    (howned : database.findOwned reservationId userId = some model) (hallowed : ¬ kind.refuses model.status) :
    (kind.endpoint reservationId userId).Accepted sha256 environment database := by
  cases hr : kind.call environment reservationId userId (.start database) with
  | ok result t =>
    obtain ⟨model', reservation, -, hrequest, rfl, hloads⟩ := call_loads hsound howned hr
    have hserve := (endpoint_serve sha256).trans (serve_of_ok hr)
    refine .of_ok _ (congrArg Served.answer hserve) ?_
    rw [endpoint_userId]
    exact hloads.userId.trans (hrequest.userId.trans (Database.findOwned_eq_some howned).2.2)
  | error failure t =>
    have hserve := (endpoint_serve sha256).trans (serve_of_error hr)
    refine .of_failure _ (congrArg Served.answer hserve) ?_ endpoint_reads (congrArg Served.database hserve)
    rw [translateFailure_isHandled]
    exact call_isHandled howned hallowed hr

theorem endpoint_answers (kind : SettlementKind) (hsound : database.Sound) :
    (kind.endpoint reservationId userId).Answers sha256 environment database := by
  cases howned : database.findOwned reservationId userId with
  | none =>
    refine .of_refused _ ((endpoint_serve sha256).trans (serve_of_ok (call_unowned howned))) ?_
    cases kind with
    | confirm =>
      simp only [endpoint, ReservationCall.refusal?, howned]
      rfl
    | release =>
      simp only [endpoint, ReservationCall.refusal?, howned]
      rfl
  | some model =>
    have hstart : (Session.start database).database.findOwned reservationId userId = some model := howned
    cases kind with
    | confirm =>
      by_cases hc : model.status = .cancelled
      · have hcall : confirm.call environment reservationId userId (.start database) =
            .error (.reservationNotConfirmable reservationId) (.start database) := by
          rw [call, InventoryReservation.confirm, readDatabase_bind, hstart]
          simp only [hc, reduceCtorEq, if_false, if_true]
          rfl
        refine .of_refused _ ((endpoint_serve sha256).trans (serve_of_error hcall)) ?_
        simp only [endpoint, ReservationCall.refusal?, howned, if_pos hc]
        rfl
      · refine .of_accepted ?_ (endpoint_accepted hsound howned hc)
        simp only [endpoint, ReservationCall.refusal?, howned, if_neg hc]
    | release =>
      by_cases hc : model.status = .confirmed
      · have hcall : release.call environment reservationId userId (.start database) =
            .error (.reservationNotCancellable reservationId) (.start database) := by
          rw [call, cancel, readDatabase_bind, hstart]
          simp only [hc, reduceCtorEq, if_false, if_true]
          rfl
        refine .of_refused _ ((endpoint_serve sha256).trans (serve_of_error hcall)) ?_
        simp only [endpoint, ReservationCall.refusal?, howned, if_pos hc]
        rfl
      · by_cases hc' : model.status = .confirming
        · have hcall : release.call environment reservationId userId (.start database) =
              .error (.reservationReconciliationRequired reservationId) (.start database) := by
            rw [call, cancel, readDatabase_bind, hstart]
            simp only [hc', reduceCtorEq, if_false, if_true]
            rfl
          refine .of_refused _ ((endpoint_serve sha256).trans (serve_of_error hcall)) ?_
          simp only [endpoint, ReservationCall.refusal?, howned, if_neg hc, if_pos hc']
          rfl
        · refine .of_accepted ?_ (endpoint_accepted hsound howned (not_or.mpr ⟨hc, hc'⟩))
          simp only [endpoint, ReservationCall.refusal?, howned, if_neg hc, if_neg hc']

end SettlementKind

/-! ## Creating -/

namespace ReservationService
variable {sha256 : String → String} {environment : Environment} {userId : Uuid}
  {items : List ReservationItem} {idempotencyKey : String} {database : Database}

/-- A create that finds its key taken answers from the reservation there, and does nothing else. -/
theorem create_of_found (sha256 : String → String) (environment : Environment)
    (items : List ReservationItem) (hsound : database.Sound) {model : ReservationModel}
    (hf : database.findByIdempotencyKey userId idempotencyKey = some model) :
    ∃ existing, database.Loads model existing ∧
      create sha256 environment userId items idempotencyKey database =
        ⟨resolveIdempotentRetry existing idempotencyKey (reservationRequestFingerprint sha256 items),
          database, []⟩ := by
  obtain ⟨existing, hload, -⟩ := hsound.loads hf
  refine ⟨existing, (getByIdempotencyKey_iff hf).mp hload, ?_⟩
  unfold create
  cases hr : resolveIdempotentRetry existing idempotencyKey (reservationRequestFingerprint sha256 items) with
  | ok reservation =>
    have hbody : createTransaction sha256 environment userId items idempotencyKey (.start database) =
        .ok (reservation, true) (.start database) := by
      rw [createTransaction, bind_of_ok hload]
      dsimp only
      rw [hr]
      rfl
    rw [reservationTransaction_of_ok hbody]
    rfl
  | error failure =>
    have hbody : createTransaction sha256 environment userId items idempotencyKey (.start database) =
        .error failure (.start database) := by
      rw [createTransaction, bind_of_ok hload]
      dsimp only
      rw [hr]
      rfl
    rw [reservationTransaction_of_error hbody]
    unfold resolveIdempotentRetry at hr
    repeat' split at hr
    all_goals cases hr
    all_goals rfl

theorem createTransaction_isHandled (hnone : database.findByIdempotencyKey userId idempotencyKey = none)
    {failure : Failure} {t : Session}
    (h : createTransaction sha256 environment userId items idempotencyKey (.start database) =
      .error failure t) : failure.isHandled = false := by
  rw [createTransaction, bind_of_ok (getByIdempotencyKey_none hnone)] at h
  refine Plain.isHandled (Keeps.bind (plain_ofExcept fun _ => start_isHandled) fun reservation => ?_) h
  exact Keeps.bind (plain_addWithHold _ _) fun _ => Keeps.pure _

/-- A create that raised raises the same after the second look for its key. -/
theorem create_of_error (hnone : database.findByIdempotencyKey userId idempotencyKey = none)
    {failure : Failure} {t : Session}
    (h : createTransaction sha256 environment userId items idempotencyKey (.start database) =
      .error failure t) :
    create sha256 environment userId items idempotencyKey database =
      ⟨.error (translateFailure failure), database, t.exchanges⟩ := by
  unfold create
  rw [reservationTransaction_of_error h]
  dsimp only
  split
  · next hok => cases hok
  · next hrace =>
    rw [reservationTransaction_of_ok (getByIdempotencyKey_none hnone), Except.error.inj hrace]
    rfl
  · next failure' _ hother =>
    rw [Except.error.inj hother]
    rfl

theorem create_of_ok {reservation : Reservation} {held : Bool} {t : Session}
    (h : createTransaction sha256 environment userId items idempotencyKey (.start database) =
      .ok (reservation, held) t) :
    create sha256 environment userId items idempotencyKey database =
      ⟨createVerdict items reservation held, t.database, t.exchanges⟩ := by
  rw [create, reservationTransaction_of_ok h]
  rfl

end ReservationService

namespace ReservationCall
variable {sha256 : String → String} {environment : Environment} {database : Database}

theorem createReservation_taken (hsound : database.Sound) (request : CreateReservationRequest) (userId : Uuid)
    (idempotencyKey : IdempotencyKeyHeader) {model : ReservationModel}
    (hf : database.findByIdempotencyKey userId idempotencyKey.value = some model) :
    (createReservation request userId idempotencyKey).Answers sha256 environment database := by
  obtain ⟨existing, hloads, hcreate⟩ :=
    ReservationService.create_of_found sha256 environment request.toItems hsound hf
  have howner : existing.userId = userId := hloads.userId.trans (Database.findByIdempotencyKey_eq_some hf).2.1
  have hturned : existing.status = .failed ∨ existing.releaseTargetStatus = some .failed ↔ model.TurnedDown := by
    obtain ⟨existing', hd, -, -, hiff⟩ := hsound.toDomain_ok (Database.findByIdempotencyKey_eq_some hf).1
    cases hd.symm.trans (Database.toDomain_eq_ok_iff.mpr hloads)
    exact hiff
  by_cases hsame : model.requestFingerprint ≠ reservationRequestFingerprint sha256 request.toItems
  · rw [resolveIdempotentRetry, if_pos (hloads.requestFingerprint ▸ hsame)] at hcreate
    refine .of_refused (.service (.idempotencyConflict idempotencyKey.value existing.id)) ?_ ?_
    · rw [serve, hcreate]
      rfl
    · rw [refusal?, hf, Option.bind_some, if_pos hsame, hloads.id]
      rfl
  · rw [resolveIdempotentRetry, if_neg (hloads.requestFingerprint ▸ hsame)] at hcreate
    by_cases ht : model.TurnedDown
    · rw [if_pos (hturned.mpr ht)] at hcreate
      refine .of_refused (.service (.insufficientInventory existing.items)) ?_ ?_
      · rw [serve, hcreate]
        rfl
      · rw [refusal?, hf, Option.bind_some, if_neg hsame, if_pos ht]
        rfl
    · rw [if_neg fun hor => ht (hturned.mp hor)] at hcreate
      refine .of_accepted ?_ (.of_ok (.fromDomain existing) ?_ howner)
      · rw [refusal?, hf, Option.bind_some, if_neg hsame, if_neg ht]
      · rw [serve, hcreate]
        rfl

theorem createReservation_new (hsound : database.Sound) (request : CreateReservationRequest) (userId : Uuid)
    (idempotencyKey : IdempotencyKeyHeader)
    (hnone : database.findByIdempotencyKey userId idempotencyKey.value = none) :
    (createReservation request userId idempotencyKey).Accepted sha256 environment database := by
  cases hr : ReservationService.createTransaction sha256 environment userId request.toItems
      idempotencyKey.value (.start database) with
  | error failure t =>
    have hcreate := ReservationService.create_of_error hnone hr
    refine .of_failure (translateFailure failure) ?_ ?_ id ?_
    · rw [serve, hcreate]
      rfl
    · rw [translateFailure_isHandled]
      exact ReservationService.createTransaction_isHandled hnone hr
    · rw [serve, hcreate]
      rfl
  | ok result t =>
    obtain ⟨reservation, held⟩ := result
    have hcreate := ReservationService.create_of_ok hr
    cases held with
    | false =>
      refine .insufficient ?_ hnone
      rw [response, serve, hcreate]
      rfl
    | true =>
      refine .of_ok (.fromDomain reservation) ?_ ?_
      · rw [serve, hcreate]
        rfl
      · rcases createTransaction_ok (s := .start database) hsound.wellFormed rfl hr with
          ⟨model, existing, hf, -⟩ | ⟨-, hstart, -⟩
        · cases hnone.symm.trans hf
        · exact (Reservation.start_ok hstart).2.1

/-- Every request is answered as the stored rows say. -/
theorem answers (call : ReservationCall) (hsound : database.Sound) :
    call.Answers sha256 environment database := by
  cases call with
  | createReservation request userId idempotencyKey =>
    cases hf : database.findByIdempotencyKey userId idempotencyKey.value with
    | some model => exact createReservation_taken hsound request userId idempotencyKey hf
    | none =>
      refine .of_accepted ?_ (createReservation_new hsound request userId idempotencyKey hf)
      rw [refusal?, hf]
      rfl
  | getReservation reservationId userId => exact getReservation_answers hsound reservationId userId
  | confirmReservation reservationId userId => exact SettlementKind.endpoint_answers .confirm hsound
  | cancelReservation reservationId userId => exact SettlementKind.endpoint_answers .release hsound

end ReservationCall

/-! ## Traffic -/

namespace ReservationCall
variable (sha256 : String → String) (environment : Environment)

/-- A call leaves the database its request leaves; reading leaves it as it was. -/
theorem serve_database (call : ReservationCall) (database : Database) :
    (call.serve sha256 environment database).database = call.request?.elim database fun request =>
      System.step sha256 database ⟨environment, request⟩ := by
  cases call with
  | getReservation reservationId userId =>
    cases hr : InventoryReservation.getReservation reservationId (.start database) with
    | ok result t =>
      have hserve : (getReservation reservationId userId).serve sha256 environment database =
          ⟨requireOwned reservationId userId result, t.database, t.exchanges⟩ := serve_of_ok hr
      cases InventoryReservation.getReservation_ok hr
      exact congrArg Served.database hserve
    | error failure t =>
      have hserve : (getReservation reservationId userId).serve sha256 environment database =
          ⟨.error (.service (translateFailure failure)), database, t.exchanges⟩ := serve_of_error hr
      exact congrArg Served.database hserve
  | createReservation request userId idempotencyKey => rfl
  | confirmReservation reservationId userId => rfl
  | cancelReservation reservationId userId => rfl

end ReservationCall

namespace Traffic
variable (sha256 : String → String)

theorem step_eq (database : Database) (traffic : Traffic) :
    step sha256 database traffic = traffic.event?.elim database (System.step sha256 database) := by
  cases traffic with
  | internal event => rfl
  | customer environment call =>
    rw [step, ReservationCall.serve_database, event?]
    cases call.request? <;> rfl

theorem run_append (database : Database) (traffic traffic' : List Traffic) :
    run sha256 database (traffic ++ traffic') = run sha256 (run sha256 database traffic) traffic' :=
  Runs.run_append _ _ _ _

/-- Traffic is a run of the system. -/
theorem run_eq (database : Database) (traffic : List Traffic) :
    run sha256 database traffic = System.run sha256 database (traffic.filterMap event?) := by
  induction traffic generalizing database with
  | nil => rfl
  | cons head traffic ih =>
    rw [run, Runs.run_cons, step_eq]
    cases he : head.event? with
    | none =>
      rw [List.filterMap_cons_none he]
      exact ih database
    | some event =>
      rw [List.filterMap_cons_some he]
      exact ih (System.step sha256 database event)

theorem run_sound {database : Database} (hinit : database.Initial) (traffic : List Traffic) :
    (run sha256 database traffic).Sound := by
  rw [run_eq]
  exact System.run_sound sha256 hinit _

/-- After any traffic every request is refused exactly as the stored rows say. -/
theorem run_answers {database : Database} (hinit : database.Initial) (traffic : List Traffic)
    (environment : Environment) (call : ReservationCall) :
    call.Answers sha256 environment (run sha256 database traffic) :=
  call.answers (run_sound sha256 hinit traffic)

end Traffic

namespace Deployment

/-- Two items requested with the later product first. -/
def unorderedRequest : CreateReservationRequest where
  items := [⟨2, 20, 1, one_unit⟩, ⟨1, 10, 2, two_units⟩]
  items_ne_nil := List.cons_ne_nil _ _

theorem key_min_length : 1 ≤ "key".length := by decide

theorem key_max_length : "key".length ≤ 128 := by decide

def keyHeader : IdempotencyKeyHeader := ⟨"key", key_min_length, key_max_length⟩

end Deployment

/-- Confirming a reservation that was cancelled. -/
theorem Traffic.run_answers_cancelled :
    (ReservationCall.confirmReservation 100 7).response Deployment.sha256 (Deployment.environment 1300 0 20)
      (run Deployment.sha256 Deployment.database
        [.customer (Deployment.environment 1000 100 0)
            (.createReservation Deployment.unorderedRequest 7 Deployment.keyHeader),
          .customer (Deployment.environment 1200 0 10) (.cancelReservation 100 7)]) =
      handleReservationNotConfirmable 100 :=
  ((run_answers Deployment.sha256 Deployment.initial _ _ (.confirmReservation 100 7)).refused _
    (by decide +kernel)).1

end InventoryReservation
