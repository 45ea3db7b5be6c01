import InventoryReservation.Guarantees.CustomerAnswers

/-! # Customers do not see each other

Requests of other customers, and changes of stock levels, leave what is stored of a customer's reservations as it
is. What the customer reads and how his requests are refused is a function of that, so nothing others do shows in
it.
-/

namespace InventoryReservation
set_option autoImplicit false

open Relational Transactional

/-! ## The statement -/

/-- What is stored of a customer's reservation. -/
def Database.owned? (database : Database) (userId reservationId : Uuid) : Option Aggregate :=
  (database.aggregate? reservationId).filter fun aggregate => aggregate.reservation.userId = userId

/-- The request is not one of this customer, nor of a worker. -/
def Request.Avoids (userId : Uuid) : Request → Prop
  | create userId' _ _ => userId' ≠ userId
  | confirm _ userId' => userId' ≠ userId
  | cancel _ userId' => userId' ≠ userId
  | expireBatch _ => False
  | reconcileBatch _ _ _ => False
  | setLevel _ _ _ _ _ => True
  | removeLevel _ _ => True

instance (userId : Uuid) : DecidablePred (Request.Avoids userId)
  | .create _ _ _ => inferInstanceAs (Decidable (_ ≠ _))
  | .confirm _ _ => inferInstanceAs (Decidable (_ ≠ _))
  | .cancel _ _ => inferInstanceAs (Decidable (_ ≠ _))
  | .expireBatch _ => isFalse id
  | .reconcileBatch _ _ _ => isFalse id
  | .setLevel _ _ _ _ _ => isTrue trivial
  | .removeLevel _ _ => isTrue trivial

/-- Traffic that is neither this customer's nor a worker's; anyone may read. -/
def Traffic.Avoids (userId : Uuid) (traffic : Traffic) : Prop :=
  ∀ event ∈ traffic.event?, event.request.Avoids userId

instance (userId : Uuid) (traffic : Traffic) : Decidable (traffic.Avoids userId) :=
  inferInstanceAs (Decidable (∀ event ∈ traffic.event?, _))

/-- A customer cannot tell the databases apart: by his reservations, by how his requests are refused, and by
what he reads. -/
structure Database.SameFor (sha256 : String → String) (userId : Uuid) (s t : Database) : Prop where
  owned : ∀ r, t.owned? userId r = s.owned? userId r
  refusal : ∀ call : ReservationCall, call.userId = userId → call.refusal? sha256 t = call.refusal? sha256 s
  reading : ∀ (environment environment' : Environment) (call : ReservationCall), call.userId = userId →
    call.Reads → call.response sha256 environment' t = call.response sha256 environment s

/-! ## One request -/

theorem Database.owned?_eq_some_iff {database : Database} {userId r : Uuid} {aggregate : Aggregate} :
    database.owned? userId r = some aggregate ↔
      database.aggregate? r = some aggregate ∧ aggregate.reservation.userId = userId := by
  rw [owned?, Option.filter_eq_some_iff, decide_eq_true_eq]

theorem Aggregate.Created.userId {environment : Environment} {reservation : Reservation}
    {exchanges : List Exchange} {held : Bool} {after : Aggregate}
    (h : Aggregate.Created environment reservation exchanges held after) :
    after.reservation.userId = reservation.userId := by
  cases h with
  | held _ hopened => exact hopened.request.userId
  | compensated before _ done hdone hopened hr => exact hr.request.userId.trans hopened.request.userId

/-- A walk of a request that avoids the customer is over another customer's reservation. -/
theorem Request.Avoids.walk {event : Event} {database : Database} {walk : Walk} {userId : Uuid}
    (h : event.request.Avoids userId) (hwalk : walk ∈ event.walks database) :
    walk.reservation.userId ≠ userId := by
  cases (event.occasion hwalk).1 with
  | confirm reservation hrequest hconfirmed hcancelled =>
    rw [hrequest] at h
    exact h
  | cancel reservation hrequest hcancelled hconfirmed hconfirming =>
    rw [hrequest] at h
    exact h
  | expire reservation limit hrequest hpending =>
    rw [hrequest] at h
    exact h.elim
  | resumeRelease reservation limit maxAttempts retryBaseDelay terminalStatus hrequest hreleasing htarget
      hterminal =>
    rw [hrequest] at h
    exact h.elim
  | resumeConfirm reservation limit maxAttempts retryBaseDelay hrequest hconfirming =>
    rw [hrequest] at h
    exact h.elim

theorem Aggregate.filter_owner {aggregate : Aggregate} {userId : Uuid} (h : aggregate.reservation.userId ≠ userId) :
    (some aggregate).filter (fun aggregate => aggregate.reservation.userId = userId) = none :=
  Option.filter_some_neg (decide_eq_false h)

theorem System.step_owned (sha256 : String → String) {database : Database} (hsound : database.Sound)
    {event : Event} {userId : Uuid} (havoids : event.request.Avoids userId) (r : Uuid) :
    (step sha256 database event).owned? userId r = database.owned? userId r := by
  unfold Database.owned?
  have hchange := (step_transition sha256 hsound event).changes r
  generalize database.aggregate? r = before? at hchange ⊢
  generalize (step sha256 database event).aggregate? r = after? at hchange ⊢
  cases hchange with
  | kept => rfl
  | created userId' items idempotencyKey reservation held after hrequest hstart hid hcreated =>
    rw [hrequest] at havoids
    have hother : after.reservation.userId ≠ userId := by
      rw [hcreated.userId, (Reservation.start_ok hstart).2.1]
      exact havoids
    rw [Aggregate.filter_owner hother]
    rfl
  | walked walk before after hwalk hreservation hid happlies hanswered =>
    have hbefore : before.reservation.userId ≠ userId := by
      rw [hreservation]
      exact havoids.walk hwalk
    have hafter : after.reservation.userId ≠ userId := by
      rw [happlies.request.userId]
      exact hbefore
    rw [Aggregate.filter_owner hbefore, Aggregate.filter_owner hafter]

/-! ## What a customer can tell -/

section Views
variable {s t : Database} {userId : Uuid}

theorem Database.findOwned_eq (database : Database) (reservationId userId : Uuid) :
    database.findOwned reservationId userId =
      (database.owned? userId reservationId).map Aggregate.reservation := by
  unfold findOwned owned? aggregate?
  rw [Option.filter_map, Option.map_map]
  exact Option.map_id'.symm

theorem Database.findByIdempotencyKey_of_owned (ht : t.WellFormed)
    (howned : ∀ r, t.owned? userId r = s.owned? userId r) {idempotencyKey : String} {model : ReservationModel}
    (hf : s.findByIdempotencyKey userId idempotencyKey = some model) :
    t.findByIdempotencyKey userId idempotencyKey = some model := by
  obtain ⟨hmem, rfl, rfl⟩ := findByIdempotencyKey_eq_some hf
  have hs : s.owned? model.userId model.id = some ⟨model, _, _, _⟩ :=
    owned?_eq_some_iff.mpr ⟨aggregate?_eq_some_iff.mpr ⟨Table.find?_of_mem hmem, rfl, rfl, rfl⟩, rfl⟩
  rw [← howned] at hs
  exact ht.findByIdempotencyKey
    (Table.mem_of_find? (aggregate?_eq_some_iff.mp (owned?_eq_some_iff.mp hs).1).1)

theorem Database.findByIdempotencyKey_congr (hs : s.WellFormed) (ht : t.WellFormed)
    (howned : ∀ r, t.owned? userId r = s.owned? userId r) (idempotencyKey : String) :
    t.findByIdempotencyKey userId idempotencyKey = s.findByIdempotencyKey userId idempotencyKey := by
  cases hf : s.findByIdempotencyKey userId idempotencyKey with
  | some model => exact findByIdempotencyKey_of_owned ht howned hf
  | none =>
    cases hf' : t.findByIdempotencyKey userId idempotencyKey with
    | none => rfl
    | some model =>
      rw [findByIdempotencyKey_of_owned hs (fun r => (howned r).symm) hf'] at hf
      cases hf

theorem getReservation_unowned (sha256 : String → String) (environment : Environment) (hs : s.Sound)
    {reservationId : Uuid} (howned : s.findOwned reservationId userId = none) :
    (ReservationCall.getReservation reservationId userId).response sha256 environment s =
      handleReservationNotFound reservationId := by
  refine ((ReservationCall.getReservation_answers hs reservationId userId).refused _ ?_).1
  rw [ReservationCall.refusal?, howned]

/-- Reading a reservation shows what is stored of it for the customer. -/
theorem getReservation_response_congr (sha256 : String → String) (environment environment' : Environment)
    (hs : s.Sound) (ht : t.Sound) {reservationId : Uuid}
    (howned : t.owned? userId reservationId = s.owned? userId reservationId) :
    (ReservationCall.getReservation reservationId userId).response sha256 environment' t =
      (ReservationCall.getReservation reservationId userId).response sha256 environment s := by
  have hfound : t.findOwned reservationId userId = s.findOwned reservationId userId := by
    rw [Database.findOwned_eq, Database.findOwned_eq, howned]
  cases ho : s.findOwned reservationId userId with
  | none =>
    rw [ho] at hfound
    rw [getReservation_unowned sha256 environment hs ho, getReservation_unowned sha256 environment' ht hfound]
  | some model =>
    obtain ⟨reservation, hread, -, -⟩ := hs.requireOwned_some ho
    have hstored : s.owned? userId reservationId = some ⟨model, _, _, _⟩ :=
      Database.owned?_eq_some_iff.mpr ⟨Database.aggregate?_eq_some_iff.mpr
        ⟨(Database.findOwned_eq_some ho).1, rfl, rfl, rfl⟩, (Database.findOwned_eq_some ho).2.2⟩
    have hsame : t.aggregate? reservationId = s.aggregate? reservationId :=
      (Database.owned?_eq_some_iff.mp (howned.trans hstored)).1.trans
        (Database.owned?_eq_some_iff.mp hstored).1.symm
    have hread' : getReservation reservationId (.start t) = .ok (some reservation) (.start t) :=
      getReservation_of_aggregate (s := .start s) hsame hread
    have hserve : (ReservationCall.getReservation reservationId userId).serve sha256 environment s =
      ⟨requireOwned reservationId userId (some reservation), s, []⟩ := serve_of_ok hread
    have hserve' : (ReservationCall.getReservation reservationId userId).serve sha256 environment' t =
      ⟨requireOwned reservationId userId (some reservation), t, []⟩ := serve_of_ok hread'
    rw [ReservationCall.response, ReservationCall.response, hserve, hserve']

/-- Databases with the same reservations of a customer are the same to him. -/
theorem Database.SameFor.of_owned (sha256 : String → String) (hs : s.Sound) (ht : t.Sound)
    (howned : ∀ r, t.owned? userId r = s.owned? userId r) : s.SameFor sha256 userId t where
  owned := howned
  refusal call hcall := by
    cases call with
    | createReservation request userId' idempotencyKey =>
      obtain rfl : userId' = userId := hcall
      rw [ReservationCall.refusal?, ReservationCall.refusal?,
        findByIdempotencyKey_congr hs.wellFormed ht.wellFormed howned]
    | getReservation reservationId userId' =>
      obtain rfl : userId' = userId := hcall
      rw [ReservationCall.refusal?, ReservationCall.refusal?, findOwned_eq, findOwned_eq, howned]
    | confirmReservation reservationId userId' =>
      obtain rfl : userId' = userId := hcall
      rw [ReservationCall.refusal?, ReservationCall.refusal?, findOwned_eq, findOwned_eq, howned]
    | cancelReservation reservationId userId' =>
      obtain rfl : userId' = userId := hcall
      rw [ReservationCall.refusal?, ReservationCall.refusal?, findOwned_eq, findOwned_eq, howned]
  reading environment environment' call hcall hreads := by
    cases call with
    | createReservation request userId' idempotencyKey => exact hreads.elim
    | confirmReservation reservationId userId' => exact hreads.elim
    | cancelReservation reservationId userId' => exact hreads.elim
    | getReservation reservationId userId' =>
      obtain rfl : userId' = userId := hcall
      exact getReservation_response_congr sha256 environment environment' hs ht (howned reservationId)

end Views

/-! ## Traffic -/

namespace Traffic
variable (sha256 : String → String) {userId : Uuid}

theorem step_owned {database : Database} (hsound : database.Sound) {traffic : Traffic}
    (havoids : traffic.Avoids userId) (r : Uuid) :
    (step sha256 database traffic).owned? userId r = database.owned? userId r := by
  rw [step_eq]
  cases he : traffic.event? with
  | none => rfl
  | some event => exact System.step_owned sha256 hsound (havoids event he) r

theorem step_sound {database : Database} (hsound : database.Sound) (traffic : Traffic) :
    (step sha256 database traffic).Sound := by
  rw [step_eq]
  cases traffic.event? with
  | none => exact hsound
  | some event => exact System.step_sound sha256 hsound event

theorem run_owned {database : Database} (hsound : database.Sound) {traffic : List Traffic}
    (havoids : ∀ traffic' ∈ traffic, traffic'.Avoids userId) (r : Uuid) :
    (run sha256 database traffic).owned? userId r = database.owned? userId r := by
  induction traffic generalizing database with
  | nil => rfl
  | cons head traffic ih =>
    have hhead := step_owned sha256 hsound (havoids head List.mem_cons_self) r
    have hrest := ih (step_sound sha256 hsound head) fun traffic' hmem => havoids traffic' (List.mem_cons_of_mem _ hmem)
    exact hrest.trans hhead

/-- Nothing that other customers and operators do shows to a customer. -/
theorem run_sameFor {database : Database} (hinit : database.Initial) (before others : List Traffic)
    (havoids : ∀ traffic ∈ others, traffic.Avoids userId) :
    (run sha256 database before).SameFor sha256 userId (run sha256 database (before ++ others)) := by
  have hsound := run_sound sha256 hinit before
  refine .of_owned sha256 hsound (run_sound sha256 hinit (before ++ others)) fun r => ?_
  rw [run_append]
  exact run_owned sha256 hsound havoids r

/-- Another customer tries to confirm the reservation and makes one of his own, and an operator adds stock. -/
theorem run_sameFor_other :
    (run Deployment.sha256 Deployment.database
        [.customer (Deployment.environment 1000 100 0)
          (.createReservation Deployment.unorderedRequest 7 Deployment.keyHeader)]).SameFor Deployment.sha256 7
      (run Deployment.sha256 Deployment.database
        ([.customer (Deployment.environment 1000 100 0)
            (.createReservation Deployment.unorderedRequest 7 Deployment.keyHeader)] ++
          [.customer (Deployment.environment 1200 0 10) (.confirmReservation 100 8),
            .customer (Deployment.environment 1300 200 20)
              (.createReservation Deployment.unorderedRequest 8 Deployment.keyHeader),
            .internal ⟨Deployment.environment 1400 0 30, .setLevel 1 10 50 100 none⟩])) :=
  run_sameFor Deployment.sha256 Deployment.initial _ _ (by decide)

end Traffic
end InventoryReservation
