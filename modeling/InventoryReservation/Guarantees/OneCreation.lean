import InventoryReservation.Concurrency.ConcurrentCreates
import InventoryReservation.Guarantees.AllOrNothing
import InventoryReservation.Guarantees.Verdict
import InventoryReservation.Meaning.Failures

/-! # Concurrent creates act as one

While a transaction has an uncommitted row under the key, the committed database is the one all calls started
with, so what that transaction has done so far is the beginning of a create that runs alone. Once a row is
committed nothing writes any more, and every call that looks finds it.
-/

namespace InventoryReservation
set_option autoImplicit false

open Relational Transactional

/-! ## Answers -/

/-- The units a reservation holds at an offer. -/
def Database.heldBy (database : Database) (reservationId : Uuid) (k : Uuid × Uuid) : ℤ :=
  ((database.allocationRows reservationId).map fun row =>
    if row.allocation.status = .held ∧ k = (row.productId, row.allocation.providerId) then
      row.allocation.quantity.units
    else 0).sum

/-- What a create of these items answers when this reservation is stored under its key. -/
structure AnswersFor (sha256 : String → String) (idempotencyKey : String) (items : List ReservationItem)
    (winner : ReservationModel) (result : Except Failure Reservation) : Prop where
  created : winner.requestFingerprint = reservationRequestFingerprint sha256 items → ¬ winner.TurnedDown →
    ∃ reservation, result = .ok reservation ∧ reservation.id = winner.id
  refused : winner.requestFingerprint = reservationRequestFingerprint sha256 items → winner.TurnedDown →
    ∃ items', result = .error (.insufficientInventory items')
  conflict : winner.requestFingerprint ≠ reservationRequestFingerprint sha256 items →
    result = .error (.idempotencyConflict idempotencyKey winner.id)

section Answers
variable {sha256 : String → String} {environment : Environment} {userId : Uuid} {items : List ReservationItem}
  {idempotencyKey : String} {database : Database}

/-- A lookup answers by what is stored. -/
theorem Database.Sound.lookup (hsound : database.Sound) {model : ReservationModel}
    (hf : database.findByIdempotencyKey userId idempotencyKey = some model) :
    ∃ existing, getByIdempotencyKey userId idempotencyKey (.start database) =
        .ok (some existing) (.start database) ∧
      ∀ items, AnswersFor sha256 idempotencyKey items model
        (resolveIdempotentRetry existing idempotencyKey (reservationRequestFingerprint sha256 items)) := by
  obtain ⟨existing, hload, hid, hfingerprint, hverdict⟩ := hsound.loads hf
  refine ⟨existing, hload, fun items => ?_⟩
  unfold resolveIdempotentRetry
  rw [hfingerprint]
  constructor
  · intro hsame hnot
    rw [if_neg (not_not.mpr hsame), if_neg (fun h => hnot (hverdict.mp h))]
    exact ⟨existing, rfl, hid⟩
  · intro hsame hturned
    rw [if_neg (not_not.mpr hsame), if_pos (hverdict.mpr hturned)]
    exact ⟨existing.items, rfl⟩
  · intro hne
    rw [if_pos hne, hid]

theorem createVerdict_answers {winner : ReservationModel} {reservation : Reservation} {held : Bool}
    (hid : winner.id = reservation.id)
    (hfingerprint : winner.requestFingerprint = reservationRequestFingerprint sha256 items)
    (hturned : winner.TurnedDown ↔ held = false) :
    AnswersFor sha256 idempotencyKey items winner (ReservationService.createVerdict items reservation held) := by
  unfold ReservationService.createVerdict
  constructor
  · intro _ hnot
    rw [if_pos (Bool.of_not_eq_false fun h => hnot (hturned.mpr h))]
    exact ⟨reservation, rfl, hid.symm⟩
  · intro _ h
    rw [hturned.mp h]
    exact ⟨items, rfl⟩
  · exact fun hne => absurd hfingerprint hne

/-- The first transaction of a create that finds nothing under its key. -/
theorem createTransaction_of_absent {reservation : Reservation} {held : Bool} {u : Session}
    (hnone : database.findByIdempotencyKey userId idempotencyKey = none)
    (hstart : Reservation.start (creationDraft sha256 environment userId items idempotencyKey) = .ok reservation)
    (h : addWithHold environment reservation (.start database) = .ok held u) :
    ReservationService.createTransaction sha256 environment userId items idempotencyKey (.start database) =
      .ok (reservation, held) u := by
  rw [ReservationService.createTransaction, bind_of_ok (getByIdempotencyKey_none hnone)]
  have hdraft : Reservation.start
      { reservationId := environment.reservationId
        userId
        items
        idempotencyKey
        requestFingerprint := reservationRequestFingerprint sha256 items
        now := environment.now
        ttl := environment.ttl } = .ok reservation := hstart
  have hnew : ofExcept (Reservation.start
      { reservationId := environment.reservationId
        userId
        items
        idempotencyKey
        requestFingerprint := reservationRequestFingerprint sha256 items
        now := environment.now
        ttl := environment.ttl }) (.start database) = .ok reservation (.start database) :=
    ofExcept_ok_iff.mpr ⟨hdraft, rfl⟩
  dsimp only
  rw [bind_of_ok hnew, bind_of_ok h]
  rfl

end Answers

/-! ## Held units -/

section Held
variable {before after : Database} {reservation : Reservation}

theorem WhollyHeld.heldBy (h : WhollyHeld reservation before after) :
    Reserves (after.heldBy reservation.id) before after := by
  intro k provider offer hp hk ho
  obtain ⟨offer', ho', honHand, hreserved⟩ := h.reserved k provider offer hp hk ho
  refine ⟨offer', ho', honHand, ?_⟩
  have hunits : after.heldBy reservation.id k = after.allocatedAt reservation.id k := by
    unfold Database.heldBy Database.allocatedAt
    refine congrArg List.sum (List.map_congr_left fun row hrow => ?_)
    obtain ⟨ha, hj⟩ := Database.mem_allocationRows.mp hrow
    obtain ⟨item, provider, hi, -, hr, -⟩ := Database.joinAllocation_eq_some_iff.mp hj
    have hitem : item ∈ after.itemsOf reservation.id :=
      List.mem_filter.mpr ⟨Table.mem_of_find? hi, decide_eq_true hr⟩
    obtain ⟨allocation, -, -, hheld, -, hunique⟩ := h.allocated item hitem
    have hid : row.allocation.reservationItemId = item.id := (Table.key_of_find? hi).symm
    rw [hunique row.allocation ha hid, hheld]
    exact if_congr (and_iff_right rfl) rfl rfl
  rw [hunits]
  exact hreserved

theorem WhollyReleased.heldBy {calls : List Exchange} (h : WhollyReleased reservation before after calls)
    (hproviders : after.providers = before.providers) :
    Reserves (after.heldBy reservation.id) before after := by
  intro k provider offer hp hk ho
  obtain ⟨offer', ho', honHand, hreserved⟩ := h.restored k provider offer hp hk ho
  refine ⟨offer', ho', honHand, ?_⟩
  have hunits : after.heldBy reservation.id k = 0 := by
    unfold Database.heldBy
    refine List.sum_eq_zero fun units hu => ?_
    obtain ⟨row, hrow, rfl⟩ := List.mem_map.mp hu
    refine if_neg fun hat => ?_
    obtain ⟨-, hj⟩ := Database.mem_allocationRows.mp hrow
    obtain ⟨item, provider', -, hp', -, heq⟩ := Database.joinAllocation_eq_some_iff.mp hj
    rw [hproviders] at hp'
    have hkey : row.allocation.providerId = k.2 := (congrArg Prod.snd hat.2).symm
    have hprovider : row.provider = provider := by
      rw [hkey, hp] at hp'
      rw [heq]
      exact (Option.some.inj hp').symm
    have hreleased := h.internal row hrow (hprovider ▸ hk)
    rw [hat.1] at hreleased
    cases hreleased
  rw [hunits]
  exact hreserved

end Held

/-! ## Where the calls stand -/

/-- The committed database is what this one call, alone, makes of the one before: the units it holds are the
only ones that were reserved, and no other reservation has changed. -/
structure MadeBy (sha256 : String → String) (userId : Uuid) (idempotencyKey : String) (call : CreateCall)
    (before after : Database) : Prop where
  absent : before.findByIdempotencyKey userId idempotencyKey = none
  alone : after =
    (ReservationService.create sha256 call.environment userId call.items idempotencyKey before).database
  stored : ∃ winner, after.findByIdempotencyKey userId idempotencyKey = some winner ∧
    winner.requestFingerprint = reservationRequestFingerprint sha256 call.items ∧
    Reserves (after.heldBy winner.id) before after ∧ SparesOthers winner.id before after

/-- The insert of the call went through, and its transaction has not ended. -/
def CreatePhase.Writes : CreatePhase → Prop
  | holding _ _ _ => True
  | compensated _ _ => True
  | _ => False

/-- The call has ended. -/
def CreatePhase.IsOver : CreatePhase → Prop
  | answered _ => True
  | aborted _ => True
  | _ => False

namespace ConcurrentCreates
variable {τ : Type} [DecidableEq τ] (sha256 : String → String) (userId : Uuid) (idempotencyKey : String)
  (calls : τ → CreateCall) (before : Database)

/-- A transaction with an uncommitted row: what is left of it ends in `rest`, as if it had run alone. -/
structure Underway (s : ConcurrentCreates τ) (t : τ) (reservation : Reservation)
    (rest : EStateM.Result Failure Session Bool) : Prop where
  writer : s.writer = some t
  unchanged : s.database = before
  absent : before.findByIdempotencyKey userId idempotencyKey = none
  started : Reservation.start (creationDraft sha256 (calls t).environment userId (calls t).items
    idempotencyKey) = .ok reservation
  runs : addWithHold (calls t).environment reservation (.start before) = rest

/-- What is so of a call by how far it has come. -/
def Fits (s : ConcurrentCreates τ) (t : τ) : CreatePhase → Prop
  | .begun => True
  | .absent => True
  | .holding reservation items session =>
    Underway sha256 userId idempotencyKey calls before s t reservation
      (holdItems (calls t).environment (toModel (calls t).environment reservation) items session)
  | .compensated reservation session =>
    Underway sha256 userId idempotencyKey calls before s t reservation (.ok false session)
  | .collided => (s.database.findByIdempotencyKey userId idempotencyKey).isSome = true
  | .answered result => ∃ winner, s.database.findByIdempotencyKey userId idempotencyKey = some winner ∧
    AnswersFor sha256 idempotencyKey (calls t).items winner result
  | .aborted failure => ∀ other ∈ failure, other.IsOther

structure Coherent (s : ConcurrentCreates τ) : Prop where
  sound : s.database.Sound
  committed : s.database = before ∨ ∃ t, MadeBy sha256 userId idempotencyKey (calls t) before s.database
  writing : ∀ t, s.writer = some t → (s.phase t).Writes
  fits : ∀ t, Fits sha256 userId idempotencyKey calls before s t (s.phase t)

variable {sha256 userId idempotencyKey calls before} {s s' : ConcurrentCreates τ} {t : τ}
  {phase : CreatePhase} {reservation : Reservation} {session : Session}

omit [DecidableEq τ] in
theorem Coherent.start (hsound : before.Sound) :
    Coherent sha256 userId idempotencyKey calls before (.start before) where
  sound := hsound
  committed := Or.inl rfl
  writing _ h := nomatch h
  fits _ := trivial

omit [DecidableEq τ] in
theorem Underway.mono {rest : EStateM.Result Failure Session Bool}
    (h : Underway sha256 userId idempotencyKey calls before s t reservation rest)
    (hdatabase : s'.database = s.database) (hwriter : s'.writer = some t) :
    Underway sha256 userId idempotencyKey calls before s' t reservation rest :=
  ⟨hwriter, hdatabase.trans h.unchanged, h.absent, h.started, h.runs⟩

omit [DecidableEq τ] in
/-- A call keeps its standing while the committed database is the same and its row is not taken away. -/
theorem Fits.mono (h : Fits sha256 userId idempotencyKey calls before s t phase)
    (hdatabase : s'.database = s.database) (hwriter : s.writer = some t → s'.writer = some t) :
    Fits sha256 userId idempotencyKey calls before s' t phase := by
  cases phase with
  | begun => trivial
  | absent => trivial
  | holding reservation items session => exact Underway.mono h hdatabase (hwriter h.writer)
  | compensated reservation session => exact Underway.mono h hdatabase (hwriter h.writer)
  | collided =>
    unfold Fits
    rw [hdatabase]
    exact h
  | answered result =>
    unfold Fits
    rw [hdatabase]
    exact h
  | aborted failure => exact h

/-- A step of one call that commits nothing. -/
theorem Coherent.update (h : Coherent sha256 userId idempotencyKey calls before s)
    (hdatabase : s'.database = s.database) (hphase : s'.phase = Function.update s.phase t phase)
    (hwriter : ∀ u, u ≠ t → (s'.writer = some u ↔ s.writer = some u))
    (hwriting : s'.writer = some t → phase.Writes)
    (hfits : Fits sha256 userId idempotencyKey calls before s' t phase) :
    Coherent sha256 userId idempotencyKey calls before s' where
  sound := hdatabase ▸ h.sound
  committed := by
    rw [hdatabase]
    exact h.committed
  writing u hu := by
    rw [hphase]
    by_cases he : u = t
    · subst he
      rw [Function.update_self]
      exact hwriting hu
    · rw [Function.update_of_ne he]
      exact h.writing u ((hwriter u he).mp hu)
  fits u := by
    rw [hphase]
    by_cases hu : u = t
    · subst hu
      rw [Function.update_self]
      exact hfits
    · rw [Function.update_of_ne hu]
      exact (h.fits u).mono hdatabase (hwriter u hu).mpr

theorem Coherent.moveTo (h : Coherent sha256 userId idempotencyKey calls before s)
    (hwriting : (s.phase t).Writes → phase.Writes)
    (hfits : Fits sha256 userId idempotencyKey calls before s t phase) :
    Coherent sha256 userId idempotencyKey calls before (s.moveTo t phase) :=
  h.update rfl rfl (fun _ _ => Iff.rfl) (fun hw => hwriting (h.writing t hw)) (hfits.mono rfl id)

theorem Coherent.rollBack (h : Coherent sha256 userId idempotencyKey calls before s)
    (hfits : Fits sha256 userId idempotencyKey calls before (s.rollBack t phase) t phase) :
    Coherent sha256 userId idempotencyKey calls before (s.rollBack t phase) := by
  unfold ConcurrentCreates.rollBack at hfits ⊢
  refine h.update rfl rfl (fun u hu => ?_) (fun hw => ?_) hfits
  · dsimp only
    by_cases hwriter : s.writer = some t
    · rw [if_pos hwriter, hwriter]
      exact ⟨nofun, fun he => absurd (Option.some.inj he).symm hu⟩
    · rw [if_neg hwriter]
  · dsimp only at hw
    by_cases hwriter : s.writer = some t
    · rw [if_pos hwriter] at hw
      cases hw
    · rw [if_neg hwriter] at hw
      exact absurd hw hwriter

theorem translateFailure_isOther {failure : Failure} (h : failure.IsOther) :
    translateFailure failure = failure ∧ failure ≠ .concurrentReservationCreation := by
  constructor
  · refine if_neg fun he => ?_
    rw [he] at h
    exact absurd h (by decide)
  · rintro rfl
    cases h

/-- Another failure ends the call. -/
theorem Coherent.raise (h : Coherent sha256 userId idempotencyKey calls before s) {failure : Failure}
    (hother : failure.IsOther) : Coherent sha256 userId idempotencyKey calls before (s.raise t failure) := by
  obtain ⟨hsame, hne⟩ := translateFailure_isOther hother
  unfold ConcurrentCreates.raise
  rw [hsame, if_neg hne]
  refine h.rollBack fun other ho => ?_
  rw [← Option.some.inj ho]
  exact hother

/-! ## One step -/

theorem Coherent.lookup (h : Coherent sha256 userId idempotencyKey calls before s)
    (hphase : s.phase t = .begun) :
    Coherent sha256 userId idempotencyKey calls before (s.lookup sha256 userId idempotencyKey calls t) := by
  have hidle : ∀ phase : CreatePhase, (s.phase t).Writes → phase.Writes := by
    intro phase hw
    rw [hphase] at hw
    exact hw.elim
  unfold ConcurrentCreates.lookup
  cases hf : s.database.findByIdempotencyKey userId idempotencyKey with
  | none =>
    rw [getByIdempotencyKey_none hf]
    exact h.moveTo (hidle _) trivial
  | some winner =>
    obtain ⟨existing, hload, hanswers⟩ := h.sound.lookup hf
    rw [hload]
    exact h.moveTo (hidle _) ⟨winner, hf, hanswers _⟩

/-- A call that collided finds what it collided with. -/
theorem Coherent.recover (h : Coherent sha256 userId idempotencyKey calls before s)
    (hphase : s.phase t = .collided)
    (hcollided : (s.database.findByIdempotencyKey userId idempotencyKey).isSome = true) :
    Coherent sha256 userId idempotencyKey calls before (s.recover sha256 userId idempotencyKey calls t) := by
  obtain ⟨winner, hf⟩ := Option.isSome_iff_exists.mp hcollided
  obtain ⟨existing, hload, hanswers⟩ := h.sound.lookup hf
  unfold ConcurrentCreates.recover
  rw [hload]
  refine h.moveTo (fun hw => ?_) ⟨winner, hf, hanswers _⟩
  rw [hphase] at hw
  exact hw.elim

theorem Coherent.insert (h : Coherent sha256 userId idempotencyKey calls before s) :
    Coherent sha256 userId idempotencyKey calls before (s.insert sha256 userId idempotencyKey calls t) := by
  unfold ConcurrentCreates.insert
  dsimp only
  cases hstart : Reservation.start (creationDraft sha256 (calls t).environment userId (calls t).items
      idempotencyKey) with
  | error failure => exact h.raise (isOther_start hstart)
  | ok reservation =>
    obtain ⟨-, huser, -, hkey, -⟩ := Reservation.start_ok hstart
    have huser : (toModel (calls t).environment reservation).userId = userId := huser
    have hkey : (toModel (calls t).environment reservation).idempotencyKey = idempotencyKey := hkey
    dsimp only
    cases hviolation : s.database.reservationViolation (toModel (calls t).environment reservation) with
    | some failure =>
      rcases isOther_reservationViolation failure hviolation with hother | ⟨rfl, htaken⟩
      · exact h.raise hother
      · rw [huser, hkey] at htaken
        exact h.rollBack htaken
    | none =>
      dsimp only
      by_cases hwriter : s.writer.isSome = true
      · rw [if_pos hwriter]
        exact h
      · rw [if_neg hwriter]
        cases hadd : addReservation (calls t).environment reservation (.start s.database) with
        | error failure u => exact h.raise (addReservation_isOther hviolation hadd)
        | ok items session =>
          have habsent := (Database.request_free hviolation)
          rw [huser, hkey] at habsent
          have hbefore : s.database = before := by
            refine h.committed.resolve_right ?_
            rintro ⟨u, hmade⟩
            obtain ⟨winner, hfound, -⟩ := hmade.stored
            rw [habsent] at hfound
            cases hfound
          refine h.update rfl rfl (fun u hu => ?_) (fun _ => trivial)
            ⟨rfl, hbefore, hbefore ▸ habsent, hstart, ?_⟩
          · constructor
            · intro he
              exact absurd (Option.some.inj he).symm hu
            · intro he
              rw [he] at hwriter
              exact absurd rfl hwriter
          · rw [← hbefore, addWithHold, bind_of_ok hadd]

theorem Coherent.hold (h : Coherent sha256 userId idempotencyKey calls before s) {item : ReservationItemModel}
    {items : List ReservationItemModel}
    (hphase : s.phase t = .holding reservation (item :: items) session) :
    Coherent sha256 userId idempotencyKey calls before (s.hold calls t reservation item items session) := by
  have hfits := h.fits t
  rw [hphase] at hfits
  have hruns := hfits.runs
  unfold ConcurrentCreates.hold
  dsimp only
  rw [holdItems_cons] at hruns
  cases hitem : holdItem (calls t).environment (toModel (calls t).environment reservation) item session with
  | error failure u =>
    have hraised : holdItems (calls t).environment (toModel (calls t).environment reservation) (item :: items)
        session = .error failure u := by
      rw [holdItems_cons, bind_of_error hitem]
    exact h.raise ((raisesOther_holdItems _ _ _ trivial).of_error hraised).2
  | ok held u =>
    rw [bind_of_ok hitem] at hruns
    cases held with
    | true =>
      refine h.moveTo (fun _ => trivial) ?_
      exact ⟨hfits.writer, hfits.unchanged, hfits.absent, hfits.started, hruns⟩
    | false =>
      refine h.moveTo (fun _ => trivial) ?_
      exact ⟨hfits.writer, hfits.unchanged, hfits.absent, hfits.started, hruns⟩

omit [DecidableEq τ] in
/-- What a commit makes of the database. -/
theorem Underway.madeBy {held : Bool} (hsound : before.Sound)
    (h : Underway sha256 userId idempotencyKey calls before s t reservation (.ok held session)) :
    MadeBy sha256 userId idempotencyKey (calls t) before session.database := by
  have hcreation := addWithHold_ok hsound.wellFormed rfl h.runs
  obtain ⟨winner, hfound, hid, hfingerprint, -⟩ := hcreation.found h.started
  have hpending : reservation.status = .pending := (Reservation.start_ok h.started).2.2.2.2.2.1
  refine ⟨h.absent, ?_, winner, hfound, hfingerprint, ?_⟩
  · rw [(ReservationService.create_eq sha256 _ userId _ idempotencyKey before).1, databaseTransaction,
      createTransaction_of_absent h.absent h.started h.runs]
  · rw [hid]
    have hruns := h.runs
    cases held with
    | true =>
      have hheld := addWithHold_held hsound.wellFormed hpending hruns
      exact ⟨hheld.heldBy, hheld.others⟩
    | false =>
      have hreleased := addWithHold_released hsound.wellFormed hruns
      exact ⟨hreleased.heldBy hcreation.conserves.providers, hreleased.others⟩

theorem Coherent.commit {held : Bool} (h : Coherent sha256 userId idempotencyKey calls before s)
    (hunderway : Underway sha256 userId idempotencyKey calls before s t reservation (.ok held session)) :
    Coherent sha256 userId idempotencyKey calls before (s.commit calls t reservation held session) := by
  have hbefore : before.Sound := hunderway.unchanged ▸ h.sound
  have hmade := hunderway.madeBy hbefore
  have hcreation := addWithHold_ok hbefore.wellFormed rfl hunderway.runs
  obtain ⟨winner, hfound, hid, hfingerprint, hturned⟩ := hcreation.found hunderway.started
  have hnothing : s.database.findByIdempotencyKey userId idempotencyKey = none := by
    rw [hunderway.unchanged]
    exact hunderway.absent
  constructor
  · have hstep := System.step_sound sha256 hbefore
      ⟨(calls t).environment, .create userId (calls t).items idempotencyKey⟩
    have hdatabase : (s.commit calls t reservation held session).database =
        System.step sha256 before ⟨(calls t).environment, .create userId (calls t).items idempotencyKey⟩ :=
      hmade.alone
    rw [hdatabase]
    exact hstep
  · exact Or.inr ⟨t, hmade⟩
  · exact fun _ hw => nomatch hw
  · intro u
    by_cases hu : u = t
    · subst hu
      have hphase : (s.commit calls u reservation held session).phase u =
          .answered (ReservationService.createVerdict (calls u).items reservation held) :=
        Function.update_self ..
      rw [hphase]
      exact ⟨winner, hfound, createVerdict_answers hid hfingerprint hturned⟩
    · have hphase : (s.commit calls t reservation held session).phase u = s.phase u := Function.update_of_ne hu ..
      rw [hphase]
      have hfits := h.fits u
      -- No other call has written, and none has found anything yet.
      cases hcall : s.phase u with
      | begun => trivial
      | absent => trivial
      | holding reservation' items session' =>
        rw [hcall] at hfits
        exact absurd (Option.some.inj (hfits.writer.symm.trans hunderway.writer)) hu
      | compensated reservation' session' =>
        rw [hcall] at hfits
        exact absurd (Option.some.inj (hfits.writer.symm.trans hunderway.writer)) hu
      | collided =>
        rw [hcall] at hfits
        unfold Fits at hfits
        rw [hnothing] at hfits
        cases hfits
      | answered result =>
        rw [hcall] at hfits
        obtain ⟨other, hother, -⟩ := hfits
        rw [hnothing] at hother
        cases hother
      | aborted failure =>
        rw [hcall] at hfits
        exact hfits

theorem Coherent.advance (h : Coherent sha256 userId idempotencyKey calls before s) :
    Coherent sha256 userId idempotencyKey calls before (s.advance sha256 userId idempotencyKey calls t) := by
  have hfits := h.fits t
  unfold ConcurrentCreates.advance
  cases hphase : s.phase t with
  | begun => exact h.lookup hphase
  | absent => exact h.insert
  | holding reservation items session =>
    cases items with
    | nil =>
      rw [hphase] at hfits
      exact h.commit hfits
    | cons item items => exact h.hold hphase
  | compensated reservation session =>
    rw [hphase] at hfits
    exact h.commit hfits
  | collided =>
    rw [hphase] at hfits
    exact h.recover hphase hfits
  | answered result => exact h
  | aborted failure => exact h

theorem Coherent.abort (h : Coherent sha256 userId idempotencyKey calls before s) :
    Coherent sha256 userId idempotencyKey calls before (s.abort t) := by
  have hcut : Coherent sha256 userId idempotencyKey calls before (s.rollBack t (.aborted none)) :=
    h.rollBack fun other ho => nomatch ho
  unfold ConcurrentCreates.abort
  cases s.phase t with
  | begun => exact hcut
  | absent => exact hcut
  | holding reservation items session => exact hcut
  | compensated reservation session => exact hcut
  | collided => exact hcut
  | answered result => exact h
  | aborted failure => exact h

theorem Coherent.step (h : Coherent sha256 userId idempotencyKey calls before s) (move : CreateMove τ) :
    Coherent sha256 userId idempotencyKey calls before (s.step sha256 userId idempotencyKey calls move) := by
  cases move with
  | advance t => exact h.advance
  | abort t => exact h.abort

end ConcurrentCreates

/-! ## Who writes -/

section Log
variable {τ : Type} {log : List (τ × CreateStep)} {t : τ}

/-- The insert of the call went through, and it alone has written since. -/
def WritesAlone (t : τ) (log : List (τ × CreateStep)) : Prop :=
  ∃ front own, log = front ++ (t, .inserted) :: own ∧ ∀ write ∈ own, write.1 = t

/-- Every hold is issued by the call whose insert went through last. -/
def HoldsFollowInsert (log : List (τ × CreateStep)) : Prop :=
  ∀ front t item rest, log = front ++ (t, .issued item) :: rest → WritesAlone t front

theorem WritesAlone.inserted (t : τ) (log : List (τ × CreateStep)) : WritesAlone t (log ++ [(t, .inserted)]) :=
  ⟨log, [], rfl, fun _ hw => absurd hw List.not_mem_nil⟩

theorem WritesAlone.issued (h : WritesAlone t log) (item : ReservationItemModel) :
    WritesAlone t (log ++ [(t, .issued item)]) := by
  obtain ⟨front, own, rfl, hown⟩ := h
  refine ⟨front, own ++ [(t, .issued item)], by rw [List.append_assoc, List.cons_append], ?_⟩
  intro write hw
  rcases List.mem_append.mp hw with hw | hw
  · exact hown write hw
  · rw [List.mem_singleton.mp hw]

theorem HoldsFollowInsert.nil : HoldsFollowInsert ([] : List (τ × CreateStep)) := by
  intro front t item rest h
  exact absurd h.symm (List.append_ne_nil_of_right_ne_nil _ (List.cons_ne_nil _ _))

theorem HoldsFollowInsert.snoc (h : HoldsFollowInsert log) (write : τ × CreateStep)
    (hissued : ∀ item, write.2 = .issued item → WritesAlone write.1 log) :
    HoldsFollowInsert (log ++ [write]) := by
  intro front t item rest he
  rcases List.eq_nil_or_concat rest with rfl | ⟨rest, last, rfl⟩
  · obtain ⟨rfl, hlast⟩ := List.append_inj' he rfl
    obtain rfl := List.singleton_inj.mp hlast
    exact hissued item rfl
  · rw [List.concat_eq_append, ← List.cons_append, ← List.append_assoc] at he
    exact h front t item rest (List.append_inj' he rfl).1

end Log

namespace ConcurrentCreates
variable {τ : Type} [DecidableEq τ] {sha256 : String → String} {userId : Uuid} {idempotencyKey : String}
  {calls : τ → CreateCall} {before : Database} {s : ConcurrentCreates τ} {t u : τ} {phase : CreatePhase}

theorem moveTo_phase : (s.moveTo t phase).phase t = phase := Function.update_self ..

theorem rollBack_phase : (s.rollBack t phase).phase t = phase := Function.update_self ..

/-- A call whose first transaction raised has collided or is aborted. -/
theorem raise_phase (failure : Failure) : (s.raise t failure).phase t = .collided ∨
    ∃ other, (s.raise t failure).phase t = .aborted other := by
  have hphase : (s.raise t failure).phase t =
      if translateFailure failure = .concurrentReservationCreation then .collided
      else .aborted (some (translateFailure failure)) := rollBack_phase
  rw [hphase]
  split_ifs
  · exact Or.inl rfl
  · exact Or.inr ⟨_, rfl⟩

theorem rollBack_writer (h : (s.rollBack t phase).writer = some u) : s.writer = some u := by
  unfold rollBack at h
  dsimp only at h
  by_cases hw : s.writer = some t
  · rw [if_pos hw] at h
    cases h
  · rwa [if_neg hw] at h

variable (sha256 userId idempotencyKey calls s t) in
/-- An insert raises, waits, or goes through. -/
theorem insert_cases : (∃ failure, s.insert sha256 userId idempotencyKey calls t = s.raise t failure) ∨
    (s.writer.isSome = true ∧ s.insert sha256 userId idempotencyKey calls t = s) ∨
    ∃ reservation items session, Reservation.start (creationDraft sha256 (calls t).environment userId
        (calls t).items idempotencyKey) = .ok reservation ∧
      addReservation (calls t).environment reservation (.start s.database) = .ok items session ∧
      s.insert sha256 userId idempotencyKey calls t =
        ⟨s.database, some t, Function.update s.phase t (.holding reservation items session)⟩ := by
  unfold insert
  dsimp only
  cases hstart : Reservation.start (creationDraft sha256 (calls t).environment userId (calls t).items
      idempotencyKey) with
  | error failure => exact Or.inl ⟨failure, rfl⟩
  | ok reservation =>
    dsimp only
    cases s.database.reservationViolation (toModel (calls t).environment reservation) with
    | some failure => exact Or.inl ⟨failure, rfl⟩
    | none =>
      dsimp only
      by_cases hwriter : s.writer.isSome = true
      · rw [if_pos hwriter]
        exact Or.inr (Or.inl ⟨hwriter, rfl⟩)
      · rw [if_neg hwriter]
        cases hadd : addReservation (calls t).environment reservation (.start s.database) with
        | error failure u => exact Or.inl ⟨failure, rfl⟩
        | ok items session => exact Or.inr (Or.inr ⟨reservation, items, session, rfl, hadd, rfl⟩)

/-- The writer after a step: the one before, or a call whose insert went through. -/
theorem advance_writer (h : (s.advance sha256 userId idempotencyKey calls t).writer = some u) :
    s.writer = some u ∨ u = t ∧ s.phase t = .absent ∧ ∃ reservation items session,
      (s.advance sha256 userId idempotencyKey calls t).phase t = .holding reservation items session := by
  unfold advance at h ⊢
  cases hphase : s.phase t with
  | begun =>
    rw [hphase] at h
    unfold lookup at h
    dsimp only at h
    split at h
    · exact Or.inl (rollBack_writer h)
    · exact Or.inl h
    · exact Or.inl h
  | absent =>
    rw [hphase] at h
    dsimp only at h ⊢
    rcases insert_cases sha256 userId idempotencyKey calls s t with
      ⟨failure, he⟩ | ⟨-, he⟩ | ⟨reservation, items, session, -, -, he⟩
    · rw [he] at h
      exact Or.inl (rollBack_writer h)
    · rw [he] at h
      exact Or.inl h
    · rw [he] at h ⊢
      exact Or.inr ⟨(Option.some.inj h).symm, rfl, reservation, items, session, Function.update_self ..⟩
  | holding reservation items session =>
    rw [hphase] at h
    cases items with
    | nil => cases h
    | cons item items =>
      unfold hold at h
      dsimp only at h
      split at h
      · exact Or.inl (rollBack_writer h)
      · exact Or.inl h
      · exact Or.inl h
  | compensated reservation session =>
    rw [hphase] at h
    cases h
  | collided =>
    rw [hphase] at h
    unfold recover at h
    dsimp only at h
    split at h
    · exact Or.inl h
    · exact Or.inl h
  | answered result =>
    rw [hphase] at h
    exact Or.inl h
  | aborted failure =>
    rw [hphase] at h
    exact Or.inl h

theorem abort_writer (h : (s.abort t).writer = some u) : s.writer = some u := by
  unfold abort at h
  split at h
  · exact h
  · exact h
  · exact rollBack_writer h

/-- A hold is issued by the writer, and an insert that goes through makes its call the writer. -/
theorem Coherent.writes_cases (h : Coherent sha256 userId idempotencyKey calls before s) (move : CreateMove τ) :
    (s.writes sha256 userId idempotencyKey calls move = [] ∧
      ∀ u, (s.step sha256 userId idempotencyKey calls move).writer = some u → s.writer = some u) ∨
    (∃ t, s.writes sha256 userId idempotencyKey calls move = [(t, .inserted)] ∧
      ∀ u, (s.step sha256 userId idempotencyKey calls move).writer = some u → u = t) ∨
    (∃ t item, s.writes sha256 userId idempotencyKey calls move = [(t, .issued item)] ∧ s.writer = some t ∧
      ∀ u, (s.step sha256 userId idempotencyKey calls move).writer = some u → u = t) := by
  cases move with
  | abort t => exact Or.inl ⟨rfl, fun u => abort_writer⟩
  | advance t =>
    unfold ConcurrentCreates.step ConcurrentCreates.writes
    dsimp only
    have hsame : s.phase t ≠ .absent → ∀ u,
        (s.advance sha256 userId idempotencyKey calls t).writer = some u → s.writer = some u :=
      fun hne u hu => (advance_writer hu).resolve_right fun hi => hne hi.2.1
    cases hphase : s.phase t with
    | begun => exact Or.inl ⟨rfl, hsame (by rw [hphase]; nofun)⟩
    | compensated reservation session => exact Or.inl ⟨rfl, hsame (by rw [hphase]; nofun)⟩
    | collided => exact Or.inl ⟨rfl, hsame (by rw [hphase]; nofun)⟩
    | answered result => exact Or.inl ⟨rfl, hsame (by rw [hphase]; nofun)⟩
    | aborted failure => exact Or.inl ⟨rfl, hsame (by rw [hphase]; nofun)⟩
    | holding reservation items session =>
      have hsame := hsame (by rw [hphase]; nofun)
      cases items with
      | nil => exact Or.inl ⟨rfl, hsame⟩
      | cons item items =>
        have hfits := h.fits t
        rw [hphase] at hfits
        refine Or.inr (Or.inr ⟨t, item, rfl, hfits.writer, fun u hu => ?_⟩)
        exact Option.some.inj ((hsame u hu).symm.trans hfits.writer)
    | absent =>
      have hadvance : s.advance sha256 userId idempotencyKey calls t =
          s.insert sha256 userId idempotencyKey calls t := by
        unfold ConcurrentCreates.advance
        rw [hphase]
      rw [hadvance]
      rcases insert_cases sha256 userId idempotencyKey calls s t with
        ⟨failure, he⟩ | ⟨-, he⟩ | ⟨reservation, items, session, -, -, he⟩
      · rw [he]
        refine Or.inl ⟨?_, fun u => rollBack_writer⟩
        rcases raise_phase (s := s) (t := t) failure with hraised | ⟨other, hraised⟩
        · rw [hraised]
        · rw [hraised]
      · rw [he, hphase]
        exact Or.inl ⟨rfl, fun u => id⟩
      · rw [he]
        dsimp only
        rw [Function.update_self]
        exact Or.inr (Or.inl ⟨t, rfl, fun u hu => (Option.some.inj hu).symm⟩)

variable (sha256 userId idempotencyKey calls before) in
/-- The state of a run, and what has been written in it. -/
structure Orderly (log : List (τ × CreateStep)) (s : ConcurrentCreates τ) : Prop where
  coherent : Coherent sha256 userId idempotencyKey calls before s
  issued : HoldsFollowInsert log
  writer : ∀ u, s.writer = some u → WritesAlone u log

theorem Orderly.step {log : List (τ × CreateStep)}
    (h : Orderly sha256 userId idempotencyKey calls before log s) (move : CreateMove τ) :
    Orderly sha256 userId idempotencyKey calls before (log ++ s.writes sha256 userId idempotencyKey calls move)
      (s.step sha256 userId idempotencyKey calls move) := by
  have hcoherent := h.coherent.step move
  rcases h.coherent.writes_cases move with ⟨hw, hwriter⟩ | ⟨t, hw, hwriter⟩ | ⟨t, item, hw, hown, hwriter⟩
  · rw [hw, List.append_nil]
    exact ⟨hcoherent, h.issued, fun u hu => h.writer u (hwriter u hu)⟩
  · rw [hw]
    refine ⟨hcoherent, h.issued.snoc _ (fun _ hi => nomatch hi), fun u hu => ?_⟩
    rw [hwriter u hu]
    exact .inserted t log
  · rw [hw]
    have halone := h.writer t hown
    refine ⟨hcoherent, h.issued.snoc _ fun _ _ => halone, fun u hu => ?_⟩
    rw [hwriter u hu]
    exact halone.issued item

theorem run_orderly (hsound : before.Sound) (moves : List (CreateMove τ)) :
    Orderly sha256 userId idempotencyKey calls before
      (written sha256 userId idempotencyKey calls (.start before) moves)
      (run sha256 userId idempotencyKey calls (.start before) moves) := by
  have hstart : Orderly sha256 userId idempotencyKey calls before [] (.start before) :=
    ⟨.start hsound, .nil, fun _ hu => nomatch hu⟩
  have hrun := Runs.run_trace (I := Orderly sha256 userId idempotencyKey calls before)
    (fun log s move h => h.step move) hstart moves
  rwa [List.nil_append] at hrun

end ConcurrentCreates

/-! ## Every call can end -/

/-- The steps a call takes at most, when it does not have to wait. -/
def CreateCall.stepsLeft (call : CreateCall) : CreatePhase → ℕ
  | .begun => call.items.length + 3
  | .absent => call.items.length + 2
  | .holding _ items _ => items.length + 1
  | .compensated _ _ => 1
  | .collided => 1
  | .answered _ => 0
  | .aborted _ => 0

namespace ConcurrentCreates
variable {τ : Type} [DecidableEq τ] {sha256 : String → String} {userId : Uuid} {idempotencyKey : String}
  {calls : τ → CreateCall} {before : Database} {s : ConcurrentCreates τ} {t u : τ}

theorem raise_stepsLeft (call : CreateCall) (failure : Failure) :
    call.stepsLeft ((s.raise t failure).phase t) ≤ 1 := by
  rcases raise_phase (s := s) (t := t) failure with hraised | ⟨other, hraised⟩
  · rw [hraised]
    exact Nat.le_refl 1
  · rw [hraised]
    exact Nat.zero_le 1

theorem lookup_lowers :
    (calls t).stepsLeft ((s.lookup sha256 userId idempotencyKey calls t).phase t) <
      (calls t).stepsLeft .begun := by
  change _ < (calls t).items.length + 3
  unfold lookup
  cases getByIdempotencyKey userId idempotencyKey (.start s.database) with
  | error failure u =>
    have hraised := raise_stepsLeft (s := s) (t := t) (calls t) failure
    dsimp only
    omega
  | ok existing u =>
    cases existing with
    | none =>
      dsimp only
      rw [moveTo_phase]
      exact Nat.lt_succ_self _
    | some existing =>
      dsimp only
      rw [moveTo_phase]
      exact Nat.succ_pos _

/-- A call about to insert is not the one whose insert stands, so it is not its own insert that it waits for. -/
theorem Coherent.insert_lowers (h : Coherent sha256 userId idempotencyKey calls before s)
    (hfree : s.writer = none ∨ s.writer = some t) (hphase : s.phase t = .absent) :
    (calls t).stepsLeft ((s.insert sha256 userId idempotencyKey calls t).phase t) <
      (calls t).stepsLeft .absent := by
  change _ < (calls t).items.length + 2
  rcases insert_cases sha256 userId idempotencyKey calls s t with
    ⟨failure, he⟩ | ⟨hwriter, -⟩ | ⟨reservation, items, session, hstart, hadd, he⟩
  · have hraised := raise_stepsLeft (s := s) (t := t) (calls t) failure
    rw [he]
    omega
  · rcases hfree with hnone | hsome
    · rw [hnone] at hwriter
      cases hwriter
    · have hwrites := h.writing t hsome
      rw [hphase] at hwrites
      exact hwrites.elim
  · have hitems := congrArg List.length (addReservation_ok hadd).models
    rw [List.length_map, Reservation.start_items hstart] at hitems
    rw [he]
    dsimp only
    rw [Function.update_self]
    change items.length + 1 < (calls t).items.length + 2
    have hlength : items.length = (calls t).items.length := hitems
    omega

theorem hold_lowers (reservation : Reservation) (item : ReservationItemModel) (items : List ReservationItemModel)
    (session : Session) :
    (calls t).stepsLeft ((s.hold calls t reservation item items session).phase t) <
      (calls t).stepsLeft (.holding reservation (item :: items) session) := by
  change _ < items.length + 2
  unfold hold
  dsimp only
  cases holdItem (calls t).environment (toModel (calls t).environment reservation) item session with
  | error failure u =>
    have hraised := raise_stepsLeft (s := s) (t := t) (calls t) failure
    dsimp only
    omega
  | ok held u =>
    cases held with
    | true =>
      dsimp only
      rw [moveTo_phase]
      exact Nat.lt_succ_self _
    | false =>
      dsimp only
      rw [moveTo_phase]
      change 1 < items.length + 2
      omega

theorem commit_stepsLeft (reservation : Reservation) (inventoryHeld : Bool) (session : Session) :
    (calls t).stepsLeft ((s.commit calls t reservation inventoryHeld session).phase t) = 0 := by
  unfold commit
  dsimp only
  rw [Function.update_self]
  rfl

theorem recover_stepsLeft :
    (calls t).stepsLeft ((s.recover sha256 userId idempotencyKey calls t).phase t) = 0 := by
  unfold recover
  cases getByIdempotencyKey userId idempotencyKey (.start s.database) with
  | error failure u =>
    dsimp only
    rw [moveTo_phase]
    rfl
  | ok existing u =>
    dsimp only
    rw [moveTo_phase]
    rfl

/-- A step of a call that is not over and does not have to wait. -/
theorem Coherent.advance_lowers (h : Coherent sha256 userId idempotencyKey calls before s)
    (hfree : s.writer = none ∨ s.writer = some t) (hover : ¬ (s.phase t).IsOver) :
    (calls t).stepsLeft ((s.advance sha256 userId idempotencyKey calls t).phase t) <
      (calls t).stepsLeft (s.phase t) := by
  unfold ConcurrentCreates.advance
  cases hphase : s.phase t with
  | begun => exact lookup_lowers
  | absent => exact h.insert_lowers hfree hphase
  | holding reservation items session =>
    cases items with
    | nil =>
      dsimp only
      rw [commit_stepsLeft]
      exact Nat.succ_pos _
    | cons item items => exact hold_lowers reservation item items session
  | compensated reservation session =>
    dsimp only
    rw [commit_stepsLeft]
    exact Nat.one_pos
  | collided =>
    dsimp only
    rw [recover_stepsLeft]
    exact Nat.one_pos
  | answered result =>
    rw [hphase] at hover
    exact absurd trivial hover
  | aborted failure =>
    rw [hphase] at hover
    exact absurd trivial hover

/-- A call nobody stands in the way of ends, and leaves no row behind. -/
theorem Coherent.exists_over (h : Coherent sha256 userId idempotencyKey calls before s)
    (hfree : s.writer = none ∨ s.writer = some t) :
    ∃ more, ((s.run sha256 userId idempotencyKey calls more).phase t).IsOver ∧
      (s.run sha256 userId idempotencyKey calls more).writer = none ∧
      Coherent sha256 userId idempotencyKey calls before (s.run sha256 userId idempotencyKey calls more) := by
  induction hn : (calls t).stepsLeft (s.phase t) using Nat.strong_induction_on generalizing s with
  | _ n ih =>
    subst hn
    by_cases hover : (s.phase t).IsOver
    · refine ⟨[], hover, hfree.resolve_right fun hsome => ?_, h⟩
      have hwrites := h.writing t hsome
      revert hover hwrites
      cases s.phase t <;> exact fun hover hwrites => by first | exact hover.elim | exact hwrites.elim
    · have hlowers := h.advance_lowers hfree hover
      have hfree' : (s.advance sha256 userId idempotencyKey calls t).writer = none ∨
          (s.advance sha256 userId idempotencyKey calls t).writer = some t := by
        cases hwriter : (s.advance sha256 userId idempotencyKey calls t).writer with
        | none => exact Or.inl rfl
        | some u =>
          rcases advance_writer hwriter with hsame | ⟨rfl, -⟩
          · rw [hsame] at hfree
            exact Or.inr (hfree.resolve_left nofun)
          · exact Or.inr rfl
      obtain ⟨more, hmore⟩ := ih _ hlowers h.advance hfree' rfl
      exact ⟨.advance t :: more, hmore⟩

/-- A call that waits ends after the one it waits for. -/
theorem Coherent.exists_end (h : Coherent sha256 userId idempotencyKey calls before s) (t : τ) :
    ∃ more, ((s.run sha256 userId idempotencyKey calls more).phase t).IsOver := by
  cases hwriter : s.writer with
  | none =>
    obtain ⟨more, hover, -⟩ := h.exists_over (t := t) (Or.inl hwriter)
    exact ⟨more, hover⟩
  | some u =>
    obtain ⟨first, -, hnone, hcoherent⟩ := h.exists_over (t := u) (Or.inr hwriter)
    obtain ⟨more, hover, -⟩ := hcoherent.exists_over (t := t) (Or.inl hnone)
    refine ⟨first ++ more, ?_⟩
    have hrun : s.run sha256 userId idempotencyKey calls (first ++ more) =
        (s.run sha256 userId idempotencyKey calls first).run sha256 userId idempotencyKey calls more :=
      Runs.run_append ..
    rw [hrun]
    exact hover

/-! ## Runs -/

variable (sha256 userId idempotencyKey calls before) in
/-- The calls come to one create: no second row is stored under the key, only a call whose insert stands issues
holds, what is committed is made by one of them, and all are answered from that. -/
structure ActAsOne (log : List (τ × CreateStep)) (s : ConcurrentCreates τ) : Prop where
  unique : ∀ row ∈ s.database.reservations, ∀ other ∈ s.database.reservations,
    row.userId = userId → row.idempotencyKey = idempotencyKey →
      other.userId = userId → other.idempotencyKey = idempotencyKey → row = other
  writer : ∀ t, s.writer = some t ↔ (s.phase t).Writes
  issued : HoldsFollowInsert log
  committed : s.database = before ∨ ∃ t, MadeBy sha256 userId idempotencyKey (calls t) before s.database
  answers : ∀ t result, s.phase t = .answered result →
    ∃ winner, s.database.findByIdempotencyKey userId idempotencyKey = some winner ∧
      AnswersFor sha256 idempotencyKey (calls t).items winner result
  aborts : ∀ t failure, s.phase t = .aborted (some failure) → failure.IsOther
  ends : ∀ t, ∃ more, ((s.run sha256 userId idempotencyKey calls more).phase t).IsOver

theorem Orderly.actAsOne {log : List (τ × CreateStep)}
    (h : Orderly sha256 userId idempotencyKey calls before log s) :
    ActAsOne sha256 userId idempotencyKey calls before log s where
  unique row hrow other hother huser hkey huser' hkey' :=
    h.coherent.sound.wellFormed.uniqueRequest row hrow other hother (huser.trans huser'.symm)
      (hkey.trans hkey'.symm)
  writer t := by
    refine ⟨h.coherent.writing t, fun hwrites => ?_⟩
    have hfits := h.coherent.fits t
    revert hwrites hfits
    cases s.phase t with
    | holding reservation items session => exact fun _ hfits => hfits.writer
    | compensated reservation session => exact fun _ hfits => hfits.writer
    | begun => exact fun hwrites _ => hwrites.elim
    | absent => exact fun hwrites _ => hwrites.elim
    | collided => exact fun hwrites _ => hwrites.elim
    | answered result => exact fun hwrites _ => hwrites.elim
    | aborted failure => exact fun hwrites _ => hwrites.elim
  issued := h.issued
  committed := h.coherent.committed
  answers t result hphase := by
    have hfits := h.coherent.fits t
    rw [hphase] at hfits
    exact hfits
  aborts t failure hphase := by
    have hfits := h.coherent.fits t
    rw [hphase] at hfits
    exact hfits failure rfl
  ends t := h.coherent.exists_end t

/-- From every database the system can reach, for any number of calls and in every order of their steps. -/
theorem concurrent_creates_act_as_one (sha256 : String → String) {database : Database} (hinit : database.Initial)
    (events : List Event) (userId : Uuid) (idempotencyKey : String) (calls : τ → CreateCall)
    (moves : List (CreateMove τ)) :
    ActAsOne sha256 userId idempotencyKey calls (System.run sha256 database events)
      (written sha256 userId idempotencyKey calls (.start (System.run sha256 database events)) moves)
      (run sha256 userId idempotencyKey calls (.start (System.run sha256 database events)) moves) :=
  (run_orderly (System.run_sound sha256 hinit events) moves).actAsOne

end ConcurrentCreates

/-- Two calls with the same items and one with others. -/
def Deployment.rivals : ℕ → CreateCall
  | 0 => ⟨Deployment.environment 1000 100 0, [Deployment.line 1 10 1 Deployment.one_unit]⟩
  | 1 => ⟨Deployment.environment 2000 101 0, [Deployment.line 1 10 1 Deployment.one_unit]⟩
  | _ => ⟨Deployment.environment 3000 102 0, [Deployment.line 2 20 1 Deployment.one_unit]⟩

/-- A digest that tells the two kinds of items apart. -/
def Deployment.digest (text : String) : String :=
  if text = canonicalItems (Deployment.rivals 0).items then Deployment.sha256 text else "".pushn '0' 64

/-- The first call is cut off while the others queue behind its insert; then the second stores its reservation,
and the third collides with it. -/
def Deployment.queued : List (CreateMove ℕ) :=
  [.advance 0, .advance 1, .advance 2, .advance 0, .advance 1, .advance 2, .advance 0, .abort 0, .advance 1,
    .advance 2, .advance 1, .advance 1, .advance 2, .advance 2]

theorem queued_creates_act_as_one :
    ConcurrentCreates.ActAsOne Deployment.digest 7 "key" Deployment.rivals Deployment.database
      (ConcurrentCreates.written Deployment.digest 7 "key" Deployment.rivals (.start Deployment.database)
        Deployment.queued)
      (ConcurrentCreates.run Deployment.digest 7 "key" Deployment.rivals (.start Deployment.database)
        Deployment.queued) :=
  ConcurrentCreates.concurrent_creates_act_as_one Deployment.digest Deployment.initial [] 7 "key"
    Deployment.rivals Deployment.queued

end InventoryReservation
