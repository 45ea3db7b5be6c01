import InventoryReservation.Guarantees.Lifecycle

/-! # Conservation of stock

The reserved units of an internal offer are the units that held allocations have there, and external
offers reserve nothing, as long as confirm and cancel are only asked of reservations whose internal
allocations are held or already settled. The guarded updates of the offers see the counter alone, so
without that condition a walk draws on units of other reservations.
-/

namespace InventoryReservation
set_option autoImplicit false

open Relational

/-- Reserved units are held units at internal providers, and there are none at external ones. -/
structure Database.StockConserved (database : Database) : Prop where
  internal : ∀ offer ∈ database.offers.rows, ∀ provider ∈ database.providers.find? offer.providerId,
    provider.kind = .internal → offer.reserved = database.heldAt offer.identity
  external : ∀ offer ∈ database.offers.rows, ∀ provider ∈ database.providers.find? offer.providerId,
    provider.kind = .external → offer.reserved = 0

/-- The step is made for this reservation. -/
def Event.addresses (event : Event) (database : Database) (r : Uuid) : Prop :=
  (∃ walk ∈ event.walks database, walk.reservation.id = r) ∨
    (∃ userId items idempotencyKey, event.request = .create userId items idempotencyKey) ∧
      event.environment.reservationId = r

def Request.isCreate : Request → Bool
  | create _ _ _ => true
  | _ => false

theorem Request.isCreate_iff {request : Request} : request.isCreate = true ↔
    ∃ userId items idempotencyKey, request = .create userId items idempotencyKey := by
  cases request <;> simp [isCreate]

instance (event : Event) (database : Database) (r : Uuid) : Decidable (event.addresses database r) :=
  decidable_of_iff ((∃ walk ∈ event.walks database, walk.reservation.id = r) ∨
      event.request.isCreate = true ∧ event.environment.reservationId = r)
    (or_congr_right (and_congr_left' Request.isCreate_iff))

/-- The step settled units at offers only where its own reservations held them, and left what other
reservations have as it was. -/
structure SettlesOwn (event : Event) (s t : Database) : Prop where
  drawsHeld : System.DrawsHeld event s
  others : ∀ r, ¬ event.addresses s r → t.aggregate? r = s.aggregate? r

/-- Every internal allocation of the reservation has one of these statuses. -/
def Database.InternalAmong (database : Database) (reservationId : Uuid) (statuses : List AllocationStatus) :
    Prop :=
  ∀ row ∈ database.allocationRows reservationId, row.provider.kind = .internal →
    row.allocation.status ∈ statuses

instance (database : Database) (reservationId : Uuid) (statuses : List AllocationStatus) :
    Decidable (database.InternalAmong reservationId statuses) :=
  inferInstanceAs (Decidable (∀ row ∈ database.allocationRows reservationId, _))

/-- A confirm or cancel that gets past the guards is addressed to a reservation whose internal
allocations are held, or settled in the way that is asked for. -/
def Request.settlesHeld (database : Database) : Request → Prop
  | .confirm reservationId userId =>
    ∀ reservation ∈ database.findOwned reservationId userId,
      reservation.status ∈ [.confirmed, .cancelled] ∨
        database.InternalAmong reservationId [.held, .confirmed]
  | .cancel reservationId userId =>
    ∀ reservation ∈ database.findOwned reservationId userId,
      reservation.status ∈ [.cancelled, .confirmed, .confirming] ∨
        database.InternalAmong reservationId [.held, .released]
  | _ => True

instance (database : Database) (request : Request) : Decidable (request.settlesHeld database) :=
  match request with
  | .confirm _ _ => inferInstanceAs (Decidable (∀ reservation ∈ database.findOwned _ _, _))
  | .cancel _ _ => inferInstanceAs (Decidable (∀ reservation ∈ database.findOwned _ _, _))
  | .create _ _ _ => isTrue trivial
  | .expireBatch _ => isTrue trivial
  | .reconcileBatch _ _ _ => isTrue trivial
  | .setLevel _ _ _ _ _ => isTrue trivial
  | .removeLevel _ _ => isTrue trivial

/-! ## Internal allocations -/

/-- Internal allocations are settled at once: their status follows from the one of the reservation. -/
structure Aggregate.InternalSettled (aggregate : Aggregate) : Prop where
  pending : aggregate.reservation.status = .pending → ∀ view ∈ aggregate.allocations,
    view.provider.kind = .internal → view.allocation.status = .held
  confirming : aggregate.reservation.status = .confirming → ∀ view ∈ aggregate.allocations,
    view.provider.kind = .internal → view.allocation.status = .confirmed
  releasing : aggregate.reservation.status = .releasing → ∀ view ∈ aggregate.allocations,
    view.provider.kind = .internal → view.allocation.status = .released

section Walks
variable {environment : Environment} {context : ProviderOperationContext} {before after : Aggregate}

theorem Aggregate.Confirmed.internalSettled (h : before.Confirmed environment context after) :
    after.InternalSettled := by
  have hpass : (Pass.confirm context).Applies environment before after := h
  have hstatus : after.reservation.status = .failed ∨ after.reservation.status = .confirming ∨
      after.reservation.status = .confirmed := by
    rcases h.cases with ⟨-, hs⟩ | ⟨-, hs⟩ | ⟨-, hs⟩
    · exact Or.inl hs
    · exact Or.inr (Or.inl hs)
    · exact Or.inr (Or.inr hs)
  refine ⟨fun hs => ?_, fun _ view hv hk => ?_, fun hs => ?_⟩
  · rw [hs] at hstatus
    exact absurd hstatus (by decide)
  · obtain ⟨view', -, rfl⟩ := hpass.mem_allocations hv
    rw [Pass.settle_provider] at hk
    exact congrArg confirmation.allocationStatus (Settlement.outcome_of_internal hk)
  · rw [hs] at hstatus
    exact absurd hstatus (by decide)

theorem Aggregate.Released.internalSettled {terminalStatus : ReservationStatusModel}
    (h : before.Released environment context terminalStatus after)
    (hterminal : terminalStatus ∈ [.cancelled, .expired, .failed]) : after.InternalSettled := by
  have hpass : (Pass.release context terminalStatus).Applies environment before after := h
  have hstatus : after.reservation.status ∈ [.releasing, .cancelled, .expired, .failed] := by
    rcases h.cases with ⟨-, hs, -⟩ | ⟨-, hs, -⟩
    · rw [hs]
      decide
    · rw [hs]
      exact List.mem_cons_of_mem _ hterminal
  refine ⟨fun hs => ?_, fun hs => ?_, fun _ view hv hk => ?_⟩
  · rw [hs] at hstatus
    exact absurd hstatus (by decide)
  · rw [hs] at hstatus
    exact absurd hstatus (by decide)
  · obtain ⟨view', -, rfl⟩ := hpass.mem_allocations hv
    rw [Pass.settle_provider] at hk
    exact congrArg releasing.allocationStatus (Settlement.outcome_of_internal hk)

theorem Aggregate.Created.internalSettled {reservation : Reservation} {exchanges : List Exchange}
    {held : Bool} {draft : ReservationDraft} (hstart : Reservation.start draft = .ok reservation)
    (h : Aggregate.Created environment reservation exchanges held after) : after.InternalSettled := by
  cases h with
  | held _ h =>
    have hs : after.reservation.status = .pending := by
      rw [h.status, (Reservation.start_ok hstart).2.2.2.2.2.1]
      rfl
    refine ⟨fun _ view hv _ => h.held view hv, fun hc => ?_, fun hr => ?_⟩
    · rw [hs] at hc
      cases hc
    · rw [hs] at hr
      cases hr
  | compensated before _ done hdone h hr => exact hr.internalSettled (by decide)

end Walks

theorem Database.InternalAmong.view {database : Database} {r : Uuid} {aggregate : Aggregate}
    {statuses : List AllocationStatus} (h : database.InternalAmong r statuses)
    (ha : database.aggregate? r = some aggregate) {view : AllocationView}
    (hv : view ∈ aggregate.allocations) (hk : view.provider.kind = .internal) :
    view.allocation.status ∈ statuses := by
  rw [(Database.aggregate?_eq_some_iff.mp ha).2.2.1] at hv
  obtain ⟨row, hrow, rfl⟩ := List.mem_map.mp hv
  exact h row hrow hk

/-- Where internal allocations are held or already settled, a walk draws held units only. -/
theorem Settlement.draws_held {ω : Type} {S : Settlement ω} {row : AllocationRow}
    (hdraws : S.draws row) (h : row.allocation.status ∈ [.held, S.settledStatus]) :
    row.allocation.status = .held := by
  rcases List.mem_cons.mp h with h | h
  · exact h
  · exact absurd (List.mem_singleton.mp h) hdraws.1

/-- The walks of such requests draw held units only. -/
theorem Request.settlesHeld.drawsHeld {event : Event} {database : Database}
    (hok : event.request.settlesHeld database)
    (hinternal : ∀ r aggregate, database.aggregate? r = some aggregate → aggregate.InternalSettled) :
    System.DrawsHeld event database := by
  intro walk hwalk before hb view hv hdraws
  rw [Option.mem_def] at hb
  have hstatuses := hinternal walk.reservation.id before hb
  obtain ⟨hoccasion, hstored⟩ := event.occasion hwalk
  have hreservation : before.reservation = walk.reservation :=
    Option.some.inj ((Database.aggregate?_eq_some_iff.mp hb).1.symm.trans hstored)
  cases hoccasion with
  | confirm reservation hrequest hconfirmed hcancelled =>
    rw [hrequest] at hok
    rcases hok reservation (Database.findOwned_self hstored) with hguarded | hamong
    · have hor : reservation.status = .confirmed ∨ reservation.status = .cancelled := by
        simpa using hguarded
      exact absurd hor (not_or.mpr ⟨hconfirmed, hcancelled⟩)
    · exact Settlement.draws_held (S := confirmation) hdraws (hamong.view hb hv hdraws.2)
  | cancel reservation hrequest hcancelled hconfirmed hconfirming =>
    rw [hrequest] at hok
    rcases hok reservation (Database.findOwned_self hstored) with hguarded | hamong
    · have hor : reservation.status = .cancelled ∨ reservation.status = .confirmed ∨
          reservation.status = .confirming := by simpa using hguarded
      exact absurd hor (not_or.mpr ⟨hcancelled, not_or.mpr ⟨hconfirmed, hconfirming⟩⟩)
    · exact Settlement.draws_held (S := releasing) hdraws (hamong.view hb hv hdraws.2)
  | expire reservation limit hrequest hpending =>
    exact hstatuses.pending (hreservation ▸ hpending) view hv hdraws.2
  | resumeRelease reservation limit maxAttempts retryBaseDelay terminalStatus hrequest hreleasing
      htarget hterminal =>
    exact absurd (hstatuses.releasing (hreservation ▸ hreleasing) view hv hdraws.2) hdraws.1
  | resumeConfirm reservation limit maxAttempts retryBaseDelay hrequest hconfirming =>
    exact absurd (hstatuses.confirming (hreservation ▸ hconfirming) view hv hdraws.2) hdraws.1

/-! ## Balances -/

/-- The balance of every product and provider, whether there is an offer or not. -/
structure Database.Balanced (database : Database) : Prop where
  internal : ∀ k provider, database.providers.find? k.2 = some provider → provider.kind = .internal →
    database.reservedAt k = database.heldAt k
  external : ∀ k provider, database.providers.find? k.2 = some provider → provider.kind = .external →
    database.reservedAt k = 0

theorem Database.reservedAt_of_mem {database : Database} {offer : ProductOfferModel}
    (h : offer ∈ database.offers.rows) : database.reservedAt offer.identity = offer.reserved := by
  rw [reservedAt, Table.find?_of_mem h]
  rfl

theorem Database.Balanced.stockConserved {database : Database} (h : database.Balanced) :
    database.StockConserved where
  internal offer ho provider hp hk := by
    rw [← Database.reservedAt_of_mem ho]
    exact h.internal offer.identity provider hp hk
  external offer ho provider hp hk := by
    rw [← Database.reservedAt_of_mem ho]
    exact h.external offer.identity provider hp hk

theorem Database.Balanced.of_initial {database : Database} (hinit : database.Initial)
    (hreserved : ∀ offer ∈ database.offers.rows, offer.reserved = 0) : database.Balanced := by
  have hzero : ∀ k, database.reservedAt k = 0 := by
    intro k
    unfold Database.reservedAt
    cases ho : database.offers.find? k with
    | none => rfl
    | some offer => exact hreserved offer (Table.mem_of_find? ho)
  have hheld : ∀ k, database.heldAt k = 0 := by
    intro k
    unfold Database.heldAt
    rw [hinit.allocations]
    rfl
  exact ⟨fun k _ _ _ => (hzero k).trans (hheld k).symm, fun k _ _ _ => hzero k⟩

theorem Conserves.balanced {s t : Database} (h : Conserves s t) (hs : s.Balanced) : t.Balanced where
  internal k provider hp hk := by
    rw [h.providers] at hp
    have hmoved := h.internal k provider hp hk
    have hbefore := hs.internal k provider hp hk
    omega
  external k provider hp hk := by
    rw [h.providers] at hp
    rw [h.external k provider hp hk]
    exact hs.external k provider hp hk

/-! ## Runs -/

namespace System
variable {sha256 : String → String}

theorem maintains_internalSettled :
    Maintains sha256 (fun _ _ => True) Aggregate.InternalSettled where
  created _ _ hstart hcreated := hcreated.internalSettled hstart
  walked := by
    intro database event walk before after _ hwalk _ _ _ _ happlies _
    obtain ⟨model, pass⟩ := walk
    cases pass with
    | confirm context => exact Aggregate.Confirmed.internalSettled happlies
    | release context terminalStatus => exact Aggregate.Released.internalSettled happlies (event.terminal hwalk)

theorem run_internalSettled (sha256 : String → String) {database : Database} (hinit : database.Initial)
    (events : List Event) :
    ∀ r aggregate, (run sha256 database events).aggregate? r = some aggregate →
      aggregate.InternalSettled :=
  maintains_internalSettled.run hinit (.of_all (fun _ _ => trivial) database events)

/-- What a step is not made for, it leaves as it is. -/
theorem step_others {database : Database} (hsound : database.Sound) {event : Event} {r : Uuid}
    (hr : ¬ event.addresses database r) :
    (step sha256 database event).aggregate? r = database.aggregate? r := by
  have hchange := (step_transition sha256 hsound event).changes r
  generalize database.aggregate? r = before? at hchange ⊢
  generalize (step sha256 database event).aggregate? r = after? at hchange ⊢
  cases hchange with
  | kept => rfl
  | created userId items idempotencyKey reservation held after hrequest hstart hid hcreated =>
    refine absurd (Or.inr ⟨⟨userId, items, idempotencyKey, hrequest⟩, ?_⟩) hr
    exact (Reservation.start_ok hstart).1.symm.trans hid
  | walked walk before after hwalk hreservation hid happlies hanswered =>
    exact absurd (Or.inl ⟨walk, hwalk, hid⟩) hr

theorem run_balanced {database : Database} {events : List Event} (hinit : database.Initial)
    (hreserved : ∀ offer ∈ database.offers.rows, offer.reserved = 0)
    (hadmissible : Runs.Admissible (step sha256)
      (fun database event => event.request.settlesHeld database) database events) :
    (run sha256 database events).Balanced := by
  have hrun := Runs.run_invariant (I := fun database => database.Sound ∧
      (∀ r aggregate, database.aggregate? r = some aggregate → aggregate.InternalSettled) ∧
      database.Balanced)
    (fun database event hd hok => ⟨step_sound sha256 hd.1 event,
      maintains_internalSettled.step hd.1 hd.2.1 trivial,
      ((step_transition sha256 hd.1 event).conserves (hok.drawsHeld hd.2.1)).balanced hd.2.2⟩)
    ⟨.of_initial hinit, run_internalSettled sha256 hinit [], .of_initial hinit hreserved⟩
    hadmissible
  exact hrun.2.2

/-- As long as confirm and cancel are asked of reservations whose internal allocations are held or
settled already, stock is conserved in every state, and no step settles units another reservation
holds. -/
theorem run_stock_conserved {database : Database} {events : List Event} (hinit : database.Initial)
    (hreserved : ∀ offer ∈ database.offers.rows, offer.reserved = 0)
    (hadmissible : Runs.Admissible (step sha256)
      (fun database event => event.request.settlesHeld database) database events) :
    (run sha256 database events).StockConserved ∧
      ∀ earlier event, events = earlier ++ [event] →
        SettlesOwn event (run sha256 database earlier) (run sha256 database events) := by
  refine ⟨(run_balanced hinit hreserved hadmissible).stockConserved, ?_⟩
  rintro earlier event rfl
  obtain ⟨hearlier, hok, -⟩ := Runs.Admissible.append_iff.mp hadmissible
  have hstep : run sha256 database (earlier ++ [event]) =
      step sha256 (run sha256 database earlier) event := Runs.run_append _ _ _ _
  rw [hstep]
  exact ⟨hok.drawsHeld (run_internalSettled sha256 hinit earlier),
    fun r hr => step_others (run_sound sha256 hinit earlier) hr⟩

/-- Two customers hold units of one offer, one confirms and one cancels. -/
theorem run_stock_conserved_two :
    (run Deployment.sha256 Deployment.database
      [Deployment.create 1000 100 0 [Deployment.line 1 10 2] "a",
        Deployment.create 1100 200 0 [Deployment.line 1 10 3] "b",
        Deployment.confirm 1200 100 10, Deployment.cancel 1300 200 10]).StockConserved :=
  (run_stock_conserved Deployment.initial (by decide) (by decide +kernel)).1

/-- Confirming an expired reservation consumes the units another reservation holds. -/
theorem confirm_consumes_others :
    ¬ ∀ (sha256 : String → String) (database : Database) (events : List Event),
      database.Initial → (∀ offer ∈ database.offers.rows, offer.reserved = 0) →
        (run sha256 database events).StockConserved := by
  intro h
  refine absurd (h Deployment.sha256 Deployment.database
    [Deployment.create 1000 100 0 [Deployment.line 1 10 2] "a", Deployment.expire 1000,
      Deployment.create 1100 200 1000 [Deployment.line 1 10 2] "b",
      Deployment.confirm 1200 100 1010] Deployment.initial (by decide)).internal ?_
  decide +kernel

end System
end InventoryReservation
