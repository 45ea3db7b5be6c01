import InventoryReservation.Meaning.HoldLoop

/-! # What a compensation asks the providers

When an item is refused, `create` releases the holds before it. The walk goes over the rows in the order
of its query and stops at the first that raises, so the requests it sends (`Database.releasesSent`) are
those for the rows up to there.
-/

namespace InventoryReservation
set_option autoImplicit false

open Relational Transactional

/-! ## The requests of a compensation -/

/-- The row a releasing walk finds for a hold. -/
def Database.grantedRow (database : Database) (granted : Granted) : Option AllocationRow :=
  (database.providers.find? granted.hold.providerId).map fun provider =>
    ⟨granted.allocation, granted.item.productId, provider⟩

/-- The rows of the compensation, in the order its query yields them. -/
def Database.releaseRows (database : Database) (environment : Environment) (granted : List Granted) :
    List AllocationRow :=
  (granted.filterMap database.grantedRow).insertionSort fun a b =>
    environment.scanRank a.allocation.id ≤ environment.scanRank b.allocation.id

/-- The units held for this row can be given back to the offer they were held at. -/
def Database.givesBack (database : Database) (row : AllocationRow) : Bool :=
  match database.updated (.tryHold row.allocation.quantity.units)
      (row.productId, row.allocation.providerId) with
  | .ok (some offer) =>
    ((OfferStatement.releaseHold row.allocation.quantity.units).apply offer).any fun offer =>
      offer.violation.isNone
  | _ => false

/-- The release request for one row of a compensation, and whether the compensation goes on after it. -/
def Database.releaseStep (database : Database) (environment : Environment) (reservationId : Uuid)
    (row : AllocationRow) : List (Uuid × String) × Bool :=
  match row.provider.kind with
  | .internal => ([], database.givesBack row)
  | .external =>
    if ¬ environment.providerRegistry ∨ ¬ row.provider.supportsRelease ∨ row.provider.baseUrl.isNone ∨
        row.provider.driver ≠ "http" then ([], false)
    else
      match row.allocation.providerHoldReference with
      | none => ([], false)
      | some reference =>
        ([(row.provider.id, reference)],
          match environment.release row.provider.id ⟨reference, .release reservationId row.allocation.id⟩ with
          | .raised => false
          | .attempt _ => true)

/-- The release requests of a compensation over these rows: it stops at the first row that raises. -/
def Database.releasesSent (database : Database) (environment : Environment) (reservationId : Uuid) :
    List AllocationRow → List (Uuid × String)
  | [] => []
  | row :: rows =>
    (database.releaseStep environment reservationId row).1 ++
      if (database.releaseStep environment reservationId row).2 then
        database.releasesSent environment reservationId rows
      else []

section Compensation
variable {database : Database} {environment : Environment} {s : Session} {r : Uuid}

variable (environment r) in
/-- An attempt in the context of a request raises only where the provider does. -/
theorem attempt_request (provider : InventoryProviderModel) (reference : String)
    (operation : ProviderOperationModel) (s : Session) :
    match environment.release provider.id ⟨reference, operation.idempotencyKey⟩ with
    | .raised => ∃ failure t, releasing.attempt environment (.request r) provider reference operation s =
        .error failure t ∧ Adds [] [(provider.id, reference)] s t
    | .attempt outcome => ∃ t, releasing.attempt environment (.request r) provider reference operation s =
        .ok outcome t ∧ Adds [] [(provider.id, reference)] s t ∧
        t.database.offers = s.database.offers ∧
        ∀ key, key ≠ operation.idempotencyKey →
          t.database.operations.find? key = s.database.operations.find? key := by
  rw [Settlement.attempt, recordExchange_bind]
  have hsend : releasing.send environment provider.id ⟨reference, operation.idempotencyKey⟩ =
      environment.release provider.id ⟨reference, operation.idempotencyKey⟩ := rfl
  rw [hsend]
  generalize environment.release provider.id ⟨reference, operation.idempotencyKey⟩ = reply
  have hadds := Adds.call s (s.database, .release provider.id ⟨reference, operation.idempotencyKey⟩ reply)
  cases reply with
  | raised => exact ⟨_, _, rfl, hadds⟩
  | attempt outcome =>
    have hrecorded : ∃ recorded, releasing.recordOutcome (.request r) outcome operation = .ok recorded := by
      cases outcome <;> exact ⟨_, rfl⟩
    obtain ⟨recorded, hrecorded⟩ := hrecorded
    have hkey := (Settlement.recordOutcome_ok hrecorded).1
    refine ⟨{ s with
      database := { s.database with operations := s.database.operations.replace recorded }
      exchanges := s.exchanges ++ [(s.database, .release provider.id
        ⟨reference, operation.idempotencyKey⟩ (.attempt outcome))] }, ?_,
      ⟨hadds.grants, hadds.releases⟩, rfl, ?_⟩
    · dsimp only
      rw [hrecorded]
      rfl
    · intro key hne
      rw [← hkey] at hne
      exact (Table.find?_replace _ _ _).trans (if_neg hne)

/-- The rows of a compensation under way, as the session finds them. -/
structure Compensating (database : Database) (r : Uuid) (rows : List AllocationRow) (s : Session) : Prop where
  products : (rows.map AllocationRow.productId).Nodup
  ids : (rows.map fun row => row.allocation.id).Nodup
  held : ∀ row ∈ rows, row.allocation.status = .held
  internal : ∀ row ∈ rows, row.provider.kind = .internal →
    database.Reserves row.productId row.allocation.quantity.units row.allocation.providerId s.database
  fresh : ∀ row ∈ rows, s.database.operations.find? (.release r row.allocation.id) = none

theorem Compensating.tail {row : AllocationRow} {rows : List AllocationRow} {t : Session}
    (h : Compensating database r (row :: rows) s)
    (hoffers : ∀ productId, productId ≠ row.productId → ∀ providerId,
      t.database.offers.find? (productId, providerId) = s.database.offers.find? (productId, providerId))
    (hoperations : ∀ key, key ≠ .release r row.allocation.id →
      t.database.operations.find? key = s.database.operations.find? key) :
    Compensating database r rows t := by
  obtain ⟨hproduct, hproducts⟩ := List.nodup_cons.mp h.products
  obtain ⟨hid, hids⟩ := List.nodup_cons.mp h.ids
  refine ⟨hproducts, hids, fun row' hr => h.held row' (List.mem_cons_of_mem _ hr), fun row' hr hk => ?_,
    fun row' hr => ?_⟩
  · obtain ⟨offer, hu, ho⟩ := h.internal row' (List.mem_cons_of_mem _ hr) hk
    refine ⟨offer, hu, (hoffers _ (fun he => hproduct ?_) _).trans ho⟩
    exact List.mem_map.mpr ⟨row', hr, he⟩
  · refine (hoperations _ fun he => hid ?_).trans (h.fresh row' (List.mem_cons_of_mem _ hr))
    exact List.mem_map.mpr ⟨row', hr, (ProviderKey.release.inj he).2⟩

/-- What settling one row of a compensation does: it goes on after these requests, or raises. -/
inductive SettledAs (s : Session) (r : Uuid) (row : AllocationRow) :
    List (Uuid × String) × Bool → EStateM.Result Failure Session ProviderReleaseOutcome → Prop
  | done (sent : List (Uuid × String)) (outcome : ProviderReleaseOutcome) (t : Session)
      (h : Adds [] sent s t)
      (hoffers : ∀ productId, productId ≠ row.productId → ∀ providerId,
        t.database.offers.find? (productId, providerId) = s.database.offers.find? (productId, providerId))
      (hoperations : ∀ key, key ≠ .release r row.allocation.id →
        t.database.operations.find? key = s.database.operations.find? key) :
      SettledAs s r row (sent, true) (.ok outcome t)
  | raised (sent : List (Uuid × String)) (failure : Failure) (t : Session) (h : Adds [] sent s t) :
      SettledAs s r row (sent, false) (.error failure t)

theorem settle_internal {row : AllocationRow}
    (hholds : database.Reserves row.productId row.allocation.quantity.units row.allocation.providerId s.database)
    (hheld : row.allocation.status = .held) (hk : row.provider.kind = .internal) :
    SettledAs s r row (database.releaseStep environment r row)
      (releasing.settleAllocation environment (.request r) row s) := by
  have hstep : database.releaseStep environment r row = ([], database.givesBack row) := by
    unfold Database.releaseStep
    rw [hk]
  rw [hstep]
  obtain ⟨offer, hu, ho⟩ := hholds
  have hencodable : (OfferStatement.releaseHold row.allocation.quantity.units).Encodable :=
    (Database.updated_some_iff.mp hu).1
  have hpasses : ¬ row.allocation.status = releasing.settledStatus := by
    rw [hheld]
    decide
  unfold Settlement.settleAllocation Database.givesBack
  rw [if_neg hpasses, hk, hu]
  dsimp only
  have hstatement : releasing.statement row.allocation.quantity.units =
      .releaseHold row.allocation.quantity.units := rfl
  rw [hstatement]
  cases ha : (OfferStatement.releaseHold row.allocation.quantity.units).apply offer with
  | none =>
    have hupdated : s.database.updated (.releaseHold row.allocation.quantity.units)
        (row.productId, row.allocation.providerId) = .ok none := by
      rw [Database.updated_none_iff, ho]
      exact ⟨hencodable, ha⟩
    rw [bind_of_ok (updateOffer_none hupdated)]
    exact .raised _ _ s (.of_exchanges rfl)
  | some offer' =>
    cases hv : offer'.violation with
    | some failure =>
      have hupdated : s.database.updated (.releaseHold row.allocation.quantity.units)
          (row.productId, row.allocation.providerId) = .error failure := by
        rw [Database.updated_error_iff, ho]
        exact Or.inr ⟨hencodable, offer', ha, hv⟩
      rw [bind_of_error (updateOffer_error hupdated), Option.any_some, hv]
      exact .raised _ _ s (.of_exchanges rfl)
    | none =>
      have hupdated : s.database.updated (.releaseHold row.allocation.quantity.units)
          (row.productId, row.allocation.providerId) = .ok (some offer') := by
        rw [Database.updated_some_iff, ho]
        exact ⟨hencodable, ha, hv⟩
      obtain ⟨offers, hupdate, hfind, -⟩ := updateOffer_some hupdated
      rw [bind_of_ok hupdate, Option.any_some, hv]
      refine .done _ _ _ (.of_exchanges rfl) (fun productId hne providerId => ?_) fun _ _ => rfl
      refine (hfind _).trans (if_neg fun he => hne ?_)
      exact congrArg Prod.fst he

theorem settle_external {row : AllocationRow} (hheld : row.allocation.status = .held)
    (hfresh : s.database.operations.find? (.release r row.allocation.id) = none)
    (hk : row.provider.kind = .external) :
    SettledAs s r row (database.releaseStep environment r row)
      (releasing.settleAllocation environment (.request r) row s) := by
  have hpasses : ¬ row.allocation.status = releasing.settledStatus := by
    rw [hheld]
    decide
  unfold Settlement.settleAllocation Database.releaseStep
  rw [if_neg hpasses, hk]
  dsimp only
  unfold Settlement.settleExternalHold
  have hsupported : releasing.supported row.provider = row.provider.supportsRelease := rfl
  rw [hsupported]
  split
  · exact .raised _ _ s (.of_exchanges rfl)
  · cases hr : row.allocation.providerHoldReference with
    | none => exact .raised _ _ s (.of_exchanges rfl)
    | some reference =>
      dsimp only
      have hkey : releasing.kind.key (ProviderOperationContext.request r).reservationId row.allocation.id =
          .release r row.allocation.id := rfl
      rw [hkey, readDatabase_bind, hfresh]
      dsimp only
      obtain ⟨operations, hi⟩ := Table.exists_insert?
        (r := releasing.newOperation (.release r row.allocation.id) row.allocation) hfresh
      rw [hi]
      dsimp only
      rw [writeDatabase_bind]
      have hinserted := Table.find?_insert? hi
      have hattempt := attempt_request environment r row.provider reference
        (releasing.newOperation (.release r row.allocation.id) row.allocation)
        { s with database := { s.database with operations } }
      revert hattempt
      generalize releasing.attempt environment (.request r) row.provider reference
        (releasing.newOperation (.release r row.allocation.id) row.allocation)
        { s with database := { s.database with operations } } = result
      have hoperation : (releasing.newOperation (.release r row.allocation.id)
          row.allocation).idempotencyKey = .release r row.allocation.id := rfl
      rw [hoperation]
      cases environment.release row.provider.id ⟨reference, .release r row.allocation.id⟩ with
      | raised =>
        rintro ⟨failure, t, rfl, hadds⟩
        exact .raised _ failure t ⟨hadds.grants, hadds.releases⟩
      | attempt outcome =>
        rintro ⟨t, rfl, hadds, hoffers, hoperations⟩
        refine .done _ outcome t ⟨hadds.grants, hadds.releases⟩ (fun productId _ providerId => ?_)
          fun key hne => ?_
        · rw [hoffers]
        · refine (hoperations key hne).trans ((hinserted key).trans (if_neg ?_))
          exact hne

variable (environment) in
theorem settle_row {row : AllocationRow} {rows : List AllocationRow}
    (h : Compensating database r (row :: rows) s) :
    SettledAs s r row (database.releaseStep environment r row)
      (releasing.settleAllocation environment (.request r) row s) := by
  have hheld := h.held row List.mem_cons_self
  cases hk : row.provider.kind with
  | internal => exact settle_internal (h.internal row List.mem_cons_self hk) hheld hk
  | external => exact settle_external hheld (h.fresh row List.mem_cons_self) hk

variable (database environment r) in
/-- A compensation that goes on after an external hold has asked for its release. -/
theorem Database.releaseStep_asks {row : AllocationRow} (hk : row.provider.kind = .external)
    (reference : String) (hr : reference ∈ row.allocation.providerHoldReference)
    (hgo : (database.releaseStep environment r row).2 = true) :
    (row.provider.id, reference) ∈ (database.releaseStep environment r row).1 := by
  unfold releaseStep at hgo ⊢
  rw [hk, Option.mem_def.mp hr] at hgo ⊢
  dsimp only at hgo ⊢
  split at hgo
  · cases hgo
  · next hconfigured =>
    rw [if_neg hconfigured]
    exact List.mem_singleton_self _

/-- How a compensation over these rows ends: it returns, with a request for every external hold, or it
raises. -/
inductive CompensatedAs {α : Type} (s : Session) (rows : List AllocationRow)
    (sent : List (Uuid × String)) : EStateM.Result Failure Session α → Prop
  | returned (a : α) (t : Session) (h : Adds [] sent s t)
      (hall : ∀ row ∈ rows, row.provider.kind = .external →
        ∀ reference ∈ row.allocation.providerHoldReference, (row.provider.id, reference) ∈ sent) :
      CompensatedAs s rows sent (.ok a t)
  | raised (failure : Failure) (t : Session) (h : Adds [] sent s t) :
      CompensatedAs s rows sent (.error failure t)

variable (environment) in
theorem settleAllocations_run {rows : List AllocationRow} (flags : PassFlags)
    (h : Compensating database r rows s) :
    CompensatedAs s rows (database.releasesSent environment r rows)
      (releasing.settleAllocations environment (.request r) rows flags s) := by
  induction rows generalizing s flags with
  | nil => exact .returned flags s (.of_exchanges rfl) fun _ hr => absurd hr List.not_mem_nil
  | cons row rows ih =>
    have hsettled := settle_row environment h
    rw [Database.releasesSent, Settlement.settleAllocations]
    have hasks (hk : row.provider.kind = .external) :=
      database.releaseStep_asks environment r hk
    revert hsettled hasks
    generalize database.releaseStep environment r row = plan
    generalize hresult : releasing.settleAllocation environment (.request r) row s = result
    intro hsettled hasks
    cases hsettled with
    | raised sent failure t hadds =>
      rw [bind_of_error hresult]
      dsimp only
      rw [if_neg Bool.false_ne_true, List.append_nil]
      exact .raised failure t hadds
    | done sent outcome t hadds hoffers hoperations =>
      rw [bind_of_ok hresult]
      dsimp only
      rw [if_pos rfl]
      have hmarked : setAllocationStatus row.allocation.id (releasing.allocationStatus outcome) t =
          .ok () { t with database := { t.database with
            allocations := t.database.allocations.update row.allocation.id fun allocation =>
              { allocation with status := releasing.allocationStatus outcome } } } := rfl
      rw [bind_of_ok hmarked]
      have hrest := ih (s := { t with database := { t.database with
        allocations := t.database.allocations.update row.allocation.id fun allocation =>
          { allocation with status := releasing.allocationStatus outcome } } })
        (releasing.note flags outcome) (h.tail hoffers hoperations)
      revert hrest
      generalize releasing.settleAllocations environment (.request r) rows (releasing.note flags outcome)
        { t with database := { t.database with
          allocations := t.database.allocations.update row.allocation.id fun allocation =>
            { allocation with status := releasing.allocationStatus outcome } } } = rest
      intro hrest
      cases hrest with
      | raised failure w hadds' =>
        exact .raised failure w (hadds.trans ⟨hadds'.grants, hadds'.releases⟩)
      | returned flags w hadds' hall =>
        refine .returned flags w (hadds.trans ⟨hadds'.grants, hadds'.releases⟩) ?_
        intro row' hmem hk reference hr
        rcases List.mem_cons.mp hmem with rfl | hmem
        · exact List.mem_append_left _ (hasks hk reference hr rfl)
        · exact List.mem_append_right _ (hall row' hmem hk reference hr)

end Compensation

/-! ## The compensation of a creation -/

section Creating
variable {database : Database} {environment : Environment} {reservation : Reservation}
  {models : List ReservationItemModel} {granted : List Granted} {s v u : Session}

/-- The rows found are those of the holds. -/
theorem Holding.allocationRows (hwf : s.database.WellFormed) (hstored : Stored environment reservation models s v)
    (h : Holding s.database v u granted [])
    (howned : ∀ hold ∈ granted, hold.item ∈ models) :
    u.database.allocationRows reservation.id = granted.filterMap s.database.grantedRow := by
  have hitems : u.database.items = v.database.items := by rw [h.tables]
  have hproviders : u.database.providers = v.database.providers := by rw [h.tables]
  have hjoin : u.database.joinAllocation reservation.id = v.database.joinAllocation reservation.id := by
    funext allocation
    unfold Database.joinAllocation
    rw [hitems, hproviders]
  have hold : v.database.allocationRows reservation.id = [] := by
    rw [hstored.allocationRows hwf]
    exact hwf.allocationRows_of_none hstored.free
  unfold Database.allocationRows at hold ⊢
  rw [h.allocations, List.filterMap_append, hjoin, ← hstored.allocations, hold, List.nil_append,
    List.filterMap_map]
  apply List.filterMap_congr
  intro hold hmem
  have hmodel := howned hold hmem
  have hstoredItem : hold.item ∈ v.database.items :=
    (Table.mem_of_append hstored.items hold.item).mpr (Or.inr hmodel)
  have hitem : v.database.items.find? hold.allocation.reservationItemId = some hold.item :=
    Table.find?_of_mem hstoredItem
  unfold Database.joinAllocation Database.grantedRow
  rw [Function.comp_apply, hitem, hstored.providers]
  have hprovider : hold.allocation.providerId = hold.hold.providerId := rfl
  rw [hprovider]
  cases s.database.providers.find? hold.hold.providerId with
  | none => rfl
  | some provider => exact if_pos (hstored.owner hold.item hmodel)

theorem Holding.compensating (hwf : s.database.WellFormed) (hstored : Stored environment reservation models s v)
    (h : Holding s.database v u granted [])
    (hitems : granted.map Granted.item <+: models)
    (hproducts : (models.map ReservationItemModel.productId).Nodup) :
    Compensating s.database reservation.id (s.database.releaseRows environment granted) u := by
  have howned : ∀ hold ∈ granted, hold.item ∈ models :=
    fun hold hmem => hitems.subset (List.mem_map_of_mem hmem)
  have hrows := h.allocationRows hwf hstored howned
  have hperm : (s.database.releaseRows environment granted).Perm (granted.filterMap s.database.grantedRow) :=
    List.perm_insertionSort _ _
  have hrow : ∀ row ∈ s.database.releaseRows environment granted, ∃ hold ∈ granted,
      ∃ provider, s.database.providers.find? hold.hold.providerId = some provider ∧
        row = ⟨hold.allocation, hold.item.productId, provider⟩ := by
    intro row hmem
    obtain ⟨hold, hh, hr⟩ := List.mem_filterMap.mp (hperm.mem_iff.mp hmem)
    obtain ⟨provider, hp, he⟩ := Option.map_eq_some_iff.mp hr
    exact ⟨hold, hh, provider, hp, he.symm⟩
  constructor
  · have hsame : (granted.filterMap s.database.grantedRow).map AllocationRow.productId =
        (granted.map Granted.item).map ReservationItemModel.productId := by
      rw [List.map_filterMap, List.map_map, ← List.filterMap_eq_map]
      apply List.filterMap_congr
      intro hold hmem
      obtain ⟨provider, hp⟩ := Option.isSome_iff_exists.mp (h.known hold hmem)
      unfold Database.grantedRow
      rw [hp]
      rfl
    rw [(hperm.map _).nodup_iff, hsame]
    exact hproducts.sublist (hitems.sublist.map _)
  · rw [(hperm.map _).nodup_iff, ← hrows]
    exact u.database.allocationRows_nodup reservation.id
  · intro row hmem
    obtain ⟨hold, -, provider, -, rfl⟩ := hrow row hmem
    rfl
  · intro row hmem hk
    obtain ⟨hold, hh, provider, hp, rfl⟩ := hrow row hmem
    exact (h.internal hold hh provider hp hk).2
  · intro row hmem
    obtain ⟨hold, hh, provider, -, rfl⟩ := hrow row hmem
    have hfree : s.database.allocations.find? hold.allocation.id = none :=
      Table.find?_eq_none_of_append h.allocations (List.mem_map_of_mem hh)
    have hoperations : u.database.operations = s.database.operations := by rw [h.tables, hstored.tables]
    rw [hoperations]
    exact hwf.no_operation hfree .release reservation.id

theorem concludeRelease_exchanges (environment : Environment) (reservationId : Uuid)
    (terminalStatus : ReservationStatusModel) (flags : PassFlags) (s : Session) :
    ∃ t, concludeRelease environment reservationId terminalStatus flags s = .ok () t ∧
      t.exchanges = s.exchanges := by
  unfold concludeRelease
  split <;> exact ⟨_, rfl, rfl⟩

variable (environment) in
theorem releaseReservation_run (model : ReservationModel) {rows : List AllocationRow}
    (terminalStatus : ReservationStatusModel)
    (hscan : s.database.scanAllocations environment model.id = rows)
    (h : Compensating database model.id rows s) :
    CompensatedAs s rows (database.releasesSent environment model.id rows)
      (releaseReservation environment model terminalStatus none s) := by
  rw [releaseReservation, readDatabase_bind, writeReservation_bind]
  dsimp only
  rw [hscan]
  generalize s.database.reservations.update model.id _ _ = reservations
  have hwalk := settleAllocations_run environment (s := { s with database := { s.database with reservations } })
    ⟨false, false⟩ ⟨h.products, h.ids, h.held, h.internal, h.fresh⟩
  have hcontext : Option.getD none (ProviderOperationContext.request model.id) = .request model.id := rfl
  rw [hcontext]
  revert hwalk
  generalize hresult : releasing.settleAllocations environment (.request model.id) rows ⟨false, false⟩
    { s with database := { s.database with reservations } } = result
  intro hwalk
  cases hwalk with
  | raised failure t hadds =>
    rw [bind_of_error hresult]
    exact .raised failure t ⟨hadds.grants, hadds.releases⟩
  | returned flags t hadds hall =>
    rw [bind_of_ok hresult]
    obtain ⟨w, hw, hexchanges⟩ := concludeRelease_exchanges environment model.id terminalStatus flags t
    rw [hw]
    refine .returned () w ⟨?_, ?_⟩ hall
    · rw [hexchanges]
      exact hadds.grants
    · rw [hexchanges]
      exact hadds.releases

/-- The compensation sends these release requests, whether it returns or raises. -/
theorem compensate_run (hwf : s.database.WellFormed) (hstored : Stored environment reservation models s v)
    (h : Holding s.database v u granted []) (hitems : granted.map Granted.item <+: models)
    (hproducts : (models.map ReservationItemModel.productId).Nodup) :
    CompensatedAs u (s.database.releaseRows environment granted)
      (s.database.releasesSent environment reservation.id (s.database.releaseRows environment granted))
      (compensate environment (toModel environment reservation) u) := by
  have hcompensating := h.compensating hwf hstored hitems hproducts
  have hrows := h.allocationRows hwf hstored fun hold hmem => hitems.subset (List.mem_map_of_mem hmem)
  have hscan : u.database.scanAllocations environment reservation.id =
      s.database.releaseRows environment granted := by
    unfold Database.scanAllocations Database.releaseRows
    rw [hrows]
  rw [compensate, writeReservation_bind]
  generalize u.database.reservations.update _ _ _ = reservations
  have hreleased := releaseReservation_run environment (toModel environment reservation)
    (s := { u with database := { u.database with reservations } }) .failed hscan
    ⟨hcompensating.products, hcompensating.ids, hcompensating.held, hcompensating.internal,
      hcompensating.fresh⟩
  revert hreleased
  generalize hresult : releaseReservation environment (toModel environment reservation) .failed none
    { u with database := { u.database with reservations } } = result
  intro hreleased
  cases hreleased with
  | raised failure t hadds =>
    rw [bind_of_error hresult]
    exact .raised failure t ⟨hadds.grants, hadds.releases⟩
  | returned _ t hadds hall =>
    rw [bind_of_ok hresult]
    exact .returned false t ⟨hadds.grants, hadds.releases⟩ hall

end Creating
end InventoryReservation
