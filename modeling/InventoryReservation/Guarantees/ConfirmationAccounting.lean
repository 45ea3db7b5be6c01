import InventoryReservation.Meaning.Sparing
import InventoryReservation.System.Deployment

/-! # Confirmation accounting

A confirmation takes the units it consumes out of the internal offers, exactly, and leaves everything that
is not its own alone; what it makes of the reservation follows from the replies of the external providers.
-/

namespace InventoryReservation
set_option autoImplicit false

open Relational Transactional

/-- The units of the allocations of a reservation at an offer that are not confirmed. -/
def Database.unconfirmedAt (database : Database) (reservationId : Uuid) (k : Uuid × Uuid) : ℤ :=
  ((database.allocationRows reservationId).map fun row =>
    if row.allocation.status ≠ .confirmed ∧ k = (row.productId, row.allocation.providerId) then
      row.allocation.quantity.units
    else 0).sum

/-- Some provider rejects. -/
def Database.Rejects (database : Database) (environment : Environment) (reservationId : Uuid) : Prop :=
  ∃ row ∈ database.allocationRows reservationId, confirmation.gets environment (.request reservationId)
    (database.view reservationId row) .rejected

/-- The outcome of some external allocation is unknown, or its provider temporarily unavailable. -/
def Database.Awaits (database : Database) (environment : Environment) (reservationId : Uuid) : Prop :=
  ∃ row ∈ database.allocationRows reservationId,
    confirmation.gets environment (.request reservationId) (database.view reservationId row) .unknown ∨
    confirmation.gets environment (.request reservationId) (database.view reservationId row)
      .temporarilyUnavailable ∨
    confirmation.leavesUnknown (.request reservationId) (database.view reservationId row)

instance (database : Database) (environment : Environment) (reservationId : Uuid) :
    Decidable (database.Rejects environment reservationId) :=
  inferInstanceAs (Decidable (∃ row ∈ database.allocationRows reservationId, _))

instance (database : Database) (environment : Environment) (reservationId : Uuid) :
    Decidable (database.Awaits environment reservationId) :=
  inferInstanceAs (Decidable (∃ row ∈ database.allocationRows reservationId, _))

/-- A rejection goes before an outcome that is still awaited. -/
def Database.confirmedStatus (database : Database) (environment : Environment) (reservationId : Uuid) :
    ReservationStatusModel :=
  if database.Rejects environment reservationId then .failed
  else if database.Awaits environment reservationId then .confirming
  else .confirmed

/-- What a confirmation of the reservation leaves. -/
structure ConfirmationAccounts (environment : Environment) (reservationId : Uuid) (before after : Database) :
    Prop where
  consumed : ∀ k provider offer, before.providers.find? k.2 = some provider → provider.kind = .internal →
    before.offers.find? k = some offer → ∃ offer', after.offers.find? k = some offer' ∧
      offer'.onHand = offer.onHand - before.unconfirmedAt reservationId k ∧
      offer'.reserved = offer.reserved - before.unconfirmedAt reservationId k
  external : ∀ k provider, before.providers.find? k.2 = some provider → provider.kind = .external →
    after.offers.find? k = before.offers.find? k
  confirmed : ∀ row ∈ after.allocationRows reservationId, row.provider.kind = .internal →
    row.allocation.status = .confirmed
  others : SparesOthers reservationId before after
  status : ∃ reservation, after.reservations.find? reservationId = some reservation ∧
    reservation.status = before.confirmedStatus environment reservationId
  ordered : before.confirmedStatus environment reservationId = .confirmed →
    (after.orders.find? reservationId).isSome

section Walks
variable {environment : Environment} {context : ProviderOperationContext} {rows : List AllocationRow}
  {s t : Session}

/-- At an internal offer a confirming walk draws the units that are not confirmed. -/
theorem drawn_eq_unconfirmedAt {database : Database} {r : Uuid} (hrows : rows.Perm (database.allocationRows r))
    {k : Uuid × Uuid} {provider : InventoryProviderModel} (hp : database.providers.find? k.2 = some provider)
    (hk : provider.kind = .internal) : confirmation.drawn k rows = database.unconfirmedAt r k := by
  unfold Settlement.drawn Database.unconfirmedAt
  rw [(hrows.map _).sum_eq]
  congr 1
  apply List.map_congr_left
  intro row hrow
  refine if_congr ?_ rfl rfl
  constructor
  · rintro ⟨⟨hunconfirmed, -⟩, hkk⟩
    exact ⟨hunconfirmed, hkk⟩
  · rintro ⟨hunconfirmed, hkk⟩
    obtain ⟨-, hj⟩ := Database.mem_allocationRows.mp hrow
    obtain ⟨item, provider', -, hp', -, heq⟩ := Database.joinAllocation_eq_some_iff.mp hj
    have hprovider : row.provider = provider := by
      rw [heq]
      rw [hkk] at hp
      exact Option.some.inj (hp'.symm.trans hp)
    exact ⟨⟨hunconfirmed, hprovider ▸ hk⟩, hkk⟩

/-- At an external offer it draws nothing. -/
theorem draws_nothing_external {database : Database} {r : Uuid} (hrows : rows.Perm (database.allocationRows r))
    {k : Uuid × Uuid} {provider : InventoryProviderModel} (hp : database.providers.find? k.2 = some provider)
    (hk : provider.kind = .external) : ∀ row ∈ rows, ¬ confirmation.drawsAt k row := by
  rintro row hrow ⟨⟨-, hinternal⟩, hkk⟩
  obtain ⟨-, hj⟩ := Database.mem_allocationRows.mp (hrows.mem_iff.mp hrow)
  obtain ⟨item, provider', -, hp', -, heq⟩ := Database.joinAllocation_eq_some_iff.mp hj
  have hprovider : row.provider = provider := by
    rw [heq]
    rw [hkk] at hp
    exact Option.some.inj (hp'.symm.trans hp)
  rw [hprovider, hk] at hinternal
  cases hinternal

/-- The status a walk that returned writes, read off the replies. -/
theorem confirmedStatus_eq {r : Uuid} (hid : context = .request r)
    (hpass : confirmation.PassEffect environment context rows s t)
    (hrows : rows.Perm (s.database.allocationRows r)) :
    (confirmation.flags environment context (s.database.allocationViews r)).confirmedStatus =
      s.database.confirmedStatus environment r := by
  subst hid
  have hrejects : (confirmation.flags environment (.request r) (s.database.allocationViews r)).failed = true ↔
      s.database.Rejects environment r := by
    rw [confirmation_flags_rejected]
    unfold Database.allocationViews Database.Rejects
    simp
  have hunknown : ∀ row ∈ s.database.allocationRows r,
      confirmation.outcome environment (.request r) (s.database.view r row) = .unknown ↔
        confirmation.gets environment (.request r) (s.database.view r row) .unknown ∨
          confirmation.leavesUnknown (.request r) (s.database.view r row) := by
    intro row hrow
    constructor
    · intro hu
      have hne : confirmation.outcome environment (.request r) (s.database.view r row) ≠ confirmation.settled := by
        rw [hu]
        decide
      rcases Settlement.outcome_ne_settled hne with ⟨hasks, hanswer⟩ | ⟨hleaves, -⟩
      · have hreply : confirmation.reply environment (.request r) (s.database.view r row) =
            .attempt (confirmation.answer environment (.request r) (s.database.view r row)) :=
          (hpass.asked row (hrows.mem_iff.mpr hrow) hasks).1
        rw [← hanswer, hu] at hreply
        exact Or.inl ⟨hasks, hreply⟩
      · exact Or.inr hleaves
    · rintro (hgets | hleaves)
      · exact Settlement.outcome_of_gets hgets
      · exact Settlement.outcome_of_leavesUnknown hleaves
  have hawaits : (confirmation.flags environment (.request r) (s.database.allocationViews r)).pending = true ↔
      s.database.Awaits environment r := by
    rw [confirmation_flags_pending]
    unfold Database.allocationViews Database.Awaits
    constructor
    · rintro ⟨view, hv, ho⟩
      obtain ⟨row, hrow, rfl⟩ := List.mem_map.mp hv
      refine ⟨row, hrow, ?_⟩
      rcases ho with hu | hunavailable
      · rcases (hunknown row hrow).mp hu with hgets | hleaves
        · exact Or.inl hgets
        · exact Or.inr (Or.inr hleaves)
      · exact Or.inr (Or.inl ((Settlement.outcome_eq_iff (by decide) (by decide)).mp hunavailable))
    · rintro ⟨row, hrow, hgets | hunavailable | hleaves⟩
      · exact ⟨_, List.mem_map_of_mem hrow, Or.inl ((hunknown row hrow).mpr (Or.inl hgets))⟩
      · exact ⟨_, List.mem_map_of_mem hrow, Or.inr (Settlement.outcome_of_gets hunavailable)⟩
      · exact ⟨_, List.mem_map_of_mem hrow, Or.inl ((hunknown row hrow).mpr (Or.inr hleaves))⟩
  unfold PassFlags.confirmedStatus Database.confirmedStatus
  simp only [hrejects, hawaits]

end Walks

/-- What a confirmation that returned had to go through. -/
theorem confirm_walks {environment : Environment} {reservation : ReservationModel} {result : Option Reservation}
    {s t : Session} (hstored : s.database.reservations.find? reservation.id = some reservation)
    (hconfirmed : reservation.status ≠ .confirmed)
    (h : confirm environment reservation.id reservation.userId s = .ok result t) :
    confirmReservation environment reservation (.request reservation.id) s = .ok result t := by
  have hself := Database.findOwned_self hstored
  cases confirm_cases h with
  | absent ho => cases hself.symm.trans ho
  | confirmed other _ _ ho hstatus =>
    cases hself.symm.trans ho
    exact absurd hstatus hconfirmed
  | walked other _ _ ho hstatus hwalk =>
    cases hself.symm.trans ho
    exact hwalk

/-- For every reservation that is neither confirmed nor cancelled, whatever its allocations and the
providers' replies. -/
theorem confirm_accounts {environment : Environment} {database : Database} {reservation : ReservationModel}
    (hstored : database.reservations.find? reservation.id = some reservation)
    (hstatus : reservation.status ∉ [.confirmed, .cancelled])
    (hreturns : (reservationTransaction (confirm environment reservation.id reservation.userId)
      database).result.isOk = true) :
    ConfirmationAccounts environment reservation.id database
      (reservationTransaction (confirm environment reservation.id reservation.userId) database).database := by
  have hconfirmed : reservation.status ≠ .confirmed := fun h => hstatus (by rw [h]; decide)
  obtain ⟨result, t, h, he⟩ := reservationTransaction_isOk hreturns
  rw [he]
  have hwalks := confirm_walks (s := .start database) hstored hconfirmed h
  have hlines := confirmReservation_lines hwalks
  obtain ⟨heffect, horder⟩ := confirmReservation_ok rfl hwalks
  obtain ⟨rows, hrows, hpass⟩ := heffect.walk
  have hverdict := confirmedStatus_eq rfl hpass hrows
  constructor
  · intro k provider offer hp hk ho
    have hdrawn : confirmation.drawn k rows = database.unconfirmedAt reservation.id k :=
      drawn_eq_unconfirmedAt hrows hp hk
    have hoffer : t.database.offers.find? k =
        some (offer.draw true (database.unconfirmedAt reservation.id k) (confirmation.drawCount k rows)) := by
      have hfind : database.offers.find? k = some offer := ho
      rw [hpass.offers, hdrawn]
      exact congrArg (Option.map _) hfind
    exact ⟨_, hoffer, rfl, rfl⟩
  · intro k provider hp hk
    exact hpass.offers_of_idle (draws_nothing_external hrows hp hk)
  · intro row hrow hk
    rw [hpass.allocationRows] at hrow
    obtain ⟨before, hb, rfl⟩ := List.mem_map.mp hrow
    rw [Settlement.relabel_of_mem hrows hb, Settlement.outcome_of_internal hk]
    rfl
  · exact heffect.sparesOthers hlines
  · have hfound := heffect.findReservation reservation.id
    have hfind : (Session.start database).database.reservations.find? reservation.id = some reservation := hstored
    rw [hfind, Option.map_some] at hfound
    refine ⟨_, hfound.trans (congrArg some (if_pos rfl)), ?_⟩
    unfold confirmWrite
    rw [ReservationModel.written_status]
    exact hverdict
  · intro hordered
    exact horder.mpr (Or.inr (hverdict.trans hordered))

/-- A reservation of one unit at an internal and two at an external provider. -/
def Deployment.reserved : Database :=
  System.run Deployment.sha256 Deployment.database
    [Deployment.create 1000 100 0
      [Deployment.line 1 10 1 Deployment.one_unit, Deployment.line 2 20 2 Deployment.two_units] "key"]

/-- Confirmed while the external provider is temporarily unavailable. -/
theorem reserved_accounts : ∃ reservation : ReservationModel, ∃ environment,
    ConfirmationAccounts environment reservation.id Deployment.reserved
      (reservationTransaction (confirm environment reservation.id reservation.userId) Deployment.reserved).database :=
  ⟨(Deployment.reserved.reservations.find? 100).get (by decide +kernel),
    (Deployment.confirming .temporarilyUnavailable (Deployment.confirm 2000 100 10)).environment,
    confirm_accounts (by decide +kernel) (by decide +kernel) (by decide +kernel)⟩

end InventoryReservation
