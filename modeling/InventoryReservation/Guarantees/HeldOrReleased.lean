import InventoryReservation.Meaning.Compensation
import InventoryReservation.Meaning.Reachable
import InventoryReservation.Meaning.Storing
import InventoryReservation.System.Deployment

/-! # Holds granted during a create

The transaction of a create rolls back what it did to the database, not what it asked the providers. Only
a conclusive refusal of an item leads to a compensation, so an external hold is lost when the create
raises at a later item, or when the compensation raises before it comes to the hold.
-/

namespace InventoryReservation
set_option autoImplicit false

open Relational Transactional

/-- The granted hold is recorded as an allocation of the reservation. -/
def Database.Records (database : Database) (reservationId : Uuid) (grant : Uuid × HoldCommand × String) :
    Prop :=
  ∃ row ∈ database.allocationRows reservationId, row.allocation.providerId = grant.1 ∧
    row.allocation.holdIdempotencyKey = grant.2.1.idempotencyKey ∧
    row.allocation.providerHoldReference = some grant.2.2

instance (database : Database) (reservationId : Uuid) (grant : Uuid × HoldCommand × String) :
    Decidable (database.Records reservationId grant) :=
  inferInstanceAs (Decidable (∃ row ∈ database.allocationRows reservationId, _))

/-- Every hold granted among these calls is recorded in the committed database, or a release request
for it is among the calls. -/
def NoLeakedHold (reservationId : Uuid) (committed : Database) (exchanges : List (Database × Exchange)) :
    Prop :=
  ∀ grant ∈ grants exchanges,
    committed.Records reservationId grant ∨ (grant.1, grant.2.2) ∈ releaseRequests exchanges

instance (reservationId : Uuid) (committed : Database) (exchanges : List (Database × Exchange)) :
    Decidable (NoLeakedHold reservationId committed exchanges) :=
  inferInstanceAs (Decidable (∀ grant ∈ grants exchanges, _))

/-- The holds of the loop are kept, or a compensation comes to each of them. -/
def Database.Recovers (database : Database) (environment : Environment) (reservationId : Uuid)
    (holdRun : HoldRun) : Prop :=
  match holdRun.ending with
  | .held => True
  | .refused => ∀ granted ∈ holdRun.granted, ∀ reference ∈ granted.hold.reference,
      (granted.hold.providerId, reference) ∈ database.releasesSent environment reservationId
        (database.releaseRows environment holdRun.granted)
  | .raised => ∀ granted ∈ holdRun.granted, granted.hold.reference = none

instance (database : Database) (environment : Environment) (reservationId : Uuid) (holdRun : HoldRun) :
    Decidable (database.Recovers environment reservationId holdRun) := by
  unfold Database.Recovers
  cases holdRun.ending with
  | held => exact inferInstanceAs (Decidable True)
  | refused => exact inferInstanceAs (Decidable (∀ granted ∈ holdRun.granted, _))
  | raised => exact inferInstanceAs (Decidable (∀ granted ∈ holdRun.granted, _))

/-- A reservation that can be stored is held in a way that loses no external hold. -/
def Database.RecoversFor (database : Database) (environment : Environment) (reservation : Reservation) :
    Prop :=
  let models := itemModels environment reservation.id 0 reservation.items
  database.Storable (toModel environment reservation) models →
    database.Recovers environment reservation.id
      (database.holdRun environment reservation.items.length [] models)

instance (database : Database) (environment : Environment) (reservation : Reservation) :
    Decidable (database.RecoversFor environment reservation) :=
  inferInstanceAs (Decidable (_ → _))

/-! ## One create -/

section Create
variable {environment : Environment} {reservation : Reservation} {s v u t : Session}
  {models : List ReservationItemModel} {granted : List Granted}

/-- Where the calls of a transaction ended, and what is committed then. -/
def NoLeakedHold.At {α : Type} (reservationId : Uuid) (database : Database) :
    EStateM.Result Failure Session α → Prop
  | .ok _ t => NoLeakedHold reservationId t.database t.exchanges
  | .error _ t => NoLeakedHold reservationId database t.exchanges

theorem noLeakedHold_nil (reservationId : Uuid) (committed : Database) :
    NoLeakedHold reservationId committed [] :=
  fun _ hg => absurd hg List.not_mem_nil

theorem Granted.mem_grants {granted : List Granted} {grant : Uuid × HoldCommand × String} :
    grant ∈ granted.flatMap Granted.grants ↔ ∃ hold ∈ granted, ∃ reference ∈ hold.hold.reference,
      grant = (hold.hold.providerId, hold.item.command, reference) := by
  simp only [List.mem_flatMap, Granted.grants, ProviderHold.grants, List.mem_map, Option.mem_toList]
  constructor
  · rintro ⟨hold, hh, reference, hr, rfl⟩
    exact ⟨hold, hh, reference, hr, rfl⟩
  · rintro ⟨hold, hh, reference, hr, rfl⟩
    exact ⟨hold, hh, reference, hr, rfl⟩

/-- When nothing is recorded, each hold needs a request of its own. -/
theorem noLeakedHold_of_unrecorded {committed : Database} {sent : List (Uuid × String)}
    (hrows : committed.allocationRows reservation.id = [])
    (hgrants : grants t.exchanges = granted.flatMap Granted.grants)
    (hreleases : releaseRequests t.exchanges = sent) :
    NoLeakedHold reservation.id committed t.exchanges ↔
      ∀ hold ∈ granted, ∀ reference ∈ hold.hold.reference, (hold.hold.providerId, reference) ∈ sent := by
  have hrecords : ∀ grant, ¬ committed.Records reservation.id grant := by
    rintro grant ⟨row, hrow, -⟩
    rw [hrows] at hrow
    cases hrow
  unfold NoLeakedHold
  rw [hgrants, hreleases]
  constructor
  · intro h hold hh reference hr
    exact (h _ (Granted.mem_grants.mpr ⟨hold, hh, reference, hr, rfl⟩)).resolve_left (hrecords _)
  · intro h grant hg
    obtain ⟨hold, hh, reference, hr, rfl⟩ := Granted.mem_grants.mp hg
    exact Or.inr (h hold hh reference hr)

/-- Each hold is found as a row. -/
theorem Holding.recorded (h : Holding s.database v u granted []) {hold : Granted} (hh : hold ∈ granted) :
    ∃ provider, s.database.providers.find? hold.hold.providerId = some provider ∧
      (⟨hold.allocation, hold.item.productId, provider⟩ : AllocationRow) ∈
        granted.filterMap s.database.grantedRow := by
  obtain ⟨provider, hp⟩ := Option.isSome_iff_exists.mp (h.known hold hh)
  refine ⟨provider, hp, List.mem_filterMap.mpr ⟨hold, hh, ?_⟩⟩
  unfold Database.grantedRow
  rw [hp]
  rfl

/-- The calls of a loop over a new reservation. -/
theorem recovers_iff (hwf : s.database.WellFormed) (hs : s.exchanges = [])
    (hstored : Stored environment reservation models s v)
    (hproducts : (models.map ReservationItemModel.productId).Nodup) {plan : HoldRun}
    {result : EStateM.Result Failure Session Bool}
    (hitems : plan.granted.map Granted.item <+: models)
    (h : RanAs s.database environment (toModel environment reservation) v plan result) :
    NoLeakedHold.At reservation.id s.database result ↔
      s.database.Recovers environment reservation.id plan := by
  have hvs : v.exchanges = [] := hstored.exchanges.trans hs
  have hfree : s.database.allocationRows reservation.id = [] := hwf.allocationRows_of_none hstored.free
  have hgrants : ∀ {granted released} {t : Session}, Adds granted released v t →
      grants t.exchanges = granted ∧ releaseRequests t.exchanges = released := by
    intro granted released t hadds
    have hg := hadds.grants
    have hr := hadds.releases
    rw [hvs] at hg hr
    exact ⟨hg, hr⟩
  cases h with
  | held granted t hholding =>
    obtain ⟨hg, -⟩ := hgrants hholding.adds
    refine ⟨fun _ => trivial, fun _ grant hgrant => Or.inl ?_⟩
    rw [hg] at hgrant
    obtain ⟨hold, hh, reference, hr, rfl⟩ := Granted.mem_grants.mp hgrant
    obtain ⟨provider, -, hrow⟩ := hholding.recorded hh
    rw [← hholding.allocationRows hwf hstored
      fun hold hmem => hitems.subset (List.mem_map_of_mem hmem)] at hrow
    exact ⟨_, hrow, rfl, rfl, hr⟩
  | raised granted failure t hadds =>
    obtain ⟨hg, hr⟩ := hgrants hadds
    refine (noLeakedHold_of_unrecorded hfree hg hr).trans ?_
    constructor
    · intro hall hold hh
      rw [Option.eq_none_iff_forall_not_mem]
      intro reference hreference
      cases hall hold hh reference hreference
    · intro hnone hold hh reference hreference
      rw [hnone hold hh] at hreference
      cases hreference
  | refused granted u hholding =>
    have hcompensated := compensate_run hwf hstored hholding hitems hproducts
    obtain ⟨hg, hr⟩ := hgrants hholding.adds
    revert hcompensated
    generalize compensate environment (toModel environment reservation) u = result
    intro hcompensated
    cases hcompensated with
    | raised failure t hadds =>
      have hgt := hadds.grants
      have hrt := hadds.releases
      rw [hg, List.append_nil] at hgt
      rw [hr, List.nil_append] at hrt
      exact noLeakedHold_of_unrecorded hfree hgt hrt
    | returned _ t hadds hall =>
      have hgt := hadds.grants
      have hrt := hadds.releases
      rw [hg, List.append_nil] at hgt
      rw [hr, List.nil_append] at hrt
      have hsent : ∀ hold ∈ granted, ∀ reference ∈ hold.hold.reference,
          (hold.hold.providerId, reference) ∈ s.database.releasesSent environment reservation.id
            (s.database.releaseRows environment granted) := by
        intro hold hh reference hreference
        obtain ⟨provider, hp, hrow⟩ := hholding.recorded hh
        have hmem : (⟨hold.allocation, hold.item.productId, provider⟩ : AllocationRow) ∈
            s.database.releaseRows environment granted :=
          (List.mem_insertionSort _).mpr hrow
        have hk : provider.kind = .external := by
          cases hk : provider.kind with
          | external => rfl
          | internal =>
            rw [(hholding.internal hold hh provider hp hk).1] at hreference
            cases hreference
        have hid : provider.id = hold.hold.providerId := Table.key_of_find? hp
        rw [← hid]
        exact hall _ hmem hk reference hreference
      refine ⟨fun _ => hsent, fun _ grant hgrant => Or.inr ?_⟩
      rw [hgt] at hgrant
      rw [hrt]
      obtain ⟨hold, hh, reference, hreference, rfl⟩ := Granted.mem_grants.mp hgrant
      exact hsent hold hh reference hreference

theorem addWithHold_recovers (environment : Environment) (reservation : Reservation)
    (hwf : s.database.WellFormed) (hs : s.exchanges = []) (hgenerated : s.generated = 0) :
    NoLeakedHold.At reservation.id s.database (addWithHold environment reservation s) ↔
      s.database.RecoversFor environment reservation := by
  obtain ⟨hok, herror⟩ := addReservation_storable environment reservation hgenerated
  rw [addWithHold]
  by_cases hstorable : s.database.Storable (toModel environment reservation)
      (itemModels environment reservation.id 0 reservation.items)
  · obtain ⟨v, hv, hvgenerated⟩ := hok hstorable
    rw [bind_of_ok hv]
    have hstored := addReservation_ok hv
    have hiff : s.database.RecoversFor environment reservation ↔
        s.database.Recovers environment reservation.id
          (s.database.holdRun environment reservation.items.length []
            (itemModels environment reservation.id 0 reservation.items)) :=
      ⟨fun h => h hstorable, fun h _ => h⟩
    rw [hiff]
    have hitems := s.database.holdRun_items environment reservation.items.length []
      (itemModels environment reservation.id 0 reservation.items)
    refine recovers_iff hwf hs hstored hstorable.items.products hitems ?_
    have hofferings : ∀ productId, v.database.offersOf productId = s.database.offersOf productId := by
      intro productId
      unfold Database.offersOf
      rw [hstored.tables]
    refine holdItems_run hstored.providers hstored.owner ⟨hstorable.items.ids, hstorable.items.products, ?_⟩
      hvgenerated ⟨rfl, ?_, fun item _ => hofferings item.productId, ?_, ?_, .of_exchanges rfl⟩
    · intro model hm allocation ha hsame
      have hfound := hwf.allocationItem allocation ha
      rw [hsame, hstorable.items.free model hm] at hfound
      cases hfound
    · rw [hstored.allocations]
      exact (List.append_nil _).symm
    · intro hold hh
      cases hh
    · intro hold hh
      cases hh
  · obtain ⟨failure, t, ht⟩ := herror hstorable
    rw [bind_of_error ht]
    have htraced := (traces_addReservation (Q := fun _ => False) reservation s (traced_nil hs)).of_error ht
    have hexchanges : t.exchanges = [] := List.eq_nil_iff_forall_not_mem.mpr htraced.1
    refine ⟨fun _ h => absurd h hstorable, fun _ => ?_⟩
    unfold NoLeakedHold.At
    dsimp only
    rw [hexchanges]
    exact noLeakedHold_nil _ _

end Create

/-! ## Runs -/

/-- The reservation a create would store, if it starts one, is held in a way that loses no hold. -/
def Database.RecoversDraft (database : Database) (environment : Environment) (draft : ReservationDraft) :
    Prop :=
  match Reservation.start draft with
  | .error _ => True
  | .ok reservation => database.RecoversFor environment reservation

instance (database : Database) (environment : Environment) (draft : ReservationDraft) :
    Decidable (database.RecoversDraft environment draft) := by
  unfold Database.RecoversDraft
  cases Reservation.start draft with
  | error failure => exact inferInstanceAs (Decidable True)
  | ok reservation => exact inferInstanceAs (Decidable (database.RecoversFor environment reservation))

namespace System
variable {sha256 : String → String} {environment : Environment} {userId : Uuid}
  {items : List ReservationItem} {idempotencyKey : String} {database : Database}

/-- A create ends with what its transaction leaves, or with the database it found. -/
theorem noLeakedHold_create :
    NoLeakedHold environment.reservationId
        (execute sha256 ⟨environment, .create userId items idempotencyKey⟩ database).database
        (execute sha256 ⟨environment, .create userId items idempotencyKey⟩ database).exchanges ↔
      NoLeakedHold.At environment.reservationId database
        (ReservationService.createTransaction sha256 environment userId items idempotencyKey
          (.start database)) := by
  obtain ⟨hdatabase, hexchanges⟩ :=
    ReservationService.create_eq sha256 environment userId items idempotencyKey database
  change NoLeakedHold _ (ReservationService.create sha256 environment userId items idempotencyKey
    database).database (ReservationService.create sha256 environment userId items idempotencyKey
    database).exchanges ↔ _
  rw [hdatabase, hexchanges]
  unfold databaseTransaction
  cases ReservationService.createTransaction sha256 environment userId items idempotencyKey
    (.start database) <;> exact Iff.rfl

/-- A second row under a key is not storable. -/
theorem recoversDraft_of_found {model : ReservationModel}
    (hf : database.findByIdempotencyKey userId idempotencyKey = some model) :
    database.RecoversDraft environment (creationDraft sha256 environment userId items idempotencyKey) := by
  unfold Database.RecoversDraft
  cases hstart : Reservation.start (creationDraft sha256 environment userId items idempotencyKey) with
  | error failure => trivial
  | ok reservation =>
    intro hstorable
    obtain ⟨-, huser, -, hkey, -⟩ := Reservation.start_ok hstart
    have hfree := Database.request_free hstorable.reservation
    have huserId : (toModel environment reservation).userId = userId := huser
    have hidempotencyKey : (toModel environment reservation).idempotencyKey = idempotencyKey := hkey
    rw [huserId, hidempotencyKey, hf] at hfree
    cases hfree

/-- A create that finds its key asks no provider. -/
theorem noLeakedHold_of_found {model : ReservationModel} (hwf : database.WellFormed)
    (hf : database.findByIdempotencyKey userId idempotencyKey = some model) :
    NoLeakedHold.At environment.reservationId database
      (ReservationService.createTransaction sha256 environment userId items idempotencyKey
        (.start database)) := by
  have hs : (Session.start database).exchanges = [] := rfl
  have hfound : (Session.start database).database.findByIdempotencyKey userId idempotencyKey ≠ none := by
    have h : (Session.start database).database.findByIdempotencyKey userId idempotencyKey = some model := hf
    rw [h]
    exact Option.some_ne_none model
  cases hresult : ReservationService.createTransaction sha256 environment userId items idempotencyKey
      (.start database) with
  | ok created t =>
    have htraced := (createTransaction_stops hwf hs).of_ok hresult
    have hnone : t.exchanges = [] :=
      List.eq_nil_iff_forall_not_mem.mpr fun entry he => hfound (htraced entry he).1
    unfold NoLeakedHold.At
    dsimp only
    rw [hnone]
    exact noLeakedHold_nil _ _
  | error failure t =>
    have htraced := ((createTransaction_stops hwf hs).of_error hresult).1
    have hnone : t.exchanges = [] :=
      List.eq_nil_iff_forall_not_mem.mpr fun entry he => hfound (htraced entry he).1
    unfold NoLeakedHold.At
    dsimp only
    rw [hnone]
    exact noLeakedHold_nil _ _

/-- A create of a new key goes as the plan of its draft does. -/
theorem noLeakedHold_of_absent (hwf : database.WellFormed)
    (hf : database.findByIdempotencyKey userId idempotencyKey = none) :
    NoLeakedHold.At environment.reservationId database
        (ReservationService.createTransaction sha256 environment userId items idempotencyKey
          (.start database)) ↔
      database.RecoversDraft environment (creationDraft sha256 environment userId items idempotencyKey) := by
  rw [ReservationService.createTransaction, bind_of_ok (getByIdempotencyKey_none hf)]
  dsimp only
  change NoLeakedHold.At environment.reservationId database ((ofExcept (Reservation.start
    (creationDraft sha256 environment userId items idempotencyKey)) >>= fun reservation => do
      let inventoryHeld ← addWithHold environment reservation
      pure (reservation, inventoryHeld)) (.start database)) ↔ _
  unfold Database.RecoversDraft
  cases hstart : Reservation.start (creationDraft sha256 environment userId items idempotencyKey) with
  | error failure => exact ⟨fun _ => trivial, fun _ => noLeakedHold_nil _ _⟩
  | ok reservation =>
    have hid : reservation.id = environment.reservationId := (Reservation.start_ok hstart).1
    have hcreated := addWithHold_recovers environment reservation (s := .start database) hwf rfl rfl
    rw [hid] at hcreated
    refine Iff.trans ?_ hcreated
    have hstarted : ofExcept (Except.ok reservation) (Session.start database) =
        .ok reservation (.start database) := rfl
    rw [bind_of_ok hstarted]
    cases hresult : addWithHold environment reservation (.start database) with
    | ok held t =>
      rw [bind_of_ok hresult]
      exact Iff.rfl
    | error failure t =>
      rw [bind_of_error hresult]
      exact Iff.rfl

/-- A create leaks no hold exactly if the plan read off the database says so. -/
theorem create_recovers (hwf : database.WellFormed) :
    NoLeakedHold environment.reservationId
        (execute sha256 ⟨environment, .create userId items idempotencyKey⟩ database).database
        (execute sha256 ⟨environment, .create userId items idempotencyKey⟩ database).exchanges ↔
      database.RecoversDraft environment (creationDraft sha256 environment userId items idempotencyKey) := by
  rw [noLeakedHold_create]
  cases hf : database.findByIdempotencyKey userId idempotencyKey with
  | some model => exact ⟨fun _ => recoversDraft_of_found hf, fun _ => noLeakedHold_of_found hwf hf⟩
  | none => exact noLeakedHold_of_absent hwf hf

end System
end InventoryReservation
