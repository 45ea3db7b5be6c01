import InventoryReservation.Meaning.CanonicalText
import InventoryReservation.Meaning.Commit
import InventoryReservation.Meaning.Loading
import InventoryReservation.System.Deployment

/-! # The fingerprint of a stored reservation

Whatever is requested, in whatever order: every stored reservation keeps the fingerprint of its items,
which are of distinct products, so a later request has the fingerprint exactly if it asks for the same
items in some order.
-/

namespace InventoryReservation
set_option autoImplicit false

open Relational Transactional

/-- The reservation has the fingerprint of its items, and these are of distinct products. -/
structure Aggregate.Fingerprinted (sha256 : String → String) (aggregate : Aggregate) : Prop where
  fingerprint : aggregate.reservation.requestFingerprint =
    reservationRequestFingerprint sha256 (aggregate.items.map ReservationItemModel.toDomain)
  distinct : ((aggregate.items.map ReservationItemModel.toDomain).map ReservationItem.productId).Nodup

def Database.Fingerprinted (sha256 : String → String) (database : Database) : Prop :=
  ∀ r aggregate, database.aggregate? r = some aggregate → aggregate.Fingerprinted sha256

section Aggregates
variable {sha256 : String → String} {environment : Environment}

theorem Aggregate.Fingerprinted.of_same {before after : Aggregate} (h : before.Fingerprinted sha256)
    (hrequest : before.reservation.SameRequest after.reservation) (hitems : after.items = before.items) :
    after.Fingerprinted sha256 where
  fingerprint := by
    rw [hitems, hrequest.requestFingerprint]
    exact h.fingerprint
  distinct := by
    rw [hitems]
    exact h.distinct

theorem Aggregate.Opened.fingerprinted {reservation : Reservation} {done : List ReservationItemModel}
    {aggregate : Aggregate} (h : aggregate.Opened environment reservation done)
    (hfingerprint : reservation.requestFingerprint = reservationRequestFingerprint sha256 reservation.items)
    (hdistinct : (reservation.items.map ReservationItem.productId).Nodup) :
    aggregate.Fingerprinted sha256 where
  fingerprint := by
    rw [h.items, h.request.requestFingerprint]
    exact hfingerprint
  distinct := by
    rw [h.items]
    exact hdistinct

theorem Aggregate.Created.fingerprinted {reservation : Reservation} {exchanges : List Exchange}
    {held : Bool} {after : Aggregate} (h : Aggregate.Created environment reservation exchanges held after)
    (hfingerprint : reservation.requestFingerprint = reservationRequestFingerprint sha256 reservation.items)
    (hdistinct : (reservation.items.map ReservationItem.productId).Nodup) :
    after.Fingerprinted sha256 := by
  cases h with
  | held _ hopened => exact hopened.fingerprinted hfingerprint hdistinct
  | compensated before _ done hdone hopened hr =>
    exact (hopened.fingerprinted hfingerprint hdistinct).of_same hr.request hr.items

end Aggregates

/-- A reservation that was stored is of distinct products. -/
theorem addWithHold_distinct {environment : Environment} {reservation : Reservation} {held : Bool}
    {s t : Session} (h : addWithHold environment reservation s = .ok held t) :
    (reservation.items.map ReservationItem.productId).Nodup := by
  rw [addWithHold] at h
  obtain ⟨models, v, hv, -⟩ := bind_ok_iff.mp h
  rw [addReservation] at hv
  obtain ⟨-, u, -, hu⟩ := bind_ok_iff.mp hv
  exact (insertItems_distinct hu).1

/-! ## Steps -/

namespace System
variable {sha256 : String → String} {event : Event} {database : Database} {t : Session}

theorem Committed.fingerprinted (hsound : database.Sound) (hstored : database.Fingerprinted sha256)
    (h : Committed sha256 event database t) : t.database.Fingerprinted sha256 := by
  cases h with
  | found => exact hstored
  | walked t h =>
    have hwalked := walks_ok (s := .start database) hsound.wellFormed (event.walkable database) h
    intro r after hafter
    by_cases hr : ∃ walk ∈ event.walks database, walk.reservation.id = r
    · obtain ⟨walk, hw, rfl⟩ := hr
      obtain ⟨before, after', hbefore, hafter', happlies, -⟩ := hwalked.applied walk hw
      rw [hafter] at hafter'
      cases hafter'
      exact (hstored _ before hbefore).of_same happlies.request happlies.items
    · rw [hwalked.others r fun walk hw he => hr ⟨walk, hw, he⟩] at hafter
      exact hstored r after hafter
  | created userId items idempotencyKey reservation held t hrequest hnone hstart h =>
    have hcreation := addWithHold_ok (s := .start database) hsound.wellFormed rfl h
    obtain ⟨-, -, hitems, -, hfingerprint, -, -⟩ := Reservation.start_ok hstart
    intro r after hafter
    by_cases hr : r = reservation.id
    · rw [hr] at hafter
      obtain ⟨after', hafter', hcreated⟩ := hcreation.aggregate
      rw [hafter] at hafter'
      cases hafter'
      refine hcreated.fingerprinted ?_ (addWithHold_distinct h)
      rw [hitems]
      exact hfingerprint
    · rw [hcreation.others r hr] at hafter
      exact hstored r after hafter
  | leveled t heffect hexchanges =>
    rw [heffect.tables]
    exact hstored

theorem run_fingerprinted (sha256 : String → String) (hinit : database.Initial) (events : List Event) :
    (run sha256 database events).Fingerprinted sha256 := by
  refine (Runs.run_invariant_of_all
    (I := fun database : Database => database.Sound ∧ database.Fingerprinted sha256)
    (fun database event hd => ⟨step_sound sha256 hd.1 event, ?_⟩) ⟨.of_initial hinit, ?_⟩ events).2
  · exact step_of_commit hd.2 fun _ hc => (commit_cases hd.1.booked hc).fingerprinted hd.1 hd.2
  · intro r aggregate ha
    rw [Database.aggregate?_of_initial hinit] at ha
    cases ha

/-! ## Later requests -/

/-- After any run, the fingerprint of a stored reservation is that of the requests for a permutation of
its items, if the digests of the two texts are not the same by accident. -/
theorem stored_fingerprint_identifies (sha256 : String → String) (hinit : database.Initial)
    (events : List Event) {model : ReservationModel} (hm : model ∈ (run sha256 database events).reservations)
    (items : List ReservationItem) {existing : Reservation}
    (hload : (run sha256 database events).toDomain model = .ok existing)
    (hsha256 : Set.InjOn sha256 {canonicalItems existing.items, canonicalItems items}) :
    existing.requestFingerprint = reservationRequestFingerprint sha256 items ↔
      items.Perm existing.items := by
  have hloads := Database.toDomain_eq_ok_iff.mp hload
  have hfingerprinted := run_fingerprinted sha256 hinit events model.id ⟨model, _, _, _⟩
    (Database.aggregate?_eq_some_iff.mpr ⟨Table.find?_of_mem hm, rfl, rfl, rfl⟩)
  have hperm : existing.items.Perm
      (((run sha256 database events).itemsOf model.id).map ReservationItemModel.toDomain) := by
    rw [hloads.items]
    exact (Database.itemsByProduct_perm _ _).map _
  have hdistinct : (existing.items.map ReservationItem.productId).Nodup :=
    (hperm.map ReservationItem.productId).nodup_iff.mpr hfingerprinted.distinct
  have hstored : existing.requestFingerprint = sha256 (canonicalItems existing.items) := by
    rw [hloads.requestFingerprint, canonicalItems_of_perm hperm hdistinct]
    exact hfingerprinted.fingerprint
  rw [hstored, reservationRequestFingerprint]
  constructor
  · intro h
    have htexts := hsha256 (Set.mem_insert _ _) (Set.mem_insert_of_mem _ rfl) h
    exact (perm_of_canonicalItems htexts).symm
  · intro h
    rw [canonicalItems_of_perm h.symm hdistinct]

end System

/-- Two items, the later product first. -/
def Deployment.basket : List ReservationItem := [line 2 20 1 one_unit, line 1 10 2 two_units]

/-- The basket as it is loaded. -/
def Deployment.storedBasket : Reservation where
  id := 100
  userId := 7
  items := [line 1 10 2 two_units, line 2 20 1 one_unit]
  idempotencyKey := "key"
  requestFingerprint := "".pushn '0' 64
  createdAt := 0
  expiresAt := 900
  status := .pending
  releaseTargetStatus := none
  items_ne_nil := List.cons_ne_nil _ _
  createdAt_lt := by decide

/-- A digest that tells the basket from other requests. -/
def Deployment.basketDigest (text : String) : String :=
  if text = canonicalItems basket then "".pushn '0' 64 else sha256 text

/-- A later request for half of the basket has another fingerprint. -/
theorem basket_fingerprint_identifies :
    Deployment.storedBasket.requestFingerprint = reservationRequestFingerprint Deployment.basketDigest
        [Deployment.line 1 10 2 Deployment.two_units] ↔
      [Deployment.line 1 10 2 Deployment.two_units].Perm Deployment.storedBasket.items := by
  have hstored : Deployment.basketDigest (canonicalItems Deployment.storedBasket.items) = "".pushn '0' 64 := by
    decide +kernel
  have hlater : Deployment.basketDigest (canonicalItems [Deployment.line 1 10 2 Deployment.two_units]) ≠
      "".pushn '0' 64 := by decide +kernel
  have hm : toModel (Deployment.environment 1000 100 0) Deployment.storedBasket ∈
      (System.run Deployment.basketDigest Deployment.database
        [Deployment.create 1000 100 0 Deployment.basket "key"]).reservations := by decide +kernel
  have hload : (System.run Deployment.basketDigest Deployment.database
        [Deployment.create 1000 100 0 Deployment.basket "key"]).toDomain
      (toModel (Deployment.environment 1000 100 0) Deployment.storedBasket) =
        .ok Deployment.storedBasket := by decide +kernel
  refine System.stored_fingerprint_identifies Deployment.basketDigest Deployment.initial _ hm _ hload ?_
  intro a ha b hb hab
  have ha : a = _ ∨ a = _ := ha
  have hb : b = _ ∨ b = _ := hb
  rcases ha with rfl | rfl
  · rcases hb with rfl | rfl
    · rfl
    · exact absurd (hab.symm.trans hstored) hlater
  · rcases hb with rfl | rfl
    · exact absurd (hab.trans hstored) hlater
    · rfl

end InventoryReservation
