import InventoryReservation.Meaning.Orders
import InventoryReservation.System.Deployment

/-! # Orders of confirmed reservations

Whatever is requested, in whatever order, and whatever providers answer: the confirmed reservations are
those with an order, there is one order for each, and it says what the reservation says.
-/

namespace InventoryReservation
set_option autoImplicit false

open Relational

/-- The orders of one reservation. -/
structure Database.Ordered (database : Database) (reservation : ReservationModel) : Prop where
  iff_confirmed : reservation.status = .confirmed ↔
    ∃ order ∈ database.orders, order.reservationId = reservation.id
  unique : ∀ order ∈ database.orders, ∀ order' ∈ database.orders,
    order.reservationId = reservation.id → order'.reservationId = reservation.id → order = order'
  fills : ∀ order ∈ database.orders, order.reservationId = reservation.id →
    database.Fills order reservation

/-- The orders of all reservations. -/
structure Database.AllOrdered (database : Database) : Prop where
  ordered : ∀ reservation ∈ database.reservations, database.Ordered reservation

namespace System
variable {sha256 : String → String}

/-- After any run, a reservation is confirmed exactly if it has an order; it has one at most, for its
own user and with its own items. -/
theorem run_orders_confirmed {database : Database} (hinit : database.Initial) (events : List Event) :
    (run sha256 database events).AllOrdered := by
  refine ⟨fun reservation hmem => ?_⟩
  have hf := Table.find?_of_mem hmem
  have hsound := run_sound sha256 hinit events
  have hfilled := run_filled sha256 hinit events
  have hbooked : ((run sha256 database events).orders.find? reservation.id).isSome ↔
      reservation.status = .confirmed := by
    exact (hsound.aggregates reservation.id ⟨reservation, _, _, _⟩
      (Database.aggregate?_eq_some_iff.mpr ⟨hf, rfl, rfl, rfl⟩)).booked
  constructor
  · refine hbooked.symm.trans ?_
    constructor
    · intro hsome
      obtain ⟨order, ho⟩ := Option.isSome_iff_exists.mp hsome
      exact ⟨order, Table.mem_of_find? ho, Table.key_of_find? ho⟩
    · rintro ⟨order, ho, hr⟩
      rw [← hr, Table.find?_of_mem ho]
      rfl
  · intro order ho order' ho' hr hr'
    exact Table.eq_of_key_eq ho ho' (hr.trans hr'.symm)
  · intro order ho hr
    obtain ⟨reservation', hf', hfills⟩ := hfilled.filled order ho
    rw [hr, hf] at hf'
    rw [Option.some.inj hf']
    exact hfills

/-- A reservation of two items, confirmed on the second attempt. -/
theorem run_orders_confirmed_reconciled :
    (run Deployment.sha256 Deployment.database
      [Deployment.create 1000 100 0 [Deployment.line 1 10 2, Deployment.line 2 20 1] "a",
        Deployment.confirming .unknown (Deployment.confirm 1100 100 10),
        Deployment.reconcile 1200 50]).AllOrdered :=
  run_orders_confirmed Deployment.initial _

end System
end InventoryReservation
