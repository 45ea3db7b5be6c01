import InventoryReservation.Controller.Internal
import InventoryReservation.Controller.Reservation

/-! # The system with its internal API

Calls of the internal API run as threads: any number of them, one session at a time and in any order, among
the requests of customers and workers, which are one transaction each.
-/

namespace InventoryReservation
set_option autoImplicit false

open Relational Sessions

/-- What a thread is there to do. -/
inductive Work where
  | internal (call : InternalCall)
  | traffic (traffic : Traffic)

def Traffic.answer (sha256 : String → String) (database : Database) : Traffic → Answer
  | .customer environment call => .http (call.response sha256 environment database)
  | .internal _ => .executed

def Work.program (sha256 : String → String) (settings : InternalSettings) : Work → Program InternalStore Answer
  | internal call => call.program settings
  | traffic request => .transaction fun store =>
      (request.answer sha256 store.database,
        { store with database := request.step sha256 store.database })

/-- A database that was just migrated. -/
def InternalStore.empty : InternalStore where
  database :=
    { products := []
      providers := .empty
      offers := .empty
      reservations := .empty
      items := .empty
      allocations := .empty
      operations := .empty
      orders := .empty
      orderItems := .empty }
  catalogue := .empty
  credentials := .empty

/-- The threads before their first session. -/
def InternalApi.start {τ : Type} (sha256 : String → String) (settings : InternalSettings) (works : τ → Work)
    (store : InternalStore) : Threads τ InternalStore Answer where
  shared := store
  programs thread := (works thread).program sha256 settings

end InventoryReservation
