import InventoryReservation.Foundations.Runs
import InventoryReservation.System.Administration
import Mathlib.Logic.Function.Basic

/-! # Two edits of one provider

Two `update_provider` calls on the same provider. Each reads the row in one session and writes it in a later
transaction, and the four steps come in any order.
-/

namespace InventoryReservation
set_option autoImplicit false

open Relational

inductive Edit where
  | first
  | second
  deriving DecidableEq

def Edit.other : Edit → Edit
  | first => second
  | second => first

/-- How far a call has come. -/
inductive EditPhase where
  | waiting
  | opened (opened : OpenCall)
  | returned (updated : ProviderConfiguration)
  | raised (failure : ProviderFailure)

structure ProviderEdits where
  database : Database
  phase : Edit → EditPhase

namespace ProviderEdits

def start (database : Database) : ProviderEdits := ⟨database, fun _ => .waiting⟩

variable (urlsplit : String → Option SplitResult) (providerId : Uuid) (command : Edit → UpdateProviderCommand)

/-- The read of a call. -/
def read (s : ProviderEdits) (edit : Edit) : ProviderEdits :=
  match ProviderManagementService.openCall providerId (.updateProvider (command edit)) s.database with
  | .ok opened => { s with phase := Function.update s.phase edit (.opened opened) }
  | .error failure => { s with phase := Function.update s.phase edit (.raised failure) }

/-- The write of a call. -/
def write (s : ProviderEdits) (edit : Edit) (opened : OpenCall) : ProviderEdits :=
  match ProviderManagementService.closeCall urlsplit opened s.database with
  | .ok (updated, database) => ⟨database, Function.update s.phase edit (.returned updated)⟩
  | .error failure => { s with phase := Function.update s.phase edit (.raised failure) }

/-- The next step of a call; one that is over does nothing. -/
def advance (s : ProviderEdits) (edit : Edit) : ProviderEdits :=
  match s.phase edit with
  | .waiting => s.read providerId command edit
  | .opened opened => s.write urlsplit edit opened
  | .returned _ => s
  | .raised _ => s

abbrev run (s : ProviderEdits) (schedule : List Edit) : ProviderEdits :=
  Runs.run (advance urlsplit providerId command) s schedule

end ProviderEdits
end InventoryReservation
