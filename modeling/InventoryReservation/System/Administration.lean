import InventoryReservation.Repository.ProviderManagement
import InventoryReservation.System.Execution

/-! # The system with its operators

Requests interleaved with calls of the provider management service. Updating, enabling and disabling a
provider read it in one session and write it in a later transaction, so a call is open in between and
other steps may come first.
-/

namespace InventoryReservation
set_option autoImplicit false

/-- A call that changes a provider it reads first. -/
inductive ProviderCall where
  | updateProvider (command : UpdateProviderCommand)
  | enableProvider
  | disableProvider

/-- A call that has read the provider and not written it. -/
structure OpenCall where
  call : ProviderCall
  current : ProviderConfiguration

namespace ProviderManagementService
variable (urlsplit : String → Option SplitResult)

def registerProvider (providerId : Uuid) (command : RegisterProviderCommand) (database : Database) :
    Except ProviderFailure (ProviderConfiguration × Database) := do
  let provider ← registeredProvider urlsplit providerId command
  let database ← ProviderRepository.add provider database
  pure (provider, database)

/-- The part of a call before its second transaction. -/
def openCall (providerId : Uuid) (call : ProviderCall) (database : Database) :
    Except ProviderFailure OpenCall :=
  match call, ProviderRepository.get providerId database with
  | .updateProvider command, current =>
    if command.isEmpty then
      .error (.invalidProviderConfiguration "Provider update must include at least one mutable field.")
    else
      match current with
      | none => .error (.providerNotFound providerId)
      | some current => .ok ⟨.updateProvider command, current⟩
  | _, none => .error (.providerNotFound providerId)
  | call, some current => .ok ⟨call, current⟩

/-- The `set_enabled` of a call. -/
def writeEnabled (providerId : Uuid) (isEnabled : Bool) (database : Database) :
    Except ProviderFailure (ProviderConfiguration × Database) :=
  match ProviderRepository.setEnabled providerId isEnabled database with
  | (none, _) => .error (.providerNotFound providerId)
  | (some provider, database) => .ok (provider, database)

/-- The part of a call after it has read the provider. -/
def closeCall (opened : OpenCall) (database : Database) :
    Except ProviderFailure (ProviderConfiguration × Database) :=
  match opened.call with
  | .updateProvider command => do
    let updated := command.replace opened.current
    validateProviderConfiguration urlsplit updated
    let (found, database) ← ProviderRepository.update updated database
    if found then pure (updated, database) else throw (.providerNotFound updated.id)
  | .enableProvider =>
    if opened.current.isEnabled then .ok (opened.current, database)
    else do
      validateProviderConfiguration urlsplit opened.current
      writeEnabled opened.current.id true database
  | .disableProvider =>
    if ¬ opened.current.isEnabled then .ok (opened.current, database)
    else writeEnabled opened.current.id false database

end ProviderManagementService

/-! ## Steps -/

/-- The committed database and the calls between their two transactions. -/
structure Administration where
  database : Database
  opened : List OpenCall

inductive Move where
  | request (event : Event)
  | register (providerId : Uuid) (command : RegisterProviderCommand)
  | openCall (providerId : Uuid) (call : ProviderCall)
  | closeCall (index : ℕ)

namespace Administration
variable (sha256 : String → String) (urlsplit : String → Option SplitResult)

/-- The database an operation leaves: the one it was given if it raised. -/
def committed (database : Database) :
    Except ProviderFailure (ProviderConfiguration × Database) → Database
  | .ok (_, database) => database
  | .error _ => database

def step (state : Administration) : Move → Administration
  | .request event => { state with database := System.step sha256 state.database event }
  | .register providerId command =>
    let registered :=
      ProviderManagementService.registerProvider urlsplit providerId command state.database
    { state with database := committed state.database registered }
  | .openCall providerId call =>
    match ProviderManagementService.openCall providerId call state.database with
    | .error _ => state
    | .ok opened => { state with opened := state.opened ++ [opened] }
  | .closeCall index =>
    match state.opened[index]? with
    | none => state
    | some opened =>
      let closed := ProviderManagementService.closeCall urlsplit opened state.database
      { database := committed state.database closed
        opened := state.opened.eraseIdx index }

abbrev run (state : Administration) (moves : List Move) : Administration :=
  Runs.run (step sha256 urlsplit) state moves

/-- No reservations, no providers, and no calls under way. -/
structure Initial (state : Administration) : Prop where
  database : state.database.Initial
  providers : state.database.providers = .empty
  opened : state.opened = []

end Administration
end InventoryReservation
