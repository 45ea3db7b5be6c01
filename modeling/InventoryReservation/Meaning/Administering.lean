import InventoryReservation.Meaning.Reachable
import InventoryReservation.System.Administration

/-! # What the operators' calls change

A provider management call writes provider rows only. The reservations stay as they are, with the rows of
their providers rewritten (`Rehosts`), and a row that was written has passed the validation.
-/

namespace InventoryReservation
set_option autoImplicit false

open Relational Transactional

/-! ## Rewriting provider rows -/

/-- The provider table was extended, and its rows rewritten without their identity. -/
structure Rehosts (rewrite : InventoryProviderModel → InventoryProviderModel) (s t : Database) : Prop where
  tables : t = { s with providers := t.providers }
  kind : ∀ provider, (rewrite provider).kind = provider.kind
  driver : ∀ provider, (rewrite provider).driver = provider.driver
  found : ∀ id provider, s.providers.find? id = some provider →
    t.providers.find? id = some (rewrite provider)

def AllocationRow.rehost (rewrite : InventoryProviderModel → InventoryProviderModel) (row : AllocationRow) :
    AllocationRow :=
  { row with provider := rewrite row.provider }

def AllocationView.rehost (rewrite : InventoryProviderModel → InventoryProviderModel)
    (view : AllocationView) : AllocationView :=
  { view with provider := rewrite view.provider }

def Aggregate.rehost (rewrite : InventoryProviderModel → InventoryProviderModel) (aggregate : Aggregate) :
    Aggregate :=
  { aggregate with allocations := aggregate.allocations.map (AllocationView.rehost rewrite) }

namespace Rehosts
variable {rewrite : InventoryProviderModel → InventoryProviderModel} {s t : Database}

theorem allocationRows (h : Rehosts rewrite s t) (hwf : s.WellFormed) (r : Uuid) :
    t.allocationRows r = (s.allocationRows r).map (AllocationRow.rehost rewrite) := by
  have hallocations : t.allocations = s.allocations := by rw [h.tables]
  have hitems : t.items = s.items := by rw [h.tables]
  unfold Database.allocationRows
  rw [hallocations, List.map_filterMap]
  apply List.filterMap_congr
  intro allocation ha
  obtain ⟨provider, hp⟩ := Option.isSome_iff_exists.mp (hwf.allocationProvider allocation ha)
  have hp' := h.found allocation.providerId provider hp
  unfold Database.joinAllocation
  rw [hitems, hp, hp']
  cases s.items.find? allocation.reservationItemId with
  | none => rfl
  | some item =>
    dsimp only
    split <;> rfl

theorem aggregate? (h : Rehosts rewrite s t) (hwf : s.WellFormed) (r : Uuid) :
    t.aggregate? r = (s.aggregate? r).map (Aggregate.rehost rewrite) := by
  have hreservations : t.reservations = s.reservations := by rw [h.tables]
  have hitems : t.items = s.items := by rw [h.tables]
  have horders : t.orders = s.orders := by rw [h.tables]
  have hoperations : t.operations = s.operations := by rw [h.tables]
  unfold Database.aggregate?
  rw [hreservations, Option.map_map]
  congr 1
  funext reservation
  have hviews : t.allocationViews r = (s.allocationViews r).map (AllocationView.rehost rewrite) := by
    unfold Database.allocationViews
    rw [h.allocationRows hwf, List.map_map, List.map_map]
    apply List.map_congr_left
    intro row _
    unfold Function.comp Database.view
    rw [hoperations]
    rfl
  have hitemsOf : t.itemsOf r = s.itemsOf r := by
    unfold Database.itemsOf
    rw [hitems]
  rw [Function.comp_apply, hviews, hitemsOf, horders]
  rfl

theorem isSome_provider (h : Rehosts rewrite s t) {id : Uuid} (hsome : (s.providers.find? id).isSome) :
    (t.providers.find? id).isSome := by
  obtain ⟨provider, hp⟩ := Option.isSome_iff_exists.mp hsome
  rw [h.found id provider hp]
  rfl

theorem wellFormed (h : Rehosts rewrite s t) (hwf : s.WellFormed) : t.WellFormed where
  itemReservation item hi := by
    have hreservations : t.reservations = s.reservations := by rw [h.tables]
    have hitems : t.items = s.items := by rw [h.tables]
    rw [hitems] at hi
    rw [hreservations]
    exact hwf.itemReservation item hi
  allocationItem allocation ha := by
    have hallocations : t.allocations = s.allocations := by rw [h.tables]
    have hitems : t.items = s.items := by rw [h.tables]
    rw [hallocations] at ha
    rw [hitems]
    exact hwf.allocationItem allocation ha
  allocationProvider allocation ha := by
    have hallocations : t.allocations = s.allocations := by rw [h.tables]
    rw [hallocations] at ha
    exact h.isSome_provider (hwf.allocationProvider allocation ha)
  operationOwner operation ho := by
    have hoperations : t.operations = s.operations := by rw [h.tables]
    rw [hoperations] at ho
    obtain ⟨kind, r, hkey, htype, row, hrow, hid⟩ := hwf.operationOwner operation ho
    refine ⟨kind, r, hkey, htype, row.rehost rewrite, ?_, hid⟩
    rw [h.allocationRows hwf]
    exact List.mem_map_of_mem hrow
  orderReservation r hr := by
    have horders : t.orders = s.orders := by rw [h.tables]
    have hreservations : t.reservations = s.reservations := by rw [h.tables]
    rw [horders] at hr
    rw [hreservations]
    exact hwf.orderReservation r hr
  uniqueRequest a ha b hb := by
    have hreservations : t.reservations = s.reservations := by rw [h.tables]
    rw [hreservations] at ha hb
    exact hwf.uniqueRequest a ha b hb

theorem sound (h : Rehosts rewrite s t) (hsound : s.Sound) : t.Sound where
  wellFormed := h.wellFormed hsound.wellFormed
  aggregates r after ha := by
    rw [h.aggregate? hsound.wellFormed] at ha
    obtain ⟨before, hb, rfl⟩ := Option.map_eq_some_iff.mp ha
    have hbefore := hsound.aggregates r before hb
    refine ⟨hbefore.status, hbefore.target, hbefore.releasing, hbefore.booked, hbefore.items,
      hbefore.lifetime, ?_⟩
    obtain ⟨done, hdone, hcovers⟩ := hbefore.covers
    refine ⟨done, hdone, ?_⟩
    rw [← hcovers, Aggregate.rehost, List.map_map]
    rfl

end Rehosts

/-! ## One call -/

section Calls
variable {urlsplit : String → Option SplitResult} {s t : Database}

theorem Rehosts.of_update {rewrite : InventoryProviderModel → InventoryProviderModel}
    (hid : ∀ row, (rewrite row).id = row.id) (hkind : ∀ row, (rewrite row).kind = row.kind)
    (hdriver : ∀ row, (rewrite row).driver = row.driver) (providerId : Uuid) :
    Rehosts (fun row => if row.id = providerId then rewrite row else row) s
      { s with providers := s.providers.update providerId rewrite hid } where
  tables := rfl
  kind row := by
    split
    · exact hkind row
    · rfl
  driver row := by
    split
    · exact hdriver row
    · rfl
  found id provider hf := by
    have hkey : provider.id = id := Table.key_of_find? hf
    dsimp only
    rw [Table.find?_update, hf, hkey]
    split <;> rfl

/-- A provider is validated before it is added. -/
theorem registerProvider_inserts {providerId : Uuid} {command : RegisterProviderCommand}
    {provider : ProviderConfiguration}
    (h : ProviderManagementService.registerProvider urlsplit providerId command s = .ok (provider, t)) :
    validateProviderConfiguration urlsplit provider = .ok () ∧
      ∃ providers, s.providers.insert? provider.toModel = some providers ∧ t = { s with providers } := by
  unfold ProviderManagementService.registerProvider registeredProvider at h
  obtain ⟨added, hadded, h⟩ := except_bind_ok_iff.mp h
  obtain ⟨_, hvalid, hadded⟩ := except_bind_ok_iff.mp hadded
  obtain ⟨database, hdatabase, h⟩ := except_bind_ok_iff.mp h
  cases hadded
  cases h
  unfold ProviderRepository.add at hdatabase
  split at hdatabase
  · cases hdatabase
  · cases hdatabase
  · next providers hv hi =>
    split at hdatabase
    · cases hdatabase
    · cases hdatabase
      exact ⟨hvalid, providers, hi, rfl⟩

theorem registerProvider_ok {providerId : Uuid} {command : RegisterProviderCommand}
    {provider : ProviderConfiguration}
    (h : ProviderManagementService.registerProvider urlsplit providerId command s = .ok (provider, t)) :
    Rehosts id s t ∧ ((∀ row ∈ s.providers, row.toDomain.Usable) →
      ∀ row ∈ t.providers, row.toDomain.Usable) := by
  obtain ⟨hvalid, providers, hi, rfl⟩ := registerProvider_inserts h
  refine ⟨⟨rfl, fun _ => rfl, fun _ => rfl, fun id stored hf => ?_⟩, fun hall row hr => ?_⟩
  · have hfind := Table.find?_insert? hi id
    refine hfind.trans ?_
    split
    · next he =>
      have hnone := (Table.insert?_eq_some_iff.mp hi).1
      rw [← he, hf] at hnone
      cases hnone
    · exact hf
  · rcases (Table.mem_insert? hi row).mp hr with hr | rfl
    · exact hall row hr
    · exact validateProviderConfiguration_ok hvalid

/-- A call that gets past its read has read the row of the provider. -/
theorem openCall_update_ok {providerId : Uuid} {command : UpdateProviderCommand} {opened : OpenCall}
    (h : ProviderManagementService.openCall providerId (.updateProvider command) s = .ok opened) :
    ∃ row, s.providers.find? providerId = some row ∧ opened = ⟨.updateProvider command, row.toDomain⟩ := by
  unfold ProviderManagementService.openCall ProviderRepository.get at h
  dsimp only at h
  split at h
  · cases h
  · cases hf : s.providers.find? providerId with
    | none =>
      rw [hf] at h
      cases h
    | some row =>
      rw [hf] at h
      exact ⟨row, rfl, (Except.ok.inj h).symm⟩

/-- A call that gets past its write has written what it read, with its own fields replaced, and it has
validated that. -/
theorem closeCall_update_ok {command : UpdateProviderCommand} {current updated : ProviderConfiguration}
    (h : ProviderManagementService.closeCall urlsplit ⟨.updateProvider command, current⟩ s = .ok (updated, t)) :
    validateProviderConfiguration urlsplit (command.replace current) = .ok () ∧
      t = { s with
        providers := s.providers.update current.id (ProviderRepository.assign (command.replace current))
          (ProviderRepository.assign_id _) } := by
  unfold ProviderManagementService.closeCall at h
  obtain ⟨_, hvalid, h⟩ := except_bind_ok_iff.mp h
  obtain ⟨⟨found, database⟩, hupdate, h⟩ := except_bind_ok_iff.mp h
  dsimp only at h
  unfold ProviderRepository.update at hupdate
  split at hupdate
  · cases hupdate
    cases h
  · split at hupdate
    · cases hupdate
    · split at hupdate
      · cases hupdate
      · cases hupdate
        cases h
        exact ⟨hvalid, rfl⟩

/-- The row after the write, where there was one. -/
theorem closeCall_update_find {command : UpdateProviderCommand} {current updated : ProviderConfiguration}
    (h : ProviderManagementService.closeCall urlsplit ⟨.updateProvider command, current⟩ s = .ok (updated, t))
    {row : InventoryProviderModel} (hrow : s.providers.find? current.id = some row) :
    t.providers.find? current.id = some (ProviderRepository.assign (command.replace current) row) := by
  rw [(closeCall_update_ok h).2]
  dsimp only
  rw [Table.find?_update_self, hrow]
  rfl

/-- What closing a call wrote: nothing, a validated configuration, or an enablement. -/
inductive Closed (urlsplit : String → Option SplitResult) (opened : OpenCall) (s : Database) :
    Database → Prop
  | unchanged : Closed urlsplit opened s s
  | updated (command : UpdateProviderCommand) (hcall : opened.call = .updateProvider command)
      (hvalid : validateProviderConfiguration urlsplit (command.replace opened.current) = .ok ()) :
      Closed urlsplit opened s { s with
        providers := s.providers.update opened.current.id
          (ProviderRepository.assign (command.replace opened.current)) (ProviderRepository.assign_id _) }
  | enabled (isEnabled : Bool) : Closed urlsplit opened s { s with
      providers := s.providers.update opened.current.id
        (ProviderRepository.enablement isEnabled) (ProviderRepository.enablement_id isEnabled) }

theorem writeEnabled_ok {opened : OpenCall} {isEnabled : Bool} {written : ProviderConfiguration}
    (h : ProviderManagementService.writeEnabled opened.current.id isEnabled s = .ok (written, t)) :
    Closed urlsplit opened s t := by
  unfold ProviderManagementService.writeEnabled ProviderRepository.setEnabled at h
  dsimp only at h
  split at h
  · cases h
  · next he =>
    cases h
    obtain ⟨-, hdatabase⟩ := Prod.mk.inj he
    rw [← hdatabase]
    exact .enabled isEnabled

theorem closeCall_ok {opened : OpenCall} {written : ProviderConfiguration}
    (h : ProviderManagementService.closeCall urlsplit opened s = .ok (written, t)) :
    Closed urlsplit opened s t := by
  obtain ⟨call, current⟩ := opened
  cases call with
  | updateProvider command =>
    obtain ⟨hvalid, rfl⟩ := closeCall_update_ok h
    exact .updated command rfl hvalid
  | enableProvider =>
    unfold ProviderManagementService.closeCall at h
    dsimp only at h
    split at h
    · cases h
      exact .unchanged
    · obtain ⟨_, -, h⟩ := except_bind_ok_iff.mp h
      exact writeEnabled_ok h
  | disableProvider =>
    unfold ProviderManagementService.closeCall at h
    dsimp only at h
    split at h
    · cases h
      exact .unchanged
    · exact writeEnabled_ok h

/-- The rewriting of the rows by a call. -/
theorem Closed.rehosts {opened : OpenCall} (h : Closed urlsplit opened s t) :
    ∃ rewrite, Rehosts rewrite s t := by
  cases h with
  | unchanged => exact ⟨id, rfl, fun _ => rfl, fun _ => rfl, fun _ _ hf => hf⟩
  | updated command hcall hvalid =>
    exact ⟨_, .of_update (ProviderRepository.assign_id _) (fun _ => rfl) (fun _ => rfl) opened.current.id⟩
  | enabled isEnabled =>
    exact ⟨_, .of_update (ProviderRepository.enablement_id isEnabled) (fun _ => rfl) (fun _ => rfl)
      opened.current.id⟩

/-- The call read a row that is still there, of the same kind and driver. -/
def OpenCall.Reads (opened : OpenCall) (database : Database) : Prop :=
  ∃ row, database.providers.find? opened.current.id = some row ∧ row.kind = opened.current.kind ∧
    row.driver = opened.current.driver

theorem Rehosts.reads {rewrite : InventoryProviderModel → InventoryProviderModel} (h : Rehosts rewrite s t)
    {opened : OpenCall} (hreads : opened.Reads s) : opened.Reads t := by
  obtain ⟨row, hf, hkind, hdriver⟩ := hreads
  exact ⟨rewrite row, h.found _ row hf, (h.kind row).trans hkind, (h.driver row).trans hdriver⟩

/-- What was usable before a call is usable after it. -/
theorem Closed.usable {opened : OpenCall} (h : Closed urlsplit opened s t) (hreads : opened.Reads s)
    (hall : ∀ row ∈ s.providers, row.toDomain.Usable) : ∀ row ∈ t.providers, row.toDomain.Usable := by
  obtain ⟨stored, hf, hkind, hdriver⟩ := hreads
  intro row hr
  cases h with
  | unchanged => exact hall row hr
  | updated command hcall hvalid =>
    have husable := validateProviderConfiguration_ok hvalid
    dsimp only at hr
    rcases Table.mem_update.mp hr with ⟨hr, -⟩ | ⟨before, hb, hid, rfl⟩
    · exact hall row hr
    · have hstored : before = stored := Table.eq_of_key_eq hb (Table.mem_of_find? hf)
        (hid.trans (Table.key_of_find? hf).symm)
      subst hstored
      refine ⟨fun hk => husable.baseUrl ?_, fun hk => ?_, husable.confirm, husable.release⟩
      · exact hkind.symm.trans hk
      · exact (hall before hb).driver hk
  | enabled isEnabled =>
    dsimp only at hr
    rcases Table.mem_update.mp hr with ⟨hr, -⟩ | ⟨before, hb, -, rfl⟩
    · exact hall row hr
    · have hbefore := hall before hb
      exact ⟨hbefore.baseUrl, hbefore.driver, hbefore.confirm, hbefore.release⟩

theorem openCall_ok {providerId : Uuid} {call : ProviderCall} {opened : OpenCall}
    (h : ProviderManagementService.openCall providerId call s = .ok opened) : opened.Reads s := by
  unfold ProviderManagementService.openCall ProviderRepository.get at h
  cases hf : s.providers.find? providerId with
  | none =>
    rw [hf] at h
    dsimp only [Option.map_none] at h
    split at h
    · split at h <;> cases h
    · cases h
    · next heq =>
      cases heq
  | some row =>
    have hid : row.id = providerId := Table.key_of_find? hf
    have hreads : ∀ call, (⟨call, row.toDomain⟩ : OpenCall).Reads s := by
      intro call
      refine ⟨row, ?_, rfl, rfl⟩
      have hcurrent : row.toDomain.id = row.id := rfl
      rw [hcurrent, hid]
      exact hf
    rw [hf] at h
    dsimp only [Option.map_some] at h
    cases call with
    | updateProvider command =>
      dsimp only at h
      split at h
      · cases h
      · cases h
        exact hreads _
    | enableProvider =>
      cases h
      exact hreads _
    | disableProvider =>
      cases h
      exact hreads _

end Calls
end InventoryReservation
