import InventoryReservation.Concurrency.ProviderEdits
import InventoryReservation.Meaning.Administering
import InventoryReservation.System.Deployment

/-! # Edits that get lost

`update_provider` writes every mutable column with what it read, so of two calls that both read before either
writes, the one that writes last puts the other one's fields back.
-/

namespace InventoryReservation
set_option autoImplicit false

open Relational

namespace UpdateProviderCommand

/-- The configuration has the value the command gives, in every field the command sets. -/
structure Sets (command : UpdateProviderCommand) (provider : ProviderConfiguration) : Prop where
  name : ∀ name ∈ command.name, provider.name = name
  baseUrl : ∀ baseUrl ∈ command.baseUrl, provider.baseUrl = some baseUrl
  requestTimeoutMs : ∀ requestTimeoutMs ∈ command.requestTimeoutMs, provider.requestTimeoutMs = requestTimeoutMs
  capabilities : ∀ capabilities ∈ command.capabilities, provider.capabilities = capabilities

/-- No field is set by both commands. -/
structure Disjoint (command other : UpdateProviderCommand) : Prop where
  name : command.name = none ∨ other.name = none
  baseUrl : command.baseUrl = none ∨ other.baseUrl = none
  requestTimeoutMs : command.requestTimeoutMs = none ∨ other.requestTimeoutMs = none
  capabilities : command.capabilities = none ∨ other.capabilities = none

variable {command other : UpdateProviderCommand} {current : ProviderConfiguration} {row : InventoryProviderModel}

theorem Disjoint.symm (h : command.Disjoint other) : other.Disjoint command :=
  ⟨h.name.symm, h.baseUrl.symm, h.requestTimeoutMs.symm, h.capabilities.symm⟩

/-- What a call writes has the fields of its command. -/
theorem sets_assign (command : UpdateProviderCommand) (current : ProviderConfiguration)
    (row : InventoryProviderModel) :
    command.Sets (ProviderRepository.assign (command.replace current) row).toDomain := by
  constructor
  · intro name h
    exact congrArg (Option.getD · current.name) h
  · intro baseUrl h
    exact congrArg (Option.or · current.baseUrl) h
  · intro requestTimeoutMs h
    exact congrArg (Option.getD · current.requestTimeoutMs) h
  · intro capabilities h
    exact congrArg (Option.getD · current.capabilities) h

/-- The fields of the other command are as the call has read them. -/
theorem Disjoint.sets_assign_iff (h : command.Disjoint other) :
    other.Sets (ProviderRepository.assign (command.replace current) row).toDomain ↔ other.Sets current := by
  have hname : ∀ name ∈ other.name, (command.replace current).name = current.name := by
    intro name hn
    have hnone : command.name = none := h.name.resolve_right (by rw [hn]; exact Option.some_ne_none name)
    exact congrArg (Option.getD · current.name) hnone
  have hbase : ∀ baseUrl ∈ other.baseUrl, (command.replace current).baseUrl = current.baseUrl := by
    intro baseUrl hb
    have hnone : command.baseUrl = none := h.baseUrl.resolve_right (by rw [hb]; exact Option.some_ne_none baseUrl)
    exact (congrArg (Option.or · current.baseUrl) hnone).trans (Option.none_or)
  have htimeout : ∀ timeout ∈ other.requestTimeoutMs,
      (command.replace current).requestTimeoutMs = current.requestTimeoutMs := by
    intro timeout ht
    have hnone : command.requestTimeoutMs = none :=
      h.requestTimeoutMs.resolve_right (by rw [ht]; exact Option.some_ne_none timeout)
    exact congrArg (Option.getD · current.requestTimeoutMs) hnone
  have hcapabilities : ∀ capabilities ∈ other.capabilities,
      (command.replace current).capabilities = current.capabilities := by
    intro capabilities hc
    have hnone : command.capabilities = none :=
      h.capabilities.resolve_right (by rw [hc]; exact Option.some_ne_none capabilities)
    exact congrArg (Option.getD · current.capabilities) hnone
  constructor
  · intro hs
    exact ⟨fun name hn => (hname name hn).symm.trans (hs.name name hn),
      fun baseUrl hb => (hbase baseUrl hb).symm.trans (hs.baseUrl baseUrl hb),
      fun timeout ht => (htimeout timeout ht).symm.trans (hs.requestTimeoutMs timeout ht),
      fun capabilities hc => (hcapabilities capabilities hc).symm.trans (hs.capabilities capabilities hc)⟩
  · intro hs
    exact ⟨fun name hn => (hname name hn).trans (hs.name name hn),
      fun baseUrl hb => (hbase baseUrl hb).trans (hs.baseUrl baseUrl hb),
      fun timeout ht => (htimeout timeout ht).trans (hs.requestTimeoutMs timeout ht),
      fun capabilities hc => (hcapabilities capabilities hc).trans (hs.capabilities capabilities hc)⟩

end UpdateProviderCommand

/-! ## Schedules -/

def EditPhase.isOver : EditPhase → Prop
  | waiting => False
  | opened _ => False
  | returned _ => True
  | raised _ => True

theorem Edit.eq_or_other (edit edit' : Edit) : edit' = edit ∨ edit' = edit.other := by
  cases edit <;> cases edit' <;> decide

theorem Edit.other_ne (edit : Edit) : edit.other ≠ edit := by
  cases edit <;> decide

theorem Edit.other_other (edit : Edit) : edit.other.other = edit := by
  cases edit <;> rfl

namespace ProviderEdits
variable {urlsplit : String → Option SplitResult} {providerId : Uuid} {command : Edit → UpdateProviderCommand}
  {s : ProviderEdits} {edit : Edit}

theorem toDomain_id_of_find? {row : InventoryProviderModel} (h : s.database.providers.find? providerId = some row) :
    row.toDomain.id = providerId := Table.key_of_find? (r := row) h

theorem advance_over (h : (s.phase edit).isOver) : s.advance urlsplit providerId command edit = s := by
  unfold advance
  cases hp : s.phase edit with
  | waiting => exact absurd h (by rw [hp]; exact id)
  | opened opened => exact absurd h (by rw [hp]; exact id)
  | returned updated => rfl
  | raised failure => rfl

theorem advance_phase_of_ne {edit' : Edit} (h : edit' ≠ edit) :
    (s.advance urlsplit providerId command edit).phase edit' = s.phase edit' := by
  unfold advance
  cases s.phase edit with
  | waiting =>
    dsimp only
    unfold read
    split <;> exact Function.update_of_ne h _ _
  | opened opened =>
    dsimp only
    unfold write
    split <;> exact Function.update_of_ne h _ _
  | returned updated => rfl
  | raised failure => rfl

/-- A call that is over stays as it is. -/
theorem run_phase_over (h : (s.phase edit).isOver) (schedule : List Edit) :
    (s.run urlsplit providerId command schedule).phase edit = s.phase edit := by
  induction schedule generalizing s with
  | nil => rfl
  | cons edit' schedule ih =>
    have hkept : (s.advance urlsplit providerId command edit').phase edit = s.phase edit := by
      by_cases he : edit = edit'
      · rw [← he, advance_over h]
      · exact advance_phase_of_ne he
    have hover : ((s.advance urlsplit providerId command edit').phase edit).isOver := by rwa [hkept]
    exact (ih hover).trans hkept

/-- The call ends with the row it was to write. -/
def Returns (s : ProviderEdits) (edit : Edit) : Prop := ∃ updated, s.phase edit = .returned updated

/-- A call that returns in the end has not raised before. -/
theorem Returns.not_raised {schedule : List Edit} (h : (s.run urlsplit providerId command schedule).Returns edit)
    (failure : ProviderFailure) : s.phase edit ≠ .raised failure := by
  intro hraised
  obtain ⟨updated, hreturned⟩ := h
  rw [run_phase_over (by rw [hraised]; trivial), hraised] at hreturned
  cases hreturned

theorem advance_waiting (hw : s.phase edit = .waiting)
    (hr : ∀ failure, (s.advance urlsplit providerId command edit).phase edit ≠ .raised failure) :
    ∃ row, s.database.providers.find? providerId = some row ∧
      s.advance urlsplit providerId command edit = { s with
        phase := Function.update s.phase edit (.opened ⟨.updateProvider (command edit), row.toDomain⟩) } := by
  unfold advance at hr ⊢
  rw [hw] at hr ⊢
  dsimp only at hr ⊢
  unfold read at hr ⊢
  cases ho : ProviderManagementService.openCall providerId (.updateProvider (command edit)) s.database with
  | error failure =>
    rw [ho] at hr
    exact absurd (Function.update_self _ _ _) (hr failure)
  | ok opened =>
    obtain ⟨row, hf, rfl⟩ := openCall_update_ok ho
    exact ⟨row, hf, rfl⟩

theorem advance_opened {current : ProviderConfiguration} {row : InventoryProviderModel}
    (ho : s.phase edit = .opened ⟨.updateProvider (command edit), current⟩)
    (hrow : s.database.providers.find? current.id = some row)
    (hr : ∀ failure, (s.advance urlsplit providerId command edit).phase edit ≠ .raised failure) :
    ((s.advance urlsplit providerId command edit).database.providers.find? current.id = some
      (ProviderRepository.assign ((command edit).replace current) row)) ∧
      (s.advance urlsplit providerId command edit).Returns edit := by
  unfold Returns
  unfold advance at hr ⊢
  rw [ho] at hr ⊢
  dsimp only at hr ⊢
  unfold write at hr ⊢
  cases hc : ProviderManagementService.closeCall urlsplit ⟨.updateProvider (command edit), current⟩ s.database with
  | error failure =>
    rw [hc] at hr
    exact absurd (Function.update_self _ _ _) (hr failure)
  | ok closed =>
    obtain ⟨updated, database⟩ := closed
    exact ⟨closeCall_update_find hc hrow, updated, Function.update_self _ _ _⟩

theorem run_over (h : (s.phase edit).isOver) (hother : (s.phase edit.other).isOver) (schedule : List Edit) :
    s.run urlsplit providerId command schedule = s := by
  induction schedule with
  | nil => rfl
  | cons edit' schedule ih =>
    have hstays : s.advance urlsplit providerId command edit' = s := by
      rcases edit.eq_or_other edit' with rfl | rfl
      · exact advance_over h
      · exact advance_over hother
    have hrun : s.run urlsplit providerId command (edit' :: schedule) =
        (s.advance urlsplit providerId command edit').run urlsplit providerId command schedule := rfl
    rw [hrun, hstays, ih]

theorem Returns.isOver (h : s.Returns edit) : (s.phase edit).isOver := by
  obtain ⟨updated, hreturned⟩ := h
  rw [hreturned]
  trivial

/-- The last write of a schedule is what is left. -/
theorem run_opened {schedule : List Edit} {current : ProviderConfiguration} {row : InventoryProviderModel}
    (ho : s.phase edit = .opened ⟨.updateProvider (command edit), current⟩)
    (hrow : s.database.providers.find? current.id = some row) (hother : (s.phase edit.other).isOver)
    (h : (s.run urlsplit providerId command schedule).Returns edit) :
    (s.run urlsplit providerId command schedule).database.providers.find? current.id =
      some (ProviderRepository.assign ((command edit).replace current) row) := by
  induction schedule with
  | nil =>
    obtain ⟨updated, hreturned⟩ := h
    have hopened : s.phase edit = .returned updated := hreturned
    rw [ho] at hopened
    cases hopened
  | cons edit' schedule ih =>
    have hrun : s.run urlsplit providerId command (edit' :: schedule) =
        (s.advance urlsplit providerId command edit').run urlsplit providerId command schedule := rfl
    rw [hrun] at h ⊢
    rcases edit.eq_or_other edit' with rfl | rfl
    · obtain ⟨hwritten, hreturns⟩ := advance_opened ho hrow h.not_raised
      have hstill : ((s.advance urlsplit providerId command edit').phase edit'.other).isOver := by
        rwa [advance_phase_of_ne edit'.other_ne]
      rw [run_over hreturns.isOver hstill]
      exact hwritten
    · rw [advance_over hother] at h ⊢
      exact ih h

/-- A call that starts after the other one is over works on the row it left. -/
theorem run_waiting {schedule : List Edit} (hw : s.phase edit = .waiting) (hother : (s.phase edit.other).isOver)
    (h : (s.run urlsplit providerId command schedule).Returns edit) :
    ∃ row, s.database.providers.find? providerId = some row ∧
      (s.run urlsplit providerId command schedule).database.providers.find? providerId =
        some (ProviderRepository.assign ((command edit).replace row.toDomain) row) := by
  induction schedule with
  | nil =>
    obtain ⟨updated, hreturned⟩ := h
    have hwaiting : s.phase edit = .returned updated := hreturned
    rw [hw] at hwaiting
    cases hwaiting
  | cons edit' schedule ih =>
    have hrun : s.run urlsplit providerId command (edit' :: schedule) =
        (s.advance urlsplit providerId command edit').run urlsplit providerId command schedule := rfl
    rw [hrun] at h ⊢
    rcases edit.eq_or_other edit' with rfl | rfl
    · obtain ⟨row, hf, hs⟩ := advance_waiting hw h.not_raised
      have hid := toDomain_id_of_find? hf
      rw [hs] at h ⊢
      refine ⟨row, hf, ?_⟩
      have hopened : (Function.update s.phase edit'
          (.opened ⟨.updateProvider (command edit'), row.toDomain⟩)) edit' =
            .opened ⟨.updateProvider (command edit'), row.toDomain⟩ := Function.update_self _ _ _
      have hover : ((Function.update s.phase edit'
          (.opened ⟨.updateProvider (command edit'), row.toDomain⟩)) edit'.other).isOver := by
        rwa [Function.update_of_ne edit'.other_ne]
      have hwritten := run_opened hopened (by rwa [hid]) hover h
      rwa [hid] at hwritten
    · rw [advance_over hother] at h ⊢
      exact ih h

/-! ## What is left of two edits -/

/-- The row has every field that either command sets as the command gave it. -/
def KeepsEdits (providerId : Uuid) (command : Edit → UpdateProviderCommand) (s : ProviderEdits) : Prop :=
  ∃ row, s.database.providers.find? providerId = some row ∧ ∀ edit, (command edit).Sets row.toDomain

/-- Where both calls read before either writes, the one that writes first changes nothing of what is
stored. -/
def Harmless (providerId : Uuid) (command : Edit → UpdateProviderCommand) (database : Database)
    (schedule : List Edit) : Prop :=
  ∀ edit writer later, schedule = edit :: edit.other :: writer :: later →
    ∀ row ∈ database.providers.find? providerId, (command writer).Sets row.toDomain

variable {row : InventoryProviderModel} {schedule : List Edit}

/-- A call that reads after the other one has written keeps its fields. -/
theorem keeps_edits_of_serial (hdisjoint : (command edit.other).Disjoint (command edit))
    (ho : s.phase edit = .opened ⟨.updateProvider (command edit), row.toDomain⟩)
    (hw : s.phase edit.other = .waiting) (hf : s.database.providers.find? providerId = some row)
    (hreturns : ∀ edit', (s.run urlsplit providerId command (edit :: schedule)).Returns edit') :
    (s.run urlsplit providerId command (edit :: schedule)).KeepsEdits providerId command := by
  have hrun : s.run urlsplit providerId command (edit :: schedule) =
      (s.advance urlsplit providerId command edit).run urlsplit providerId command schedule := rfl
  have hid := toDomain_id_of_find? hf
  rw [hrun] at hreturns ⊢
  obtain ⟨hwritten, hdone⟩ := advance_opened ho (by rwa [hid]) (hreturns edit).not_raised
  rw [hid] at hwritten
  have hover : ((s.advance urlsplit providerId command edit).phase edit.other.other).isOver := by
    rw [edit.other_other]
    exact hdone.isOver
  obtain ⟨row', hf', hlast⟩ := run_waiting (by rwa [advance_phase_of_ne edit.other_ne]) hover (hreturns edit.other)
  obtain rfl : _ = row' := Option.some.inj (hwritten.symm.trans hf')
  refine ⟨_, hlast, fun edit' => ?_⟩
  rcases edit.eq_or_other edit' with rfl | rfl
  · exact hdisjoint.sets_assign_iff.mpr (UpdateProviderCommand.sets_assign _ _ _)
  · exact UpdateProviderCommand.sets_assign _ _ _

/-- Of two calls that have both read, the one that writes first keeps its fields only if they were there. -/
theorem keeps_edits_iff_of_overlap {writer : Edit} (hdisjoint : (command writer.other).Disjoint (command writer))
    (ho : ∀ edit, s.phase edit = .opened ⟨.updateProvider (command edit), row.toDomain⟩)
    (hf : s.database.providers.find? providerId = some row)
    (hreturns : ∀ edit, (s.run urlsplit providerId command (writer :: schedule)).Returns edit) :
    (s.run urlsplit providerId command (writer :: schedule)).KeepsEdits providerId command ↔
      (command writer).Sets row.toDomain := by
  have hrun : s.run urlsplit providerId command (writer :: schedule) =
      (s.advance urlsplit providerId command writer).run urlsplit providerId command schedule := rfl
  have hid := toDomain_id_of_find? hf
  rw [hrun] at hreturns ⊢
  obtain ⟨hwritten, hdone⟩ := advance_opened (ho writer) (by rwa [hid]) (hreturns writer).not_raised
  have hover : ((s.advance urlsplit providerId command writer).phase writer.other.other).isOver := by
    rw [writer.other_other]
    exact hdone.isOver
  have hlast := run_opened (by rw [advance_phase_of_ne writer.other_ne, ho]) hwritten hover (hreturns writer.other)
  rw [hid] at hlast
  constructor
  · rintro ⟨row', hf', hsets⟩
    obtain rfl : _ = row' := Option.some.inj (hlast.symm.trans hf')
    exact hdisjoint.sets_assign_iff.mp (hsets writer)
  · intro hsets
    refine ⟨_, hlast, fun edit => ?_⟩
    rcases writer.eq_or_other edit with rfl | rfl
    · exact hdisjoint.sets_assign_iff.mpr hsets
    · exact UpdateProviderCommand.sets_assign _ _ _

/-- After one call has read, what is left depends on whether the other one reads next. -/
theorem keeps_edits_iff_of_opened (hapart : ∀ edit, (command edit.other).Disjoint (command edit))
    (ho : s.phase edit = .opened ⟨.updateProvider (command edit), row.toDomain⟩)
    (hw : s.phase edit.other = .waiting) (hf : s.database.providers.find? providerId = some row)
    (hreturns : ∀ edit', (s.run urlsplit providerId command schedule).Returns edit') :
    (s.run urlsplit providerId command schedule).KeepsEdits providerId command ↔
      ∀ writer later, schedule = edit.other :: writer :: later → (command writer).Sets row.toDomain := by
  cases schedule with
  | nil =>
    obtain ⟨updated, hreturned⟩ := hreturns edit
    have hopened : s.phase edit = .returned updated := hreturned
    rw [ho] at hopened
    cases hopened
  | cons edit' schedule =>
    rcases edit.eq_or_other edit' with rfl | rfl
    · refine iff_of_true (keeps_edits_of_serial (hapart edit') ho hw hf hreturns) ?_
      intro writer later hsplit
      injection hsplit with hsame hsplit
      exact absurd hsame.symm edit'.other_ne
    · have hrun : s.run urlsplit providerId command (edit.other :: schedule) =
          (s.advance urlsplit providerId command edit.other).run urlsplit providerId command schedule := rfl
      rw [hrun] at hreturns ⊢
      obtain ⟨row', hf', hs⟩ := advance_waiting hw (hreturns edit.other).not_raised
      obtain rfl : row = row' := Option.some.inj (hf.symm.trans hf')
      have hboth : ∀ edit', (s.advance urlsplit providerId command edit.other).phase edit' =
          .opened ⟨.updateProvider (command edit'), row.toDomain⟩ := by
        intro edit'
        rw [hs]
        rcases edit.eq_or_other edit' with rfl | rfl
        · exact (Function.update_of_ne edit'.other_ne.symm _ _).trans ho
        · exact Function.update_self _ _ _
      have hstored : (s.advance urlsplit providerId command edit.other).database.providers.find? providerId =
          some row := by
        rw [hs]
        exact hf
      cases schedule with
      | nil =>
        obtain ⟨updated, hreturned⟩ := hreturns edit
        have hopened := (hboth edit).symm.trans hreturned
        cases hopened
      | cons writer schedule =>
        rw [keeps_edits_iff_of_overlap (hapart writer) hboth hstored hreturns]
        constructor
        · intro hsets writer' later hsplit
          injection hsplit with _ hsplit
          injection hsplit with hwriter _
          rwa [← hwriter]
        · intro h
          exact h writer schedule rfl

/-- Two calls on one provider keep each other's fields exactly if the one that writes last has read what the
other wrote, or the other wrote what was there. -/
theorem keeps_edits_iff {database : Database} (hdisjoint : (command .first).Disjoint (command .second))
    (hreturns : ∀ edit, ((start database).run urlsplit providerId command schedule).Returns edit) :
    ((start database).run urlsplit providerId command schedule).KeepsEdits providerId command ↔
      Harmless providerId command database schedule := by
  have hapart : ∀ edit, (command edit.other).Disjoint (command edit) := by
    intro edit
    cases edit with
    | first => exact hdisjoint.symm
    | second => exact hdisjoint
  cases schedule with
  | nil =>
    obtain ⟨updated, hreturned⟩ := hreturns .first
    cases hreturned
  | cons edit schedule =>
    have hrun : (start database).run urlsplit providerId command (edit :: schedule) =
        ((start database).advance urlsplit providerId command edit).run urlsplit providerId command schedule := rfl
    rw [hrun] at hreturns ⊢
    have hwaiting : (start database).phase edit = .waiting := rfl
    obtain ⟨row, hf, hs⟩ := advance_waiting hwaiting (hreturns edit).not_raised
    have hstored : database.providers.find? providerId = some row := hf
    have hopened : ((start database).advance urlsplit providerId command edit).phase edit =
        .opened ⟨.updateProvider (command edit), row.toDomain⟩ := by
      rw [hs]
      exact Function.update_self _ _ _
    have hother : ((start database).advance urlsplit providerId command edit).phase edit.other = .waiting :=
      advance_phase_of_ne edit.other_ne
    have hfound : ((start database).advance urlsplit providerId command edit).database.providers.find? providerId =
        some row := by
      rw [hs]
      exact hf
    rw [keeps_edits_iff_of_opened hapart hopened hother hfound hreturns]
    unfold Harmless
    rw [hstored]
    constructor
    · intro h edit' writer later hsplit row' hrow
      obtain rfl : row = row' := Option.some.inj hrow
      injection hsplit with hfirst hsplit
      rw [← hfirst] at hsplit
      exact h writer later hsplit
    · intro h writer later hsplit
      exact h edit writer later (by rw [hsplit]) row rfl

/-- The commands of two operators: one takes the provider out of holding, the other gives it a new name. -/
def rename : Edit → UpdateProviderCommand
  | .first => ⟨none, none, none, some ⟨true, false, true, true⟩⟩
  | .second => ⟨some "renamed", none, none, none⟩

/-- One call after the other. -/
theorem serial_edits_kept : ((start Deployment.database).run (fun _ => some ⟨"http", "supplier"⟩) 20 rename
    [.first, .first, .second, .second]).KeepsEdits 20 rename := by
  refine (keeps_edits_iff ⟨Or.inl rfl, Or.inl rfl, Or.inl rfl, Or.inr rfl⟩ fun edit => ?_).mpr ?_
  · cases edit with
    | first => exact ⟨_, rfl⟩
    | second => exact ⟨_, rfl⟩
  · intro edit writer later hsplit
    cases edit <;> cases hsplit

/-- Both calls read first: the provider holds again. -/
theorem overlapping_edit_lost : ¬ ∀ (urlsplit : String → Option SplitResult) (providerId : Uuid)
    (command : Edit → UpdateProviderCommand) (database : Database) (schedule : List Edit),
    (command .first).Disjoint (command .second) →
    (∀ edit, ((start database).run urlsplit providerId command schedule).Returns edit) →
    ((start database).run urlsplit providerId command schedule).KeepsEdits providerId command := by
  intro h
  obtain ⟨row, hf, hsets⟩ := h (fun _ => some ⟨"http", "supplier"⟩) 20 rename Deployment.database
    [.first, .second, .first, .second] ⟨Or.inl rfl, Or.inl rfl, Or.inl rfl, Or.inr rfl⟩ (by
      intro edit
      cases edit with
      | first => exact ⟨_, rfl⟩
      | second => exact ⟨_, rfl⟩)
  have hholds := (hsets .first).capabilities ⟨true, false, true, true⟩ rfl
  have hstored : row.supportsHold = true := by
    have hlast : some true = some row.supportsHold := congrArg (Option.map InventoryProviderModel.supportsHold) hf
    exact (Option.some.inj hlast).symm
  have hlost : row.supportsHold = false := congrArg ProviderCapabilities.hold hholds
  rw [hstored] at hlost
  cases hlost

end ProviderEdits
end InventoryReservation
