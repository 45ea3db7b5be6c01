import InventoryReservation.Meaning.Walks

/-! # What walks relate

A relation between sessions that composes and looks at nothing but the operations and the calls links
the two ends of every walk that returns, as soon as it links the two ends of settling one external hold.
-/

namespace InventoryReservation
set_option autoImplicit false

open Transactional

/-- A relation that composes, and that holds where neither operations nor calls have changed. -/
structure Composes (R : Session → Session → Prop) : Prop where
  trans : ∀ s t u, R s t → R t u → R s u
  silent : ∀ s t : Session, t.database.operations = s.database.operations → t.exchanges = s.exchanges →
    R s t

namespace Composes
variable {R : Session → Session → Prop} (hR : Composes R) {α β : Type}
include hR

theorem refl (s : Session) : R s s := hR.silent s s rfl rfl

theorem pure (a : α) : Relates R (Pure.pure a : TransactionM α) := Relates.pure hR.refl a

theorem bind {x : TransactionM α} {f : α → TransactionM β} (hx : Relates R x)
    (hf : ∀ a, Relates R (f a)) : Relates R (x >>= f) :=
  Relates.bind (R := R) hR.trans hx hf

theorem forEach {body : α → TransactionM Unit} {xs : List α} (h : ∀ x ∈ xs, Relates R (body x)) :
    Relates R (forEach body xs) := by
  induction xs with
  | nil => exact hR.pure ()
  | cons x xs ih =>
    exact hR.bind (h x List.mem_cons_self) fun _ => ih fun y hy => h y (List.mem_cons_of_mem x hy)

theorem readDatabase : Relates R readDatabase := by
  intro s a t h
  cases h
  exact hR.refl _

theorem updateOffer (statement : OfferStatement) (productId providerId : Uuid) :
    Relates R (updateOffer statement productId providerId) := by
  intro s a t h
  rcases updateOffer_ok h with ⟨-, rfl⟩ | ⟨offer, offer', offers, -, -, -, -, rfl⟩
  · exact hR.refl _
  · exact hR.silent _ _ rfl rfl

theorem writeReservation (environment : Environment) (reservationId : Uuid)
    (assign : ReservationModel → ReservationModel)
    (keeps : ∀ reservation, (assign reservation).id = reservation.id) :
    Relates R (writeReservation environment reservationId assign keeps) := by
  intro s a t h
  cases h
  exact hR.silent _ _ rfl rfl

theorem getReservation (reservationId : Uuid) : Relates R (getReservation reservationId) := by
  intro s a t h
  cases getReservation_ok h
  exact hR.refl _

section Settling
variable {ω : Type} [DecidableEq ω] {S : Settlement ω} {environment : Environment}
  {context : ProviderOperationContext}
  (hS : ∀ row : AllocationRow, ¬ S.passes row → row.provider.kind = .external →
    Relates R (S.settleExternalHold environment context row.allocation row.provider))
include hS

theorem settleAllocation (row : AllocationRow) : Relates R (S.settleAllocation environment context row) := by
  unfold Settlement.settleAllocation
  refine Relates.ite (fun _ => hR.pure _) fun hp => ?_
  cases hk : row.provider.kind with
  | external => exact hS row hp hk
  | internal =>
    refine hR.bind (hR.updateOffer _ _ _) fun inventory => ?_
    cases inventory with
    | none => exact Relates.throw _
    | some _ => exact hR.pure _

theorem settleAllocations (rows : List AllocationRow) (flags : PassFlags) :
    Relates R (S.settleAllocations environment context rows flags) := by
  induction rows generalizing flags with
  | nil => exact hR.pure flags
  | cons row rows ih =>
    refine hR.bind (hR.settleAllocation hS row) fun outcome => hR.bind (fun s a t h => ?_) fun _ => ih _
    cases h
    exact hR.silent _ _ rfl rfl

end Settling

/-! ## Whole walks -/

section Walks
variable {environment : Environment}

theorem releaseReservation {reservation : ReservationModel} {terminalStatus : ReservationStatusModel}
    {context? : Option ProviderOperationContext}
    (hS : ∀ row : AllocationRow, ¬ releasing.passes row → row.provider.kind = .external →
      Relates R (releasing.settleExternalHold environment (context?.getD (.request reservation.id))
        row.allocation row.provider)) :
    Relates R (releaseReservation environment reservation terminalStatus context?) := by
  refine hR.bind hR.readDatabase fun database => hR.bind (hR.writeReservation _ _ _ _) fun _ => ?_
  refine hR.bind (hR.settleAllocations hS _ _) fun flags => ?_
  unfold concludeRelease
  exact Relates.ite (fun _ => hR.writeReservation _ _ _ _) fun _ => hR.writeReservation _ _ _ _

theorem confirmReservation {reservation : ReservationModel} {context : ProviderOperationContext}
    (hS : ∀ row : AllocationRow, ¬ confirmation.passes row → row.provider.kind = .external →
      Relates R (confirmation.settleExternalHold environment context row.allocation row.provider)) :
    Relates R (confirmReservation environment reservation context) := by
  refine hR.bind hR.readDatabase fun database => hR.bind (hR.settleAllocations hS _ _) fun flags =>
    hR.bind (fun s a t h => ?_) fun _ => hR.getReservation _
  obtain ⟨⟨_, _, _, _, rfl⟩, -, -, -⟩ := concludeConfirmation_ok h
  exact hR.silent _ _ rfl rfl

/-- A walk relates its two ends if settling an external hold does, in the context of the walk. -/
theorem walk {walk : Walk}
    (hconfirm : ∀ row : AllocationRow, ¬ confirmation.passes row → row.provider.kind = .external →
      Relates R (confirmation.settleExternalHold environment walk.pass.context row.allocation
        row.provider))
    (hrelease : ∀ row : AllocationRow, ¬ releasing.passes row → row.provider.kind = .external →
      Relates R (releasing.settleExternalHold environment walk.pass.context row.allocation
        row.provider)) :
    Relates R (walk.run environment) := by
  obtain ⟨reservation, pass⟩ := walk
  cases pass with
  | confirm context => exact hR.bind (hR.confirmReservation hconfirm) fun _ => hR.pure ()
  | release context terminalStatus => exact hR.releaseReservation hrelease

end Walks
end Composes
end InventoryReservation
