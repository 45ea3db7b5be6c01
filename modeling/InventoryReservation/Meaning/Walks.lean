import InventoryReservation.Meaning.Creation

/-! # Walks in sequence

A request walks over no, one or several reservations, one after the other. Distinct reservations do
not meet: what a walk does to its reservation is what it would have done first.
-/

namespace InventoryReservation
set_option autoImplicit false

open Relational Transactional

/-- A walk over a reservation, with the row as the request found it. -/
structure Walk where
  reservation : ReservationModel
  pass : Pass

/-- The status of an allocation for which nothing of this kind is left to do. -/
def SettlementKind.settledStatus : SettlementKind → AllocationStatus
  | confirm => .confirmed
  | release => .released

namespace Pass

def kind : Pass → SettlementKind
  | confirm _ => .confirm
  | release _ _ => .release

def context : Pass → ProviderOperationContext
  | confirm context => context
  | release context _ => context

/-- The pass calls the provider of this allocation. -/
def asks (pass : Pass) (view : AllocationView) : Prop :=
  view.allocation.status ≠ pass.kind.settledStatus ∧ view.provider.kind = .external ∧
    ∀ operation ∈ view.operation pass.kind,
      operation.status ≠ .succeeded ∧ ¬ pass.context.keepsUnknown operation

/-- The pass settles this allocation at an offer. -/
def draws : Pass → AllocationRow → Prop
  | confirm _ => confirmation.draws
  | release _ _ => releasing.draws

/-- The pass sends this request for an allocation. -/
def Sent (environment : Environment) : Pass → AllocationView → Database × Exchange → Prop
  | confirm context => confirmation.Sent environment context
  | release context _ => releasing.Sent environment context

/-- The provider leaves the outcome of this allocation unknown, and the next attempt cannot be scheduled. -/
def Overflows (environment : Environment) : Pass → AllocationView → Prop
  | confirm context => confirmation.overflows environment context
  | release context _ => releasing.overflows environment context

/-- The pass has asked about this allocation if it asks at all, and has been answered. -/
def Answered (environment : Environment) (exchanges : List (Database × Exchange)) :
    Pass → AllocationView → Prop
  | confirm context, view =>
    confirmation.asks context view → confirmation.answered environment context view exchanges
  | release context _, view =>
    releasing.asks context view → releasing.answered environment context view exchanges

/-- Units are drawn only where the allocation holds them. -/
def DrawsHeld (pass : Pass) (aggregate : Aggregate) : Prop :=
  ∀ view ∈ aggregate.allocations, pass.draws view.toAllocationRow → view.allocation.status = .held

theorem Answered.mono {environment : Environment} {exchanges exchanges' : List (Database × Exchange)}
    {pass : Pass} {view : AllocationView} (h : pass.Answered environment exchanges view)
    (hmem : ∀ e ∈ exchanges, e ∈ exchanges') : pass.Answered environment exchanges' view := by
  cases pass with
  | confirm context => exact fun ha => (h ha).mono hmem
  | release context terminalStatus => exact fun ha => (h ha).mono hmem

end Pass

/-- The code of a walk. -/
def Walk.run (environment : Environment) (walk : Walk) : TransactionM Unit :=
  match walk.pass with
  | .confirm context => do
    let _ ← confirmReservation environment walk.reservation context
    pure ()
  | .release context terminalStatus =>
    releaseReservation environment walk.reservation terminalStatus (some context)

/-- What walks over distinct reservations did, in a run that returned. -/
structure Walked (environment : Environment) (walks : List Walk) (s t : Session) : Prop where
  wellFormed : t.database.WellFormed
  applied : ∀ walk ∈ walks, ∃ before after,
    s.database.aggregate? walk.reservation.id = some before ∧
      t.database.aggregate? walk.reservation.id = some after ∧
      walk.pass.Applies environment before after ∧
      ∀ view ∈ before.allocations, walk.pass.Answered environment t.exchanges view
  others : ∀ r, (∀ walk ∈ walks, walk.reservation.id ≠ r) →
    t.database.aggregate? r = s.database.aggregate? r
  conserves : (∀ walk ∈ walks, ∀ before ∈ s.database.aggregate? walk.reservation.id,
    walk.pass.DrawsHeld before) → Conserves s.database t.database
  exchanges : ∀ e ∈ s.exchanges, e ∈ t.exchanges

namespace Walked
variable {environment : Environment} {s t u : Session} {walk : Walk} {walks : List Walk}

theorem nil (hwf : s.database.WellFormed) : Walked environment [] s s where
  wellFormed := hwf
  applied _ hw := absurd hw List.not_mem_nil
  others _ _ := rfl
  conserves _ := .refl _
  exchanges _ he := he

theorem cons (h : Walked environment [walk] s t) (h' : Walked environment walks t u)
    (hne : ∀ walk' ∈ walks, walk'.reservation.id ≠ walk.reservation.id) :
    Walked environment (walk :: walks) s u := by
  have hothers : ∀ walk' ∈ walks, t.database.aggregate? walk'.reservation.id =
      s.database.aggregate? walk'.reservation.id := by
    intro walk' hw'
    refine h.others _ fun walk'' hw'' => ?_
    rw [List.mem_singleton.mp hw'']
    exact (hne walk' hw').symm
  constructor
  · exact h'.wellFormed
  · intro walk' hw'
    rcases List.mem_cons.mp hw' with rfl | hw'
    · obtain ⟨before, after, hb, ha, happlies, hanswered⟩ := h.applied walk' List.mem_cons_self
      refine ⟨before, after, hb, ?_, happlies, fun view hv => (hanswered view hv).mono h'.exchanges⟩
      rw [h'.others _ hne]
      exact ha
    · obtain ⟨before, after, hb, ha, hrest⟩ := h'.applied walk' hw'
      exact ⟨before, after, (hothers walk' hw').symm.trans hb, ha, hrest⟩
  · intro r hr
    rw [h'.others r fun walk' hw' => hr walk' (List.mem_cons_of_mem _ hw')]
    refine h.others r fun walk' hw' => ?_
    rw [List.mem_singleton.mp hw']
    exact hr walk List.mem_cons_self
  · intro hdraws
    refine (h.conserves ?_).trans (h'.conserves ?_)
    · intro walk' hw' before hb
      rw [List.mem_singleton.mp hw'] at hb ⊢
      exact hdraws walk List.mem_cons_self before hb
    · intro walk' hw' before hb
      rw [hothers walk' hw'] at hb
      exact hdraws walk' (List.mem_cons_of_mem _ hw') before hb
  · exact fun e he => h'.exchanges e (h.exchanges e he)

/-- One walk, from its effect on the tables. -/
theorem single {ω : Type} [DecidableEq ω] {S : Settlement ω} (hS : S.Lawful)
    {context : ProviderOperationContext} {write : ReservationModel → ReservationModel}
    (hwf : s.database.WellFormed) (hid : context.reservationId = walk.reservation.id)
    {before : Aggregate} (hbefore : s.database.aggregate? walk.reservation.id = some before)
    (heffect : WalkEffect S environment context write s t)
    (happlies : walk.pass.Applies environment before
      { reservation := write before.reservation
        items := before.items
        allocations := before.allocations.map (S.settle environment context)
        order := t.database.orders.find? walk.reservation.id })
    (hdraws : walk.pass.draws = S.draws)
    (hanswered : ∀ view, (S.asks context view → S.answered environment context view t.exchanges) →
      walk.pass.Answered environment t.exchanges view) :
    Walked environment [walk] s t := by
  obtain ⟨hfound, -, hviews, -⟩ := Database.aggregate?_eq_some_iff.mp hbefore
  obtain ⟨rows, hperm, hpass⟩ := heffect.walk
  rw [← hid] at hbefore hfound hviews happlies
  constructor
  · exact heffect.wellFormed hS hwf (Option.isSome_iff_exists.mpr ⟨_, hfound⟩)
  · intro walk' hw'
    rw [List.mem_singleton.mp hw', ← hid]
    have hself := heffect.aggregate_self
    rw [hbefore] at hself
    refine ⟨before, _, hbefore, hself, happlies, ?_⟩
    intro view hv
    rw [hviews] at hv
    obtain ⟨row, hrow, rfl⟩ := List.mem_map.mp hv
    exact hanswered _ (hpass.asked row (hperm.mem_iff.mpr hrow))
  · intro r hr
    refine heffect.aggregate_of_ne ?_
    rw [hid]
    exact (hr walk List.mem_cons_self).symm
  · intro hheld
    refine hpass.conserves hS hperm ?_
    intro row hrow hd
    refine hheld walk List.mem_cons_self before (hid ▸ hbefore) _
      (Database.view_mem hbefore (hperm.mem_iff.mp hrow)) ?_
    rw [hdraws]
    exact hd
  · exact hpass.exchanges

end Walked

/-! ## One walk of the code -/

section Run
variable {environment : Environment} {walk : Walk} {walks : List Walk} {s t : Session}

theorem Walk.run_ok {u : Unit} (hwf : s.database.WellFormed)
    (hid : walk.pass.context.reservationId = walk.reservation.id)
    (hstored : (s.database.reservations.find? walk.reservation.id).isSome)
    (h : walk.run environment s = .ok u t) : Walked environment [walk] s t := by
  obtain ⟨reservation, hfound⟩ := Option.isSome_iff_exists.mp hstored
  have hbefore : s.database.aggregate? walk.reservation.id = some
      ⟨reservation, s.database.itemsOf walk.reservation.id,
        s.database.allocationViews walk.reservation.id, s.database.orders.find? walk.reservation.id⟩ :=
    Database.aggregate?_eq_some_iff.mpr ⟨hfound, rfl, rfl, rfl⟩
  obtain ⟨model, pass⟩ := walk
  cases pass with
  | confirm context =>
    have hid : context.reservationId = model.id := hid
    obtain ⟨result, v, hv, h⟩ := bind_ok_iff.mp h
    obtain ⟨-, rfl⟩ := pure_ok_iff.mp h
    obtain ⟨heffect, horder⟩ := confirmReservation_ok hid hv
    refine Walked.single confirmation_lawful hwf hid hbefore heffect ?_ rfl fun _ => id
    rw [hid] at horder
    refine ⟨heffect.request _, ?_, ?_, rfl, rfl, ?_⟩
    · dsimp only
      rw [confirmWrite, ReservationModel.written_status, hid]
    · dsimp only
      rw [confirmWrite, ReservationModel.written_releaseTargetStatus]
    · dsimp only
      rw [confirmWrite, ReservationModel.written_status, hid]
      exact horder
  | release context terminalStatus =>
    have hid : context.reservationId = model.id := hid
    have hcontext : (some context).getD (.request model.id) = context := rfl
    obtain ⟨heffect, horders⟩ := releaseReservation_ok hcontext hid h
    refine Walked.single releasing_lawful hwf hid hbefore heffect ?_ rfl fun _ => id
    refine ⟨heffect.request _, ?_, rfl, rfl, ?_⟩
    · dsimp only
      rw [releaseWrite_status, hid]
    · dsimp only
      rw [horders]

theorem Walk.run_stops {Q : Database × Exchange → Prop} {E : Failure → Prop} [AdmitsOrdinary E]
    (hid : walk.pass.context.reservationId = walk.reservation.id) (hs : Traced Q s)
    (hQ : ∀ view ∈ s.database.allocationViews walk.reservation.id, ∀ entry,
      walk.pass.Sent environment view entry → Q entry)
    (hE : ∀ view ∈ s.database.allocationViews walk.reservation.id,
      walk.pass.Overflows environment view → E .overflow) :
    Stops (Traced Q) E (walk.run environment s) := by
  obtain ⟨model, pass⟩ := walk
  cases pass with
  | confirm context =>
    have hid : context.reservationId = model.id := hid
    refine Stops.bind_keeps (confirmReservation_stops hid hs ?_ ?_) fun _ => Keeps.pure ()
    · rw [hid]
      exact hQ
    · rw [hid]
      exact hE
  | release context terminalStatus =>
    have hid : context.reservationId = model.id := hid
    have hcontext : (some context).getD (.request model.id) = context := rfl
    refine releaseReservation_stops hcontext hid hs ?_ ?_
    · rw [hid]
      exact hQ
    · rw [hid]
      exact hE

/-! ## All walks of a request -/

/-- Walks over distinct stored reservations, each with a context of its own. -/
structure Walkable (database : Database) (walks : List Walk) : Prop where
  distinct : (walks.map fun walk => walk.reservation.id).Nodup
  context : ∀ walk ∈ walks, walk.pass.context.reservationId = walk.reservation.id
  stored : ∀ walk ∈ walks, (database.reservations.find? walk.reservation.id).isSome

theorem Database.isSome_aggregate? (database : Database) (r : Uuid) :
    (database.aggregate? r).isSome = (database.reservations.find? r).isSome := by
  rw [aggregate?, Option.isSome_map]

/-- After the first walk the others can still be made. -/
theorem Walkable.tail (h : Walkable s.database (walk :: walks)) (hw : Walked environment [walk] s t) :
    Walkable t.database walks ∧
      ∀ walk' ∈ walks, t.database.aggregate? walk'.reservation.id =
        s.database.aggregate? walk'.reservation.id := by
  obtain ⟨hhead, htail⟩ := List.nodup_cons.mp h.distinct
  have hothers : ∀ walk' ∈ walks, t.database.aggregate? walk'.reservation.id =
      s.database.aggregate? walk'.reservation.id := by
    intro walk' hw'
    refine hw.others _ fun walk'' hw'' he => hhead ?_
    rw [List.mem_singleton.mp hw''] at he
    exact List.mem_map.mpr ⟨walk', hw', he.symm⟩
  refine ⟨⟨htail, fun walk' hw' => h.context walk' (List.mem_cons_of_mem _ hw'), ?_⟩, hothers⟩
  intro walk' hw'
  rw [← Database.isSome_aggregate?, hothers walk' hw', Database.isSome_aggregate?]
  exact h.stored walk' (List.mem_cons_of_mem _ hw')

theorem walks_ok {u : Unit} (hwf : s.database.WellFormed) (hw : Walkable s.database walks)
    (h : forEach (Walk.run environment) walks s = .ok u t) : Walked environment walks s t := by
  induction walks generalizing s with
  | nil =>
    obtain ⟨-, rfl⟩ := pure_ok_iff.mp h
    exact .nil hwf
  | cons walk walks ih =>
    rw [forEach] at h
    obtain ⟨_, v, hv, h⟩ := bind_ok_iff.mp h
    have hfirst := Walk.run_ok hwf (hw.context walk List.mem_cons_self)
      (hw.stored walk List.mem_cons_self) hv
    refine hfirst.cons (ih hfirst.wellFormed (hw.tail hfirst).1 h) ?_
    intro walk' hw' he
    exact (List.nodup_cons.mp hw.distinct).1 (List.mem_map.mpr ⟨walk', hw', he⟩)

/-- Every request of the walks is sent for an allocation as it was at the start, and an attempt that cannot
be scheduled is for one. -/
theorem walks_stops {Q : Database × Exchange → Prop} {E : Failure → Prop} [AdmitsOrdinary E]
    (hwf : s.database.WellFormed) (hw : Walkable s.database walks) (hs : Traced Q s)
    (hQ : ∀ walk ∈ walks, ∀ before ∈ s.database.aggregate? walk.reservation.id,
      ∀ view ∈ before.allocations, ∀ entry, walk.pass.Sent environment view entry → Q entry)
    (hE : ∀ walk ∈ walks, ∀ before ∈ s.database.aggregate? walk.reservation.id,
      ∀ view ∈ before.allocations, walk.pass.Overflows environment view → E .overflow) :
    Stops (Traced Q) E (forEach (Walk.run environment) walks s) := by
  induction walks generalizing s with
  | nil => exact hs
  | cons walk walks ih =>
    have hstored := hw.stored walk List.mem_cons_self
    have hfirst : Stops (Traced Q) E (walk.run environment s) := by
      have hbefore := hstored
      rw [← Database.isSome_aggregate?] at hbefore
      obtain ⟨before, hbefore⟩ := Option.isSome_iff_exists.mp hbefore
      refine Walk.run_stops (hw.context walk List.mem_cons_self) hs ?_ ?_
      · rw [← (Database.aggregate?_eq_some_iff.mp hbefore).2.2.1]
        exact hQ walk List.mem_cons_self before hbefore
      · rw [← (Database.aggregate?_eq_some_iff.mp hbefore).2.2.1]
        exact hE walk List.mem_cons_self before hbefore
    rw [forEach]
    refine hfirst.bind fun _ v hv => ?_
    have hwalked := Walk.run_ok hwf (hw.context walk List.mem_cons_self) hstored hv
    obtain ⟨htail, hothers⟩ := hw.tail hwalked
    refine ih hwalked.wellFormed htail (hfirst.of_ok hv) ?_ ?_
    · intro walk' hw' before hb
      rw [hothers walk' hw'] at hb
      exact hQ walk' (List.mem_cons_of_mem _ hw') before hb
    · intro walk' hw' before hb
      rw [hothers walk' hw'] at hb
      exact hE walk' (List.mem_cons_of_mem _ hw') before hb

end Run
end InventoryReservation
