import InventoryReservation.Foundations.Runs
import Mathlib.Logic.Function.Basic
import Mathlib.Logic.Relation
import Mathlib.Order.Basic

/-! # Rows that transactions lock

Transactions change addressed rows one statement at a time. A statement acts on the latest version of
its row, whoever wrote it; the transaction that changed a row keeps it locked until it ends, and an
abort brings back the version it had found. A statement on a row that another transaction has locked
waits: it does nothing now.

* `run_all`: what every statement keeps of the rows it writes, every version of every row has after any
  interleaving, the versions that an abort would bring back included.
* `no_wait_cycle`: when every transaction waits above the rows it has locked, in some order of the
  rows, no transactions wait for each other in a circle.
-/

namespace RowLocking
set_option autoImplicit false

variable {κ τ ρ ω : Type}

/-- What is stored at one address: the latest version of the row and, while a transaction has it
locked, that transaction and the version it found. -/
structure Slot (τ ρ : Type) where
  latest : Option ρ
  lock : Option (τ × Option ρ)

namespace Slot

/-- The version before the changes of the transaction that has the row locked. -/
def committed (slot : Slot τ ρ) : Option ρ :=
  match slot.lock with
  | none => slot.latest
  | some (_, before) => before

def owner (slot : Slot τ ρ) : Option τ := slot.lock.map Prod.fst

/-- Another transaction has the row locked. -/
def LockedFor (slot : Slot τ ρ) (t : τ) : Prop := ∃ u ∈ slot.owner, u ≠ t

def write (slot : Slot τ ρ) (t : τ) (row : Option ρ) : Slot τ ρ := ⟨row, some (t, slot.committed)⟩

/-- Both versions of the row have a property. -/
structure All (P : Option ρ → Prop) (slot : Slot τ ρ) : Prop where
  latest : P slot.latest
  committed : P slot.committed

variable [DecidableEq τ]

instance (slot : Slot τ ρ) (t : τ) : Decidable (slot.LockedFor t) :=
  inferInstanceAs (Decidable (∃ u ∈ slot.owner, u ≠ t))

def commit (slot : Slot τ ρ) (t : τ) : Slot τ ρ :=
  if slot.owner = some t then ⟨slot.latest, none⟩ else slot

def abort (slot : Slot τ ρ) (t : τ) : Slot τ ρ :=
  if slot.owner = some t then ⟨slot.committed, none⟩ else slot

/-! ## One row -/

section Row
variable {slot : Slot τ ρ} {t u : τ}

omit [DecidableEq τ] in
@[simp] theorem write_owner (row : Option ρ) : (slot.write t row).owner = some t := rfl

theorem owner_commit : (slot.commit t).owner = if slot.owner = some t then none else slot.owner := by
  unfold commit
  split <;> rfl

theorem owner_abort : (slot.abort t).owner = if slot.owner = some t then none else slot.owner := by
  unfold abort
  split <;> rfl

variable {P : Option ρ → Prop}

omit [DecidableEq τ] in
theorem All.write (h : slot.All P) {row : Option ρ} (hrow : P row) : (slot.write t row).All P :=
  ⟨hrow, h.committed⟩

omit [DecidableEq τ] in
theorem All.and {Q R : Option ρ → Prop} (h : slot.All P) (h' : slot.All Q)
    (hR : ∀ row, P row → Q row → R row) : slot.All R :=
  ⟨hR _ h.latest h'.latest, hR _ h.committed h'.committed⟩

theorem All.commit (h : slot.All P) : (slot.commit t).All P := by
  unfold Slot.commit
  split
  · exact ⟨h.latest, h.latest⟩
  · exact h

theorem All.abort (h : slot.All P) : (slot.abort t).All P := by
  unfold Slot.abort
  split
  · exact ⟨h.committed, h.committed⟩
  · exact h

end Row
end Slot

/-! ## Interleavings -/

abbrev Store (κ τ ρ : Type) : Type := κ → Slot τ ρ

/-- These rows, none of them locked. -/
def Store.of (rows : κ → Option ρ) : Store κ τ ρ := fun k => ⟨rows k, none⟩

inductive Move (κ τ ω : Type) where
  | execute (t : τ) (k : κ) (statement : ω)
  | commit (t : τ)
  | abort (t : τ)

/-- The statement that the move runs, if it runs one, satisfies a condition. -/
def Move.Satisfies (ok : ω → Prop) : Move κ τ ω → Prop
  | execute _ _ statement => ok statement
  | commit _ => True
  | abort _ => True

instance (ok : ω → Prop) [DecidablePred ok] : DecidablePred (Move.Satisfies ok : Move κ τ ω → Prop)
  | .execute _ _ statement => inferInstanceAs (Decidable (ok statement))
  | .commit _ => isTrue trivial
  | .abort _ => isTrue trivial

theorem Move.Satisfies.mono {ok ok' : ω → Prop} (h : ∀ statement, ok statement → ok' statement)
    {move : Move κ τ ω} (hmove : move.Satisfies ok) : move.Satisfies ok' := by
  cases move with
  | execute t k statement => exact h statement hmove
  | commit t => trivial
  | abort t => trivial

namespace Store
variable [DecidableEq κ] [DecidableEq τ]

/-- Run a statement: `effect` answers nothing where the statement changes no row, and otherwise the
new version, which is none for a deletion. -/
def execute (effect : ω → κ → Option ρ → Option (Option ρ)) (s : Store κ τ ρ) (t : τ) (k : κ)
    (statement : ω) : Store κ τ ρ :=
  if (s k).LockedFor t then s
  else
    match effect statement k (s k).latest with
    | none => s
    | some row => Function.update s k ((s k).write t row)

theorem execute_of_none {effect : ω → κ → Option ρ → Option (Option ρ)} {s : Store κ τ ρ} {t : τ} {k : κ}
    {statement : ω} (h : effect statement k (s k).latest = none) : s.execute effect t k statement = s := by
  unfold Store.execute
  split
  · rfl
  · rw [h]

theorem execute_of_some {effect : ω → κ → Option ρ → Option (Option ρ)} {s : Store κ τ ρ} {t : τ} {k : κ}
    {statement : ω} {row : Option ρ} (hfree : ¬ (s k).LockedFor t)
    (h : effect statement k (s k).latest = some row) :
    s.execute effect t k statement = Function.update s k ((s k).write t row) := by
  unfold Store.execute
  rw [if_neg hfree, h]

def commit (s : Store κ τ ρ) (t : τ) : Store κ τ ρ := fun k => (s k).commit t

def abort (s : Store κ τ ρ) (t : τ) : Store κ τ ρ := fun k => (s k).abort t

def step (effect : ω → κ → Option ρ → Option (Option ρ)) (s : Store κ τ ρ) : Move κ τ ω → Store κ τ ρ
  | .execute t k statement => s.execute effect t k statement
  | .commit t => s.commit t
  | .abort t => s.abort t

/-! ## Every version -/

/-- Every version at every address has the property. -/
def All (P : κ → Option ρ → Prop) (s : Store κ τ ρ) : Prop := ∀ k, (s k).All (P k)

omit [DecidableEq κ] [DecidableEq τ] in
theorem All.of {P : κ → Option ρ → Prop} {rows : κ → Option ρ} (h : ∀ k, P k (rows k)) :
    All P (Store.of rows : Store κ τ ρ) := fun k => ⟨h k, h k⟩

variable {effect : ω → κ → Option ρ → Option (Option ρ)} {P : κ → Option ρ → Prop} {s : Store κ τ ρ}

/-- The statement keeps the property of the row it acts on. -/
def Respects (effect : ω → κ → Option ρ → Option (Option ρ)) (P : κ → Option ρ → Prop) (statement : ω) :
    Prop :=
  ∀ k before after, effect statement k before = some after → P k before → P k after

theorem All.execute (h : s.All P) {statement : ω} (hrespects : Respects effect P statement) (t : τ) (k : κ) :
    (s.execute effect t k statement).All P := by
  by_cases hfree : (s k).LockedFor t
  · unfold Store.execute
    rw [if_pos hfree]
    exact h
  · cases heffect : effect statement k (s k).latest with
    | none =>
      rw [execute_of_none heffect]
      exact h
    | some row =>
      have hrow : P k row := hrespects k _ _ heffect (h k).latest
      rw [execute_of_some hfree heffect]
      intro k'
      by_cases hk : k' = k
      · subst hk
        rw [Function.update_self]
        exact (h k').write hrow
      · rw [Function.update_of_ne hk]
        exact h k'

theorem All.step (h : s.All P) {move : Move κ τ ω} (hmove : move.Satisfies (Respects effect P)) :
    (s.step effect move).All P := by
  cases move with
  | execute t k statement => exact h.execute hmove t k
  | commit t => exact fun k => (h k).commit
  | abort t => exact fun k => (h k).abort

/-- What the statements keep of the rows they write, every version of every row has after any
interleaving. -/
theorem run_all (h : s.All P) {moves : List (Move κ τ ω)}
    (hmoves : ∀ move ∈ moves, move.Satisfies (Respects effect P)) : (Runs.run (step effect) s moves).All P := by
  induction moves generalizing s with
  | nil => exact h
  | cons move moves ih =>
    rw [Runs.run_cons]
    apply ih (h.step (hmoves move List.mem_cons_self))
    intro move' hm
    exact hmoves move' (List.mem_cons_of_mem _ hm)

/-! ## Who has a row locked -/

section Owners
variable {t u : τ} {k k' : κ} {statement : ω}

/-- A statement that does not wait locks its row if it changes it, and does nothing to other locks. -/
theorem owner_execute_iff (hfree : ¬ (s k).LockedFor t) :
    (s.execute effect t k statement k').owner = some u ↔
      (s k').owner = some u ∨ (u = t ∧ k' = k ∧ (effect statement k (s k).latest).isSome) := by
  cases heffect : effect statement k (s k).latest with
  | none =>
    rw [execute_of_none heffect]
    simp
  | some row =>
    rw [execute_of_some hfree heffect]
    by_cases hk : k' = k
    · subst hk
      rw [Function.update_self, Slot.write_owner]
      constructor
      · intro h
        exact Or.inr ⟨(Option.some.inj h).symm, rfl, rfl⟩
      · rintro (h | ⟨rfl, -, -⟩)
        · have hu : u = t := by
            by_contra hne
            exact hfree ⟨u, h, hne⟩
          rw [hu]
        · rfl
    · rw [Function.update_of_ne hk]
      constructor
      · exact Or.inl
      · rintro (h | ⟨-, hk', -⟩)
        · exact h
        · exact absurd hk' hk

omit [DecidableEq κ] in
theorem owner_commit_iff : (s.commit t k).owner = some u ↔ (s k).owner = some u ∧ u ≠ t := by
  unfold Store.commit
  rw [Slot.owner_commit]
  by_cases h : (s k).owner = some t
  · rw [if_pos h, h]
    constructor
    · intro he
      cases he
    · rintro ⟨he, hne⟩
      exact absurd (Option.some.inj he).symm hne
  · rw [if_neg h]
    constructor
    · intro he
      refine ⟨he, fun hu => h ?_⟩
      rw [he, hu]
    · exact And.left

omit [DecidableEq κ] in
theorem owner_abort_iff : (s.abort t k).owner = some u ↔ (s k).owner = some u ∧ u ≠ t := by
  rw [← owner_commit_iff]
  unfold Store.abort Store.commit
  rw [Slot.owner_abort, Slot.owner_commit]

end Owners

/-! ## Waiting -/

section Waiting
omit [DecidableEq κ] [DecidableEq τ]
variable (s) (Wants : τ → κ → Prop)

/-- A transaction wants a row that another one has locked. -/
def WaitsFor (t u : τ) : Prop := ∃ k, Wants t k ∧ (s k).owner = some u ∧ u ≠ t

/-- Transactions wait in a circle, each for a row locked by the next. -/
def WaitCycle : Prop := ∃ t, Relation.TransGen (s.WaitsFor Wants) t t

variable {s Wants}

/-- A chain of waiting climbs: it ends at a row no lower than the one its first transaction wants. -/
theorem climbs_of_waits {α : Type} [Preorder α] {rank : κ → α}
    (hbelow : ∀ t k k', (s k).owner = some t → Wants t k' → (s k').LockedFor t → rank k < rank k') {t u : τ}
    (h : Relation.TransGen (s.WaitsFor Wants) t u) :
    ∃ k, Wants t k ∧ (s k).LockedFor t ∧ ∃ k', (s k').owner = some u ∧ rank k ≤ rank k' := by
  induction h with
  | single hwaits =>
    obtain ⟨k, hwants, howner, hne⟩ := hwaits
    exact ⟨k, hwants, ⟨_, howner, hne⟩, k, howner, le_rfl⟩
  | tail _ hwaits ih =>
    obtain ⟨k, hwants, hlocked, k', howner, hle⟩ := ih
    obtain ⟨k'', hwants', howner', hne⟩ := hwaits
    have hlt : rank k' < rank k'' := hbelow _ k' k'' howner hwants' ⟨_, howner', hne⟩
    exact ⟨k, hwants, hlocked, k'', howner', hle.trans hlt.le⟩

/-- When every transaction waits above the rows it has locked, nobody waits in a circle. -/
theorem no_wait_cycle {α : Type} [Preorder α] (rank : κ → α)
    (hbelow : ∀ t k k', (s k).owner = some t → Wants t k' → (s k').LockedFor t → rank k < rank k') :
    ¬ s.WaitCycle Wants := by
  rintro ⟨t, hcycle⟩
  obtain ⟨k, hwants, hlocked, k', howner, hle⟩ := climbs_of_waits hbelow hcycle
  have hlt : rank k' < rank k := hbelow t k' k howner hwants hlocked
  exact absurd (hlt.trans_le hle) (lt_irrefl _)

end Waiting
end Store
end RowLocking
