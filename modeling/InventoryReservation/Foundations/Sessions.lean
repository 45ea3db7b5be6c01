import InventoryReservation.Foundations.Runs
import Mathlib.Logic.Function.Basic

/-! # Programs that work in sessions

A program works on a shared state in sessions. A session is executed as a whole, and what comes after it may
depend on what it read; between two sessions of one program, others may come. So a program can go on with
what is no longer true.

* `atomically`: the whole program, with nothing in between.
* `Patient`: a session before the last one only reads, and what is left of the program then still does all
  of it, wherever the state grows to.
* `Threads.run_atomic`: in every run of threads, a patient program ends with what the whole of it would have
  done at its last session, and does nothing before.
* `Threads.run_actsOnce`: a patient program that has ended did at one of its turns all that it did.
-/

namespace Sessions
set_option autoImplicit false

inductive Program (σ α : Type) where
  | finished (result : α)
  | session (write : σ → σ) (next : σ → Program σ α)

namespace Program
variable {σ α β ε : Type}

def bind : Program σ α → (α → Program σ β) → Program σ β
  | finished result, f => f result
  | session write next, f => session write fun s => (next s).bind f

instance : Monad (Program σ) where
  pure := finished
  bind := bind

/-- One session that changes the state and returns. -/
def transaction (body : σ → α × σ) : Program σ α :=
  session (fun s => (body s).2) fun s => finished (body s).1

/-- One session that only reads. -/
def reading (query : σ → α) : Program σ α := session id fun s => finished (query s)

def result? : Program σ α → Option α
  | finished result => some result
  | session _ _ => none

/-- The next session. -/
def advance : Program σ α → σ → Program σ α × σ
  | finished result, s => (finished result, s)
  | session write next, s => (next s, write s)

/-- The answer of the whole program and the state it leaves. -/
def atomically : Program σ α → σ → α × σ
  | finished result, s => (result, s)
  | session write next, s => (next s).atomically (write s)

/-- The program has at most so many sessions. -/
def Within : ℕ → Program σ α → Prop
  | _, finished _ => True
  | 0, session _ _ => False
  | n + 1, session _ next => ∀ s, (next s).Within n

end Program

/-- An invariant of the shared state, and how the state may change while it holds. -/
structure Growth (σ : Type) where
  inv : σ → Prop
  grows : σ → σ → Prop
  refl : ∀ s, grows s s
  trans : ∀ {s t u}, grows s t → grows t u → grows s u

namespace Program
variable {σ α β ε : Type} (G : Growth σ)

/-- From this state on, every session keeps the invariant and lets the state grow. -/
def Keeps : Program σ α → σ → Prop
  | finished _, _ => True
  | session write next, s => ∀ t, G.inv t → G.grows s t →
      (G.inv (write t) ∧ G.grows t (write t)) ∧ (next t).Keeps (write t)

/-- A session that is not the last one only reads, and reading again later would come to the same. -/
def Patient : Program σ α → Prop
  | finished _ => True
  | session write next => ∀ s, G.inv s → (next s).Patient ∧
      ((∃ result, next s = finished result) ∨
        write s = s ∧ ∀ t, G.inv t → G.grows s t → (next s).atomically t = (next t).atomically (write t))

variable {G} {p q : Program σ α}

/-! ## Rules for one construct -/

theorem Keeps.later {s t : σ} (h : p.Keeps G s) (hgrows : G.grows s t) : p.Keeps G t := by
  cases p with
  | finished result => trivial
  | session write next => exact fun u hu htu => h u hu (G.trans hgrows htu)

theorem Keeps.transaction {body : σ → α × σ} {s : σ}
    (h : ∀ t, G.inv t → G.grows s t → G.inv (body t).2 ∧ G.grows t (body t).2) :
    (transaction body).Keeps G s :=
  fun t ht hgrows => ⟨h t ht hgrows, trivial⟩

theorem Keeps.reading (query : σ → α) (s : σ) : (reading query).Keeps G s :=
  fun t ht _ => ⟨⟨ht, G.refl t⟩, trivial⟩

theorem Patient.transaction (body : σ → α × σ) : (transaction body).Patient G :=
  fun s _ => ⟨trivial, Or.inl ⟨(body s).1, rfl⟩⟩

theorem Patient.reading (query : σ → α) : (reading query).Patient G :=
  fun s _ => ⟨trivial, Or.inl ⟨query s, rfl⟩⟩

theorem Within.mono {n m : ℕ} (h : p.Within n) (hle : n ≤ m) : p.Within m := by
  induction p generalizing n m with
  | finished result => cases m <;> trivial
  | session write next ih =>
    cases n with
    | zero => cases h
    | succ n =>
      obtain ⟨k, rfl⟩ := Nat.exists_eq_add_of_le' (Nat.le_trans (Nat.succ_le_succ n.zero_le) hle)
      exact fun s => ih s (h s) (by omega)

section Map
variable {f : α → β}

theorem atomically_map (s : σ) : (f <$> p).atomically s = (f (p.atomically s).1, (p.atomically s).2) := by
  induction p generalizing s with
  | finished result => rfl
  | session write next ih => exact ih s (write s)

theorem Keeps.map {s : σ} (h : p.Keeps G s) : (f <$> p).Keeps G s := by
  induction p generalizing s with
  | finished result => trivial
  | session write next ih => exact fun t ht hgrows => ⟨(h t ht hgrows).1, ih t (h t ht hgrows).2⟩

theorem Patient.map (h : p.Patient G) : (f <$> p).Patient G := by
  induction p with
  | finished result => trivial
  | session write next ih =>
    intro s hs
    obtain ⟨hnext, hread⟩ := h s hs
    refine ⟨ih s hnext, hread.imp ?_ ?_⟩
    · rintro ⟨result, hresult⟩
      exact ⟨f result, congrArg (f <$> ·) hresult⟩
    · rintro ⟨hwrite, hsame⟩
      refine ⟨hwrite, fun t ht hgrows => ?_⟩
      change (f <$> next s).atomically t = (f <$> next t).atomically (write t)
      rw [atomically_map, atomically_map, hsame t ht hgrows]

theorem Within.map {n : ℕ} (h : p.Within n) : (f <$> p).Within n := by
  induction p generalizing n with
  | finished result => cases n <;> trivial
  | session write next ih =>
    cases n with
    | zero => cases h
    | succ n => exact fun s => ih s (h s)

end Map

end Program

/-! ## Programs that raise -/

/-- Programs whose sessions may raise. -/
abbrev Raising (σ ε α : Type) := ExceptT ε (Program σ) α

namespace Raising
variable {σ α β ε : Type}

/-- A session that only reads. -/
def query (body : σ → Except ε α) : Raising σ ε α := ExceptT.mk (Program.reading body)

/-- `if not await check: raise error`. -/
def require (check : σ → Bool) (error : ε) : Raising σ ε Unit :=
  query fun s => if check s then .ok () else .error error

def transaction (body : σ → Except ε α × σ) : Raising σ ε α := ExceptT.mk (Program.transaction body)

/-- Raise or go on, without a session. -/
def returning (result : Except ε α) : Raising σ ε α := ExceptT.mk (.finished result)

/-- No session is left. -/
def Returns (x : Raising σ ε α) : Prop := ∃ result, x.run = .finished result

theorem returns_pure (a : α) : Returns (pure a : Raising σ ε α) := ⟨.ok a, rfl⟩

theorem returns_throw (error : ε) : Returns (throw error : Raising σ ε α) := ⟨.error error, rfl⟩

theorem returns_returning (result : Except ε α) : Returns (returning result : Raising σ ε α) := ⟨result, rfl⟩

variable {G : Growth σ} {body : σ → Except ε α} {rest : α → Raising σ ε β}

theorem returning_bind (result : Except ε α) (rest : α → Raising σ ε β) :
    (returning result >>= rest).run = ExceptT.bindCont rest result := rfl

theorem atomically_query (s : σ) :
    (query body >>= rest).run.atomically s = (ExceptT.bindCont rest (body s)).atomically s := rfl

theorem atomically_transaction {body : σ → Except ε α × σ} (s : σ) :
    (transaction body >>= rest).run.atomically s = (ExceptT.bindCont rest (body s).1).atomically (body s).2 :=
  rfl

theorem keeps_query {s : σ} (h : ∀ t a, G.inv t → body t = .ok a → (rest a).run.Keeps G t) :
    (query body >>= rest).run.Keeps G s := by
  intro t ht _
  refine ⟨⟨ht, G.refl t⟩, ?_⟩
  change (ExceptT.bindCont rest (body t)).Keeps G t
  cases hbody : body t with
  | ok a => exact h t a ht hbody
  | error error => trivial

/-- The rule for a session that is not the last one: with what it read, the rest does later what the whole
would do. -/
theorem patient_query (h : ∀ a, (rest a).run.Patient G)
    (hagain : ∀ s a, G.inv s → body s = .ok a → (rest a).Returns ∨
      ∀ t, G.inv t → G.grows s t → (rest a).run.atomically t = (query body >>= rest).run.atomically t) :
    (query body >>= rest).run.Patient G := by
  intro s hs
  change (ExceptT.bindCont rest (body s)).Patient G ∧ ((∃ result, ExceptT.bindCont rest (body s) = _) ∨
    s = s ∧ ∀ t, G.inv t → G.grows s t → (ExceptT.bindCont rest (body s)).atomically t = _)
  cases hbody : body s with
  | ok a => exact ⟨h a, (hagain s a hs hbody).imp id fun hsame => ⟨rfl, hsame⟩⟩
  | error error => exact ⟨trivial, Or.inl ⟨.error error, rfl⟩⟩

theorem within_query {n : ℕ} (h : ∀ a, (rest a).run.Within n) : (query body >>= rest).run.Within (n + 1) := by
  intro s
  change (ExceptT.bindCont rest (body s)).Within n
  cases body s with
  | ok a => exact h a
  | error error => cases n <;> trivial

section LastTransaction
variable {body : σ → Except ε α × σ}

theorem keeps_transaction {s : σ}
    (hbody : ∀ t, G.inv t → G.grows s t → G.inv (body t).2 ∧ G.grows t (body t).2)
    (hrest : ∀ a, (rest a).Returns) : (transaction body >>= rest).run.Keeps G s := by
  intro t ht hgrows
  refine ⟨hbody t ht hgrows, ?_⟩
  change (ExceptT.bindCont rest (body t).1).Keeps G (body t).2
  cases (body t).1 with
  | ok a =>
    obtain ⟨result, hresult⟩ := hrest a
    change (rest a).run.Keeps G (body t).2
    rw [hresult]
    trivial
  | error error => trivial

theorem patient_transaction (hrest : ∀ a, (rest a).Returns) : (transaction body >>= rest).run.Patient G := by
  intro s hs
  change (ExceptT.bindCont rest (body s).1).Patient G ∧ ((∃ result, ExceptT.bindCont rest (body s).1 = _) ∨ _)
  cases (body s).1 with
  | ok a =>
    obtain ⟨result, hresult⟩ := hrest a
    refine ⟨?_, Or.inl ⟨result, hresult⟩⟩
    change (rest a).run.Patient G
    rw [hresult]
    trivial
  | error error => exact ⟨trivial, Or.inl ⟨.error error, rfl⟩⟩

theorem within_transaction (hrest : ∀ a, (rest a).Returns) : (transaction body >>= rest).run.Within 1 := by
  intro s
  change (ExceptT.bindCont rest (body s).1).Within 0
  cases (body s).1 with
  | ok a =>
    obtain ⟨result, hresult⟩ := hrest a
    change (rest a).run.Within 0
    rw [hresult]
    trivial
  | error error => trivial

end LastTransaction

/-! ### Checks -/

section Checks
variable {check : σ → Bool} {error : ε} {result : Except ε α}

theorem keeps_returning {s : σ} (h : ∀ a, result = .ok a → (rest a).run.Keeps G s) :
    (returning result >>= rest).run.Keeps G s := by
  rw [returning_bind]
  cases hresult : result with
  | ok a => exact h a hresult
  | error error => trivial

theorem patient_returning (h : ∀ a, result = .ok a → (rest a).run.Patient G) :
    (returning result >>= rest).run.Patient G := by
  rw [returning_bind]
  cases hresult : result with
  | ok a => exact h a hresult
  | error error => trivial

theorem within_returning {n : ℕ} (h : ∀ a, result = .ok a → (rest a).run.Within n) :
    (returning result >>= rest).run.Within n := by
  rw [returning_bind]
  cases hresult : result with
  | ok a => exact h a hresult
  | error error => cases n <;> trivial

variable {rest : Unit → Raising σ ε β}

theorem keeps_require {s : σ} (h : ∀ t, G.inv t → (rest ()).run.Keeps G t) :
    (require check error >>= rest).run.Keeps G s := keeps_query fun t _ ht _ => h t ht

theorem within_require {n : ℕ} (h : (rest ()).run.Within n) :
    (require check error >>= rest).run.Within (n + 1) := within_query fun _ => h

theorem atomically_require (check : σ → Bool) (error : ε) (rest : Unit → Raising σ ε β) (s : σ) :
    (require check error >>= rest).run.atomically s =
      if check s then (rest ()).run.atomically s else (.error error, s) := by
  unfold require
  rw [atomically_query]
  cases check s <;> rfl

/-- A check that stays passed may be followed by more sessions. -/
theorem patient_require (hstays : ∀ s t, G.inv s → G.grows s t → check s = true → check t = true)
    (h : (rest ()).run.Patient G) : (require check error >>= rest).run.Patient G := by
  refine patient_query (fun _ => h) fun s a hs hbody => Or.inr fun t _ hgrows => ?_
  have hcheck : check s = true := by
    by_contra hnot
    rw [if_neg hnot] at hbody
    cases hbody
  change _ = (require check error >>= rest).run.atomically t
  rw [atomically_require, if_pos (hstays s t hs hgrows hcheck)]

end Checks
end Raising

/-! ## Threads -/

/-- The shared state and what is left of each program. -/
structure Threads (τ σ α : Type) where
  shared : σ
  programs : τ → Program σ α

namespace Threads
variable {τ σ α : Type} [DecidableEq τ]

/-- The next session of one of the threads. -/
def step (threads : Threads τ σ α) (thread : τ) : Threads τ σ α :=
  let advanced := (threads.programs thread).advance threads.shared
  ⟨advanced.2, Function.update threads.programs thread advanced.1⟩

abbrev run (threads : Threads τ σ α) (turns : List τ) : Threads τ σ α := Runs.run step threads turns

variable {G : Growth σ} {threads : Threads τ σ α} {thread : τ}

theorem step_self : (threads.step thread).programs thread =
    ((threads.programs thread).advance threads.shared).1 := Function.update_self _ _ _

theorem step_other {other : τ} (h : thread ≠ other) :
    (threads.step other).programs thread = threads.programs thread := Function.update_of_ne h _ _

/-- The shared state is as it should be, and the programs will keep it so. -/
structure Kept (G : Growth σ) (threads : Threads τ σ α) : Prop where
  inv : G.inv threads.shared
  keeps : ∀ thread, (threads.programs thread).Keeps G threads.shared

theorem step_kept (h : threads.Kept G) (thread : τ) :
    (threads.step thread).Kept G ∧ G.grows threads.shared (threads.step thread).shared := by
  have hkeeps := h.keeps thread
  have hadvance : (G.inv ((threads.programs thread).advance threads.shared).2 ∧
      G.grows threads.shared ((threads.programs thread).advance threads.shared).2) ∧
      ((threads.programs thread).advance threads.shared).1.Keeps G
        ((threads.programs thread).advance threads.shared).2 := by
    cases hp : threads.programs thread with
    | finished result => exact ⟨⟨h.inv, G.refl _⟩, trivial⟩
    | session write next =>
      rw [hp] at hkeeps
      exact hkeeps threads.shared h.inv (G.refl _)
  refine ⟨⟨hadvance.1.1, fun other => ?_⟩, hadvance.1.2⟩
  by_cases hother : other = thread
  · subst hother
    rw [step_self]
    exact hadvance.2
  · rw [step_other hother]
    exact (h.keeps other).later hadvance.1.2

theorem run_kept (h : threads.Kept G) (turns : List τ) : (threads.run turns).Kept G :=
  Runs.run_invariant_of_all (I := Kept G) (fun _ thread hs => (step_kept hs thread).1) h turns

theorem run_grows (h : threads.Kept G) (turns : List τ) : G.grows threads.shared (threads.run turns).shared :=
  (Runs.run_invariant_of_all (I := fun s : Threads τ σ α => s.Kept G ∧ G.grows threads.shared s.shared)
    (fun _ thread hs => ⟨(step_kept hs.1 thread).1, G.trans hs.2 (step_kept hs.1 thread).2⟩)
    ⟨h, G.refl _⟩ turns).2

/-! ## Patient threads -/

/-- What is left of the program has yet to do all that the program does, wherever the state grows to. -/
def Stands (G : Growth σ) (program left : Program σ α) (s : σ) : Prop :=
  left.Patient G ∧ (left.result? = none → ∀ t, G.inv t → G.grows s t → left.atomically t = program.atomically t)

/-- A session of a patient program is its last one, or leaves all of it to do. -/
theorem Stands.advance {program left : Program σ α} {s : σ} (h : Stands G program left s) (hs : G.inv s)
    (hleft : left.result? = none) :
    (left.advance s = (.finished (program.atomically s).1, (program.atomically s).2)) ∨
      ((left.advance s).1.result? = none ∧ (left.advance s).2 = s ∧ Stands G program (left.advance s).1 s) := by
  obtain ⟨hpatient, hstands⟩ := h
  cases left with
  | finished result => cases hleft
  | session write next =>
    have hwhole := hstands rfl s hs (G.refl s)
    obtain ⟨hnext, hread⟩ := hpatient s hs
    cases hn : next s with
    | finished result =>
      refine Or.inl ?_
      rw [← hwhole, Program.atomically, Program.advance, hn]
      rfl
    | session write' next' =>
      obtain ⟨hwrite, hsame⟩ := hread.resolve_left (by
        rintro ⟨result, hresult⟩
        rw [hn] at hresult
        cases hresult)
      refine Or.inr ⟨?_, hwrite, hnext, fun _ t ht hgrows => ?_⟩
      · rw [Program.advance, hn]
        rfl
      · rw [← hstands rfl t ht hgrows, Program.atomically, ← hsame t ht hgrows]
        rfl

/-- A finished thread does nothing. -/
theorem step_finished (h : (threads.programs thread).result?.isSome) : threads.step thread = threads := by
  cases hp : threads.programs thread with
  | finished result =>
    unfold step
    rw [hp]
    dsimp only [Program.advance]
    rw [← hp, Function.update_eq_self]
  | session write next =>
    rw [hp] at h
    cases h

theorem step_stands {program : Program σ α} (hkept : threads.Kept G)
    (h : Stands G program (threads.programs thread) threads.shared) (other : τ) :
    Stands G program ((threads.step other).programs thread) (threads.step other).shared := by
  by_cases hother : thread = other
  · subst hother
    cases hresult : (threads.programs thread).result? with
    | some result =>
      rw [step_finished (by rw [hresult]; rfl)]
      exact h
    | none =>
      rw [step_self]
      rcases h.advance hkept.inv hresult with hlast | ⟨-, hshared, hstands⟩
      · rw [hlast]
        refine ⟨trivial, fun hnone => ?_⟩
        cases hnone
      · change Stands G program _ ((threads.programs thread).advance threads.shared).2
        rw [hshared]
        exact hstands
  · rw [step_other hother]
    refine ⟨h.1, fun hnone t ht hgrows => ?_⟩
    exact h.2 hnone t ht (G.trans (step_kept hkept other).2 hgrows)

theorem run_stands {program : Program σ α} (hkept : threads.Kept G)
    (h : Stands G program (threads.programs thread) threads.shared) (turns : List τ) :
    Stands G program ((threads.run turns).programs thread) (threads.run turns).shared := by
  refine (Runs.run_invariant_of_all
    (I := fun s : Threads τ σ α => s.Kept G ∧ Stands G program (s.programs thread) s.shared)
    (fun s other hs => ?_) ⟨hkept, h⟩ turns).2
  exact ⟨(step_kept hs.1 other).1, step_stands hs.1 hs.2 other⟩

/-- The next session of the thread either does nothing and leaves the thread unfinished, or it is the whole
program: the thread returns what the program returns in the present state, and leaves the state that the
program leaves. -/
def AtOnce (program : Program σ α) (before : Threads τ σ α) (thread : τ) : Prop :=
  (((before.step thread).programs thread).result? = none ∧ (before.step thread).shared = before.shared) ∨
    ((before.step thread).programs thread).result? = some (program.atomically before.shared).1 ∧
      (before.step thread).shared = (program.atomically before.shared).2

theorem run_atomic (hkept : threads.Kept G) (hpatient : (threads.programs thread).Patient G) (turns : List τ)
    (hleft : ((threads.run turns).programs thread).result? = none) :
    AtOnce (threads.programs thread) (threads.run turns) thread := by
  let before := threads.run turns
  let after := before.step thread
  have hstart : Stands G (threads.programs thread) (threads.programs thread) threads.shared :=
    ⟨hpatient, fun _ _ _ _ => rfl⟩
  have hstands := run_stands hkept hstart turns
  have hprogram : (after.programs thread) = ((before.programs thread).advance before.shared).1 := step_self
  rcases hstands.advance (run_kept hkept turns).inv hleft with hlast | ⟨hnone, hshared, -⟩
  · refine Or.inr ⟨?_, ?_⟩
    · rw [hprogram, hlast]
      rfl
    · exact congrArg Prod.snd hlast
  · exact Or.inl ⟨by rw [hprogram]; exact hnone, hshared⟩

/-! ## The moment of an answer -/

theorem run_append (turns more : List τ) : threads.run (turns ++ more) = (threads.run turns).run more :=
  Runs.run_append step threads turns more

theorem result_stays {a : α} (h : (threads.programs thread).result? = some a) (turns : List τ) :
    ((threads.run turns).programs thread).result? = some a := by
  refine Runs.run_invariant_of_all (I := fun s : Threads τ σ α => (s.programs thread).result? = some a)
    (fun s other hs => ?_) h turns
  by_cases hother : thread = other
  · subst hother
    rw [step_finished (by rw [hs]; rfl)]
    exact hs
  · rw [step_other hother]
    exact hs

/-- A thread that is done now was done at one of its turns. -/
theorem run_answered {a : α} (hleft : (threads.programs thread).result? = none) {turns : List τ}
    (hdone : ((threads.run turns).programs thread).result? = some a) :
    ∃ earlier later, turns = earlier ++ thread :: later ∧
      ((threads.run earlier).programs thread).result? = none ∧
      ((threads.run (earlier ++ [thread])).programs thread).result? = some a := by
  induction turns generalizing threads with
  | nil =>
    change (threads.programs thread).result? = some a at hdone
    rw [hleft] at hdone
    cases hdone
  | cons turn turns ih =>
    cases hresult : ((threads.step turn).programs thread).result? with
    | none =>
      obtain ⟨earlier, later, rfl, hnone, hsome⟩ := ih hresult hdone
      exact ⟨turn :: earlier, later, rfl, hnone, hsome⟩
    | some b =>
      have hb : some b = some a := (result_stays hresult turns).symm.trans hdone
      obtain rfl : thread = turn := by
        by_contra hother
        rw [step_other hother, hleft] at hresult
        cases hresult
      exact ⟨[], turns, rfl, hleft, hresult.trans hb⟩

/-- The thread returned `a` because its program, executed as a whole at one of its turns, returns `a` and leaves
what that turn left. Its other turns left the shared state alone. -/
def ActsOnce (program : Program σ α) (threads : Threads τ σ α) (thread : τ) (turns : List τ) (a : α) : Prop :=
  ∃ earlier later, turns = earlier ++ thread :: later ∧
    program.atomically (threads.run earlier).shared = (a, (threads.run (earlier ++ [thread])).shared) ∧
    ∀ other rest, turns = other ++ thread :: rest → other ≠ earlier →
      (threads.run (other ++ [thread])).shared = (threads.run other).shared

theorem run_actsOnce (hkept : threads.Kept G) (hpatient : (threads.programs thread).Patient G)
    (hleft : (threads.programs thread).result? = none) {turns : List τ} {a : α}
    (hdone : ((threads.run turns).programs thread).result? = some a) :
    ActsOnce (threads.programs thread) threads thread turns a := by
  have hlast : ∀ turns : List τ, threads.run (turns ++ [thread]) = (threads.run turns).step thread :=
    fun turns => run_append turns [thread]
  obtain ⟨earlier, later, hturns, hnone, hsome⟩ := run_answered hleft hdone
  refine ⟨earlier, later, hturns, ?_, fun other rest hother hne => ?_⟩
  · rw [hlast] at hsome ⊢
    rcases run_atomic hkept hpatient earlier hnone with ⟨hnone', -⟩ | ⟨hresult, hshared⟩
    · rw [hsome] at hnone'
      cases hnone'
    · rw [hsome] at hresult
      exact Prod.ext (Option.some.inj hresult).symm hshared.symm
  · -- A turn before the answer leaves the thread pending, a turn after it meets a thread that is done.
    have hpending : ∀ front back, earlier = front ++ back →
        ((threads.run front).programs thread).result? = none := by
      rintro front back rfl
      by_contra hsome'
      obtain ⟨b, hb⟩ := Option.ne_none_iff_exists'.mp hsome'
      have hstays := result_stays hb back
      rw [← run_append, hnone] at hstays
      cases hstays
    rw [hlast]
    rcases List.append_eq_append_iff.mp (hother.symm.trans hturns) with
      ⟨between, hearlier, hrest⟩ | ⟨between, rfl, hrest⟩
    · cases between with
      | nil => exact absurd (hearlier.trans (List.append_nil other)).symm hne
      | cons turn between =>
        obtain ⟨rfl, -⟩ := List.cons.inj hrest
        rcases run_atomic hkept hpatient other (hpending other _ hearlier) with ⟨-, hshared⟩ | ⟨hresult, -⟩
        · exact hshared
        · have hleft' := hpending (other ++ [thread]) between (by rw [hearlier, List.append_assoc]; rfl)
          rw [hlast, hresult] at hleft'
          cases hleft'
    · cases between with
      | nil => exact absurd (List.append_nil earlier) hne
      | cons turn between =>
        obtain ⟨rfl, -⟩ := List.cons.inj hrest
        have hdone' := result_stays hsome between
        rw [← run_append, List.append_assoc] at hdone'
        exact congrArg shared (step_finished (Option.isSome_of_eq_some hdone'))

/-! ## Progress -/

theorem step_within {n : ℕ} (h : (threads.programs thread).Within n) :
    ((threads.step thread).programs thread).Within (n - 1) := by
  rw [step_self]
  cases hp : threads.programs thread with
  | finished result => cases n - 1 <;> trivial
  | session write next =>
    rw [hp] at h
    cases n with
    | zero => cases h
    | succ n => exact h threads.shared

/-- A thread is done after as many turns as its program has sessions. -/
theorem run_finishes {n : ℕ} (h : (threads.programs thread).Within n) {turns : List τ}
    (hturns : n ≤ turns.count thread) : ((threads.run turns).programs thread).result?.isSome := by
  induction turns generalizing threads n with
  | nil =>
    obtain rfl : n = 0 := Nat.le_zero.mp hturns
    change (threads.programs thread).result?.isSome
    cases hp : threads.programs thread with
    | finished result => rfl
    | session write next =>
      rw [hp] at h
      cases h
  | cons turn turns ih =>
    change (((threads.step turn).run turns).programs thread).result?.isSome
    by_cases hturn : turn = thread
    · subst hturn
      rw [List.count_cons_self] at hturns
      exact ih (step_within h) (by omega)
    · rw [List.count_cons_of_ne hturn] at hturns
      exact ih (by rw [step_other fun he => hturn he.symm]; exact h) hturns

end Threads
end Sessions
