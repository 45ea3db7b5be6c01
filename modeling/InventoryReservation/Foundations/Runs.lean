import Mathlib.Data.List.Basic

/-! # Runs of a transition system

A system is a step function from a state and an event to a state. A run is a list of events. Some
results hold only of runs whose every event is acceptable in the state it meets; `Admissible` says
that, and the rules below turn a fact about one acceptable step into one about every state of an
admissible run: an invariant (`run_invariant`), what holds until something occurs (`run_until`), a
measure that runs out (`run_exhausts`), and an invariant of the state and all that has been given off
(`run_trace`).
-/

namespace Runs
set_option autoImplicit false

variable {σ ε : Type} (step : σ → ε → σ)

/-- The state after a list of events. -/
def run (s : σ) (es : List ε) : σ := es.foldl step s

@[simp] theorem run_nil (s : σ) : run step s [] = s := rfl

@[simp] theorem run_cons (s : σ) (e : ε) (es : List ε) :
    run step s (e :: es) = run step (step s e) es := rfl

theorem run_append (s : σ) (es fs : List ε) :
    run step s (es ++ fs) = run step (run step s es) fs := List.foldl_append

/-- Every event is acceptable in the state it meets. -/
def Admissible (ok : σ → ε → Prop) : σ → List ε → Prop
  | _, [] => True
  | s, e :: es => ok s e ∧ Admissible ok (step s e) es

/-- Some event of the run meets a state in which `P` holds of the two. -/
def Occurs (P : σ → ε → Prop) : σ → List ε → Prop
  | _, [] => False
  | s, e :: es => P s e ∨ Occurs P (step s e) es

/-- What the events of a run give off, in their order. -/
def trace {α : Type} (emit : σ → ε → List α) : σ → List ε → List α
  | _, [] => []
  | s, e :: es => emit s e ++ trace emit (step s e) es

variable {step} {ok P : σ → ε → Prop}

instance [h : ∀ s e, Decidable (ok s e)] : ∀ (s : σ) (es : List ε), Decidable (Admissible step ok s es)
  | _, [] => isTrue trivial
  | s, e :: es =>
    have := instDecidableAdmissible (h := h) (step s e) es
    inferInstanceAs (Decidable (_ ∧ _))

theorem Admissible.append_iff {s : σ} {es fs : List ε} :
    Admissible step ok s (es ++ fs) ↔
      Admissible step ok s es ∧ Admissible step ok (run step s es) fs := by
  induction es generalizing s with
  | nil => simp [Admissible]
  | cons e es ih =>
    simp only [List.cons_append, Admissible, ih, run_cons, and_assoc]

theorem Admissible.of_all (h : ∀ s e, ok s e) (s : σ) (es : List ε) : Admissible step ok s es := by
  induction es generalizing s with
  | nil => trivial
  | cons e es ih => exact ⟨h s e, ih _⟩

/-- What one acceptable step preserves, every admissible run preserves. -/
theorem run_invariant {I : σ → Prop} (hstep : ∀ s e, I s → ok s e → I (step s e)) {s : σ}
    {es : List ε} (hs : I s) (ha : Admissible step ok s es) : I (run step s es) := by
  induction es generalizing s with
  | nil => exact hs
  | cons e es ih => exact ih (hstep s e hs ha.1) ha.2

/-- An invariant that needs nothing of the events holds after any run. -/
theorem run_invariant_of_all {I : σ → Prop} (hstep : ∀ s e, I s → I (step s e)) {s : σ}
    (hs : I s) (es : List ε) : I (run step s es) := by
  induction es generalizing s with
  | nil => exact hs
  | cons e es ih => exact ih (hstep s e hs)

/-- What a step preserves of the state together with all that has been given off so far. -/
theorem run_trace {α : Type} {emit : σ → ε → List α} {I : List α → σ → Prop}
    (hstep : ∀ log s e, I log s → I (log ++ emit s e) (step s e)) {s : σ} {log : List α} (hs : I log s)
    (es : List ε) : I (log ++ trace step emit s es) (run step s es) := by
  induction es generalizing s log with
  | nil =>
    rw [trace, List.append_nil]
    exact hs
  | cons e es ih =>
    rw [trace, ← List.append_assoc]
    exact ih (hstep log s e hs)

/-- A measure that every acceptable step lowers is zero after as many steps. -/
theorem run_exhausts {I : σ → Prop} {m : σ → ℕ} (hinv : ∀ s e, I s → ok s e → I (step s e))
    (hstep : ∀ s e, I s → ok s e → m (step s e) ≤ m s - 1) {s : σ} {es : List ε} (hs : I s)
    (ha : Admissible step ok s es) (hlength : m s ≤ es.length) : m (run step s es) = 0 := by
  induction es generalizing s with
  | nil => exact Nat.le_zero.mp hlength
  | cons e es ih =>
    have hlower := hstep s e hs ha.1
    rw [List.length_cons] at hlength
    exact ih (hinv s e hs ha.1) ha.2 (by omega)

instance [h : ∀ s e, Decidable (P s e)] : ∀ (s : σ) (es : List ε), Decidable (Occurs step P s es)
  | _, [] => isFalse id
  | s, e :: es =>
    have := instDecidableOccurs (h := h) (step s e) es
    inferInstanceAs (Decidable (_ ∨ _))

/-- What holds until `P` occurs: an acceptable step keeps it or is the occurrence. -/
theorem run_until {I J : σ → Prop} (hinv : ∀ s e, I s → ok s e → I (step s e))
    (hstep : ∀ s e, I s → ok s e → J s → P s e ∨ J (step s e)) {s : σ} {es : List ε} (hs : I s)
    (hj : J s) (ha : Admissible step ok s es) : Occurs step P s es ∨ J (run step s es) := by
  induction es generalizing s with
  | nil => exact Or.inr hj
  | cons e es ih =>
    rcases hstep s e hs ha.1 hj with hp | hj'
    · exact Or.inl (Or.inl hp)
    · exact (ih (hinv s e hs ha.1) hj' ha.2).imp Or.inr id

end Runs
