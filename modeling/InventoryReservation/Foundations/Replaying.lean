import Mathlib.Data.Int.Notation
import Mathlib.Data.List.Basic

/-! # Replaying statements

A statement takes a state to the next one where it applies. `replay` applies a list of them, in order and
without leaving one out; `History` says that some list of admitted statements leads from one state to
another.

* `replay_keeps`: what every statement keeps, the whole list keeps.
* `replay_counts`: what every statement raises by one, the list raises by its length.
-/

namespace Replaying
set_option autoImplicit false

variable {ω σ : Type} (effect : ω → σ → Option σ)

/-- The state after all of the statements, if each of them applied. -/
def replay (s : σ) (statements : List ω) : Option σ :=
  statements.foldlM (fun s statement => effect statement s) s

/-- Statements with the property lead from one state to the other. -/
def History (ok : ω → Prop) (s t : σ) : Prop :=
  ∃ statements, (∀ statement ∈ statements, ok statement) ∧ replay effect s statements = some t

variable {effect} {ok : ω → Prop} {s t u : σ} {statement : ω} {statements : List ω}

theorem replay_nil (s : σ) : replay effect s [] = some s := rfl

theorem replay_cons_iff : replay effect s (statement :: statements) = some u ↔
    ∃ t, effect statement s = some t ∧ replay effect t statements = some u := by
  unfold replay
  rw [List.foldlM_cons]
  exact Option.bind_eq_some_iff

theorem replay_append {statements' : List ω} (h : replay effect s statements = some t)
    (h' : replay effect t statements' = some u) : replay effect s (statements ++ statements') = some u := by
  unfold replay at h h' ⊢
  rw [List.foldlM_append, h]
  exact h'

/-- The induction over a replay, from its end. -/
theorem replay_keeps {P : σ → Prop} (h : replay effect s statements = some t)
    (hstep : ∀ statement ∈ statements, ∀ a b, effect statement a = some b → P a → P b) (hs : P s) : P t := by
  induction statements generalizing s with
  | nil =>
    cases h
    exact hs
  | cons statement statements ih =>
    obtain ⟨u, hu, h⟩ := replay_cons_iff.mp h
    refine ih h (fun statement' hmem => hstep statement' (List.mem_cons_of_mem _ hmem)) ?_
    exact hstep statement List.mem_cons_self s u hu hs

/-- A measure that every statement raises by one, in the states with a property that they keep. -/
theorem replay_counts {P : σ → Prop} {m : σ → ℤ} (h : replay effect s statements = some t)
    (hstep : ∀ statement ∈ statements, ∀ a b, effect statement a = some b → P a →
      P b ∧ m b = m a + 1) (hs : P s) :
    P t ∧ m t = m s + statements.length := by
  induction statements generalizing s with
  | nil =>
    cases h
    exact ⟨hs, by simp⟩
  | cons statement statements ih =>
    obtain ⟨u, hu, h⟩ := replay_cons_iff.mp h
    obtain ⟨hP, hmeasure⟩ := hstep statement List.mem_cons_self s u hu hs
    obtain ⟨hPt, hlength⟩ := ih h (fun statement' hmem => hstep statement' (List.mem_cons_of_mem _ hmem)) hP
    refine ⟨hPt, ?_⟩
    rw [hlength, hmeasure, List.length_cons]
    omega

namespace History

theorem refl (s : σ) : History effect ok s s :=
  ⟨[], fun _ h => absurd h List.not_mem_nil, rfl⟩

theorem single (hok : ok statement) (h : effect statement s = some t) : History effect ok s t :=
  ⟨[statement], fun _ hmem => List.mem_singleton.mp hmem ▸ hok, replay_cons_iff.mpr ⟨t, h, rfl⟩⟩

theorem trans (h : History effect ok s t) (h' : History effect ok t u) : History effect ok s u := by
  obtain ⟨statements, hok, hreplay⟩ := h
  obtain ⟨statements', hok', hreplay'⟩ := h'
  refine ⟨statements ++ statements', ?_, replay_append hreplay hreplay'⟩
  intro statement hmem
  exact (List.mem_append.mp hmem).elim (hok statement) (hok' statement)

theorem mono {ok' : ω → Prop} (h : History effect ok s t) (himp : ∀ statement, ok statement → ok' statement) :
    History effect ok' s t := by
  obtain ⟨statements, hok, hreplay⟩ := h
  exact ⟨statements, fun statement hmem => himp statement (hok statement hmem), hreplay⟩

theorem keeps {P : σ → Prop} (h : History effect ok s t)
    (hstep : ∀ statement, ok statement → ∀ a b, effect statement a = some b → P a → P b) (hs : P s) : P t := by
  obtain ⟨statements, hok, hreplay⟩ := h
  exact replay_keeps hreplay (fun statement hmem => hstep statement (hok statement hmem)) hs

end History
end Replaying
