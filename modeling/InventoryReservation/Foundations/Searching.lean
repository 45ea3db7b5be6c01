import Mathlib.Data.List.Basic
import InventoryReservation.Foundations.Transaction

/-! # Searches that stop at the first decision

A search goes through candidates until one of them decides. Its result is `List.findSome?`, the
candidates it came to are `searched`: all of them, or those up to the one that decided.

Whom a stateful search turned to, and in which order, is observed by a second run of the same program over
a state with a log (`Logged`). Leaving out the log gives the program back (`Erases`).
-/

namespace Transactional
set_option autoImplicit false

/-! ## The candidates of a search -/

section Search
variable {α β : Type} {verdict : α → Option β}

/-- The candidates a search comes to. -/
def searched (verdict : α → Option β) : List α → List α
  | [] => []
  | a :: rest =>
    match verdict a with
    | none => a :: searched verdict rest
    | some _ => [a]

theorem searched_of_none {a : α} (h : verdict a = none) (rest : List α) :
    searched verdict (a :: rest) = a :: searched verdict rest := by
  rw [searched, h]

theorem searched_of_some {a : α} {b : β} (h : verdict a = some b) (rest : List α) :
    searched verdict (a :: rest) = [a] := by
  rw [searched, h]

theorem searched_front (l : List α) : searched verdict l <+: l := by
  induction l with
  | nil => exact List.nil_prefix
  | cons a rest ih =>
    cases h : verdict a with
    | none =>
      rw [searched_of_none h]
      exact List.cons_prefix_cons.mpr ⟨rfl, ih⟩
    | some b =>
      rw [searched_of_some h]
      exact List.cons_prefix_cons.mpr ⟨rfl, List.nil_prefix⟩

/-- A search comes to its first candidate. -/
theorem head?_searched (l : List α) : (searched verdict l).head? = l.head? := by
  cases l with
  | nil => rfl
  | cons a rest =>
    cases h : verdict a with
    | none => rw [searched_of_none h, List.head?_cons, List.head?_cons]
    | some b => rw [searched_of_some h, List.head?_cons, List.head?_cons]

/-- A candidate that decides is the last one the search came to. -/
theorem searched_eq_of_some {l : List α} {b : β} (h : l.findSome? verdict = some b) :
    ∃ before a, verdict a = some b ∧ (∀ c ∈ before, verdict c = none) ∧ searched verdict l = before ++ [a] := by
  induction l with
  | nil => cases h
  | cons a rest ih =>
    rw [List.findSome?_cons] at h
    cases ha : verdict a with
    | none =>
      rw [ha] at h
      obtain ⟨before, last, hlast, hbefore, hsearched⟩ := ih h
      refine ⟨a :: before, last, hlast, ?_, ?_⟩
      · intro c hc
        rcases List.mem_cons.mp hc with rfl | hc
        · exact ha
        · exact hbefore c hc
      · rw [searched_of_none ha, hsearched, List.cons_append]
    | some decided =>
      rw [ha] at h
      exact ⟨[], a, ha.trans h, fun c hc => absurd hc List.not_mem_nil, searched_of_some ha rest⟩

/-- The first decision is that of any candidate the search came to and that decides. -/
theorem findSome?_of_mem_searched {l : List α} {a : α} {b : β} (ha : a ∈ searched verdict l)
    (h : verdict a = some b) : l.findSome? verdict = some b := by
  induction l with
  | nil => cases ha
  | cons c rest ih =>
    rw [List.findSome?_cons]
    cases hc : verdict c with
    | none =>
      rw [searched_of_none hc] at ha
      rcases List.mem_cons.mp ha with rfl | ha
      · cases hc.symm.trans h
      · exact ih ha
    | some decided =>
      rw [searched_of_some hc] at ha
      rw [List.mem_singleton.mp ha] at h
      exact hc.symm.trans h

/-- Nothing after a candidate that decides is searched. -/
theorem not_mem_searched {before after : List α} {a : α} {b : β} (h : verdict a = some b)
    (hnodup : (before ++ a :: after).Nodup) {c : α} (hc : c ∈ after) :
    c ∉ searched verdict (before ++ a :: after) := by
  induction before with
  | nil =>
    rw [List.nil_append, searched_of_some h, List.mem_singleton]
    rintro rfl
    exact (List.nodup_cons.mp hnodup).1 hc
  | cons first before ih =>
    obtain ⟨hnew, hnodup⟩ := List.nodup_cons.mp hnodup
    have hne : c ≠ first := by
      rintro rfl
      exact hnew (List.mem_append_right _ (List.mem_cons_of_mem _ hc))
    rw [List.cons_append]
    cases hfirst : verdict first with
    | none =>
      rw [searched_of_none hfirst, List.mem_cons]
      rintro (he | hmem)
      · exact hne he
      · exact ih hnodup hmem
    | some decided =>
      rw [searched_of_some hfirst, List.mem_singleton]
      exact hne

end Search

/-! ## Logs -/

variable {ε σ Λ α β : Type}

/-- Computations that also keep a log. -/
abbrev Logged (ε σ Λ : Type) := EStateM ε (σ × List Λ)

/-- Add an entry to the log. -/
def note (entry : Λ) : Logged ε σ Λ Unit := fun s => .ok () (s.1, s.2 ++ [entry])

/-- A computation that adds nothing to the log. -/
def silently (body : EStateM ε σ α) : Logged ε σ Λ α := fun s =>
  match body s.1 with
  | .ok a t => .ok a (t, s.2)
  | .error e t => .error e (t, s.2)

/-- Leave out the log. -/
def unlogged : EStateM.Result ε (σ × List Λ) α → EStateM.Result ε σ α
  | .ok a t => .ok a t.1
  | .error e t => .error e t.1

/-- What a run came to, without the state. -/
def outcome : EStateM.Result ε σ α → Except ε α
  | .ok a _ => .ok a
  | .error e _ => .error e

/-- The state in which a run ended. -/
def ended : EStateM.Result ε σ α → σ
  | .ok _ t => t
  | .error _ t => t

@[simp] theorem outcome_unlogged (r : EStateM.Result ε (σ × List Λ) α) : outcome (unlogged r) = outcome r := by
  cases r <;> rfl

@[simp] theorem ended_unlogged (r : EStateM.Result ε (σ × List Λ) α) : ended (unlogged r) = (ended r).1 := by
  cases r <;> rfl

theorem exists_ok_of_outcome {r : EStateM.Result ε σ α} {a : α} (h : outcome r = .ok a) : ∃ t, r = .ok a t := by
  cases r with
  | ok b t =>
    cases h
    exact ⟨t, rfl⟩
  | error e t => cases h

theorem silently_of_ok {body : EStateM ε σ α} {s t : σ} {a : α} (h : body s = .ok a t) (log : List Λ) :
    silently body (s, log) = .ok a (t, log) := by
  unfold silently
  dsimp only
  rw [h]

theorem silently_of_error {body : EStateM ε σ α} {s t : σ} {e : ε} (h : body s = .error e t) (log : List Λ) :
    silently body (s, log) = .error e (t, log) := by
  unfold silently
  dsimp only
  rw [h]

/-- The second computation is the first without its log. -/
def Erases (x : Logged ε σ Λ α) (y : EStateM ε σ α) : Prop := ∀ s log, unlogged (x (s, log)) = y s

namespace Erases

theorem pure (a : α) : Erases (Pure.pure a : Logged ε σ Λ α) (Pure.pure a) := fun _ _ => rfl

theorem throw (e : ε) : Erases (MonadExcept.throw e : Logged ε σ Λ α) (MonadExcept.throw e) :=
  fun _ _ => rfl

theorem silently (body : EStateM ε σ α) : Erases (Transactional.silently body : Logged ε σ Λ α) body := by
  intro s log
  cases h : body s with
  | ok a t => rw [silently_of_ok h log, unlogged]
  | error e t => rw [silently_of_error h log, unlogged]

theorem note {entry : Λ} {x : Logged ε σ Λ α} {y : EStateM ε σ α} (h : Erases x y) :
    Erases (Transactional.note entry >>= fun _ => x) y := fun s log => h s (log ++ [entry])

theorem bind {x : Logged ε σ Λ α} {y : EStateM ε σ α} {f : α → Logged ε σ Λ β} {g : α → EStateM ε σ β}
    (hx : Erases x y) (hf : ∀ a, Erases (f a) (g a)) : Erases (x >>= f) (y >>= g) := by
  intro s log
  have hs := hx s log
  cases h : x (s, log) with
  | ok a t =>
    rw [h, unlogged] at hs
    rw [bind_of_ok h, bind_of_ok hs.symm]
    exact hf a t.1 t.2
  | error e t =>
    rw [h, unlogged] at hs
    rw [bind_of_error h, bind_of_error hs.symm, unlogged]

end Erases
end Transactional
