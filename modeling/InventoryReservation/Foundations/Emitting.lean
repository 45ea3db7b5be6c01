import InventoryReservation.Foundations.Transaction
import Mathlib.Data.List.Nodup

/-! # Emitted at most once

A stateful computation that may raise writes labels into a log. `EmitsOnce log D x` says of every run of `x`,
wherever it stops, that it adds nothing but labels of `D` and none of them twice. Parts of a computation
compose when their domains are disjoint, so that no label is repeated within the whole.
-/

namespace Transactional
set_option autoImplicit false

variable {ε σ α β γ : Type}

/-- The log has grown by labels of `D`, each added once. -/
def Emitted (log : σ → List γ) (D : γ → Prop) (s t : σ) : Prop :=
  ∃ labels : List γ, log t = log s ++ labels ∧ labels.Nodup ∧ ∀ label ∈ labels, D label

def EmitsOnce (log : σ → List γ) (D : γ → Prop) (x : EStateM ε σ α) : Prop :=
  ∀ s, Stops (Emitted log D s) (fun _ => True) (x s)

variable {log : σ → List γ} {D D' : γ → Prop} {s t u : σ}

namespace Emitted

theorem refl (s : σ) : Emitted log D s s := ⟨[], by simp⟩

theorem of_eq (h : log t = log s) : Emitted log D s t := ⟨[], by simpa using h⟩

theorem single {label : γ} (h : log t = log s ++ [label]) (hD : D label) : Emitted log D s t :=
  ⟨[label], h, List.nodup_singleton label, by simpa using hD⟩

theorem mono (h : Emitted log D s t) (hD : ∀ label, D label → D' label) : Emitted log D' s t := by
  obtain ⟨labels, hlog, hnodup, hmem⟩ := h
  exact ⟨labels, hlog, hnodup, fun label hl => hD label (hmem label hl)⟩

theorem trans (h : Emitted log D s t) (h' : Emitted log D' t u) (hdisjoint : ∀ label, D label → ¬ D' label) :
    Emitted log (fun label => D label ∨ D' label) s u := by
  obtain ⟨labels, hlog, hnodup, hmem⟩ := h
  obtain ⟨labels', hlog', hnodup', hmem'⟩ := h'
  refine ⟨labels ++ labels', ?_, ?_, ?_⟩
  · rw [hlog', hlog, List.append_assoc]
  · refine List.nodup_append.mpr ⟨hnodup, hnodup', fun a ha b hb he => ?_⟩
    rw [he] at ha
    exact hdisjoint b (hmem b ha) (hmem' b hb)
  · intro label hl
    exact (List.mem_append.mp hl).imp (hmem label) (hmem' label)

end Emitted

namespace EmitsOnce

theorem mono {x : EStateM ε σ α} (h : EmitsOnce log D x) (hD : ∀ label, D label → D' label) :
    EmitsOnce log D' x :=
  fun s => (h s).mono (fun _ ht => ht.mono hD) fun _ he => he

theorem pure (a : α) : EmitsOnce log D (Pure.pure a : EStateM ε σ α) := Emitted.refl

theorem throw (e : ε) : EmitsOnce log D (MonadExcept.throw e : EStateM ε σ α) :=
  fun s => ⟨Emitted.refl s, trivial⟩

/-- One part after another; what the second emits may depend on what the first returned. -/
theorem bind {x : EStateM ε σ α} {f : α → EStateM ε σ β} (hx : EmitsOnce log D x)
    (hf : ∀ s a t, x s = .ok a t → EmitsOnce log D' (f a)) (hdisjoint : ∀ label, D label → ¬ D' label) :
    EmitsOnce log (fun label => D label ∨ D' label) (x >>= f) := by
  intro s
  have hfirst : Stops (Emitted log (fun label => D label ∨ D' label) s) (fun _ => True) (x s) :=
    (hx s).mono (fun _ ht => ht.mono fun _ => Or.inl) fun _ he => he
  refine hfirst.bind fun a t hxs => ?_
  exact (hf s a t hxs t).mono (fun _ hu => ((hx s).of_ok hxs).trans hu hdisjoint) fun _ he => he

/-- A part that emits nothing comes first. -/
theorem bind_silent {x : EStateM ε σ α} {f : α → EStateM ε σ β} (hx : EmitsOnce log (fun _ => False) x)
    (hf : ∀ s a t, x s = .ok a t → EmitsOnce log D (f a)) : EmitsOnce log D (x >>= f) :=
  (hx.bind hf fun _ => False.elim).mono fun _ => Or.rec False.elim id

/-- A part that emits nothing comes last. -/
theorem bind_quiet {x : EStateM ε σ α} {f : α → EStateM ε σ β} (hx : EmitsOnce log D x)
    (hf : ∀ a, EmitsOnce log (fun _ => False) (f a)) : EmitsOnce log D (x >>= f) :=
  (hx.bind (fun _ a _ _ => hf a) fun _ _ => id).mono fun _ => Or.rec id False.elim

theorem ite {p : Prop} [Decidable p] {x y : EStateM ε σ α} (hx : p → EmitsOnce log D x)
    (hy : ¬ p → EmitsOnce log D y) : EmitsOnce log D (if p then x else y) := by
  by_cases h : p
  · rw [if_pos h]
    exact hx h
  · rw [if_neg h]
    exact hy h

end EmitsOnce
end Transactional
