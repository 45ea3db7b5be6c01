import Mathlib.Data.List.Basic

/-! # What remote parties have said

Parties keep states of their own, which change without our doing, but never again once they are final. All we
get of them is a log of messages, some of which state the state a party is in. If they state what is the case
(`Attested`), a final state that was once stated is still the case.
-/

namespace Testimony
set_option autoImplicit false

variable {κ τ μ : Type}

/-- The parties may have moved on, out of states that are not final. -/
def Evolves (final : τ → Prop) (before after : κ → τ) : Prop := ∀ k, final (before k) → after k = before k

/-- From one state of the parties to another with these messages in between, each true when it was sent. -/
inductive Attested (final : τ → Prop) (states : μ → Option (κ × τ)) : List μ → (κ → τ) → (κ → τ) → Prop
  | nil {before after : κ → τ} (h : Evolves final before after) : Attested final states [] before after
  | cons {message : μ} {messages : List μ} {before between after : κ → τ} (h : Evolves final before between)
      (htrue : ∀ stated ∈ states message, between stated.1 = stated.2)
      (hrest : Attested final states messages between after) :
      Attested final states (message :: messages) before after

variable {final : τ → Prop} {states : μ → Option (κ × τ)} {before between after : κ → τ}

theorem Evolves.refl (before : κ → τ) : Evolves final before before := fun _ _ => rfl

theorem Evolves.trans (h : Evolves final before between) (h' : Evolves final between after) :
    Evolves final before after := by
  intro k hfinal
  have hbetween := h k hfinal
  rw [← hbetween] at hfinal
  exact (h' k hfinal).trans hbetween

namespace Attested

theorem evolves {messages : List μ} (h : Attested final states messages before after) :
    Evolves final before after := by
  induction h with
  | nil h => exact h
  | cons h _ _ ih => exact h.trans ih

/-- A final state that was stated is the case. -/
theorem stands {messages : List μ} (h : Attested final states messages before after) {message : μ}
    (hmessage : message ∈ messages) {k : κ} {value : τ} (hstates : states message = some (k, value))
    (hfinal : final value) : after k = value := by
  induction h with
  | nil => exact absurd hmessage List.not_mem_nil
  | cons h htrue hrest ih =>
    rcases List.mem_cons.mp hmessage with rfl | hlater
    · have hnow := htrue (k, value) hstates
      dsimp only at hnow
      rw [← hnow] at hfinal
      exact (hrest.evolves k hfinal).trans hnow
    · exact ih hlater

theorem of_evolves (h : Evolves final before between) {messages : List μ}
    (h' : Attested final states messages between after) : Attested final states messages before after := by
  cases h' with
  | nil h' => exact .nil (h.trans h')
  | cons h' htrue hrest => exact .cons (h.trans h') htrue hrest

/-- Messages that are true of one state of the parties may all have been sent in it. -/
theorem of_stated {messages : List μ} (h : ∀ message ∈ messages, ∀ stated ∈ states message,
    after stated.1 = stated.2) : Attested final states messages after after := by
  induction messages with
  | nil => exact .nil (.refl after)
  | cons message messages ih =>
    refine .cons (.refl after) (h message List.mem_cons_self) (ih fun later hlater => ?_)
    exact h later (List.mem_cons_of_mem _ hlater)

/-- Two final states that were stated of one party are the same. -/
theorem consistent {messages : List μ} (h : Attested final states messages before after) {message message' : μ}
    (hm : message ∈ messages) (hm' : message' ∈ messages) {k : κ} {value value' : τ}
    (hs : states message = some (k, value)) (hs' : states message' = some (k, value')) (hfinal : final value)
    (hfinal' : final value') : value = value' :=
  (h.stands hm hs hfinal).symm.trans (h.stands hm' hs' hfinal')

end Attested
end Testimony
