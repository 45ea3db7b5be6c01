import Mathlib.Init

/-! # Reasoning about stateful computations that may raise

`EStateM ε σ` keeps the state a computation had reached when it raised, so one value describes both
what a transaction would commit and what it had already done when it failed.

* `*_ok_iff`: inversion, one lemma per construct. A run that returned is taken apart from the front;
  nothing is said about runs that raised.
* `Relates`: what links the two ends of every run that returned, for a relation that composes.
* `Stops` and `Keeps`: what holds wherever a run stops, returned or raised, with a rule for each
  construct.
-/

namespace Transactional
set_option autoImplicit false

variable {ε σ α β : Type}

/-! ## What a returning run did -/

theorem pure_ok_iff {a b : α} {s t : σ} :
    (pure a : EStateM ε σ α) s = .ok b t ↔ a = b ∧ s = t := by
  constructor
  · intro h
    cases h
    exact ⟨rfl, rfl⟩
  · rintro ⟨rfl, rfl⟩
    rfl

theorem bind_ok_iff {x : EStateM ε σ α} {f : α → EStateM ε σ β} {s t : σ} {b : β} :
    (x >>= f) s = .ok b t ↔ ∃ a u, x s = .ok a u ∧ f a u = .ok b t := by
  change EStateM.bind x f s = .ok b t ↔ _
  unfold EStateM.bind
  cases x s with
  | ok a u =>
    constructor
    · intro h
      exact ⟨a, u, rfl, h⟩
    · rintro ⟨a', u', h, hf⟩
      cases h
      exact hf
  | error e u =>
    constructor
    · intro h
      cases h
    · rintro ⟨a, u', h, -⟩
      cases h

theorem bind_of_ok {x : EStateM ε σ α} {f : α → EStateM ε σ β} {s t : σ} {a : α} (h : x s = .ok a t) :
    (x >>= f) s = f a t := by
  change EStateM.bind x f s = f a t
  unfold EStateM.bind
  rw [h]

theorem bind_of_error {x : EStateM ε σ α} {f : α → EStateM ε σ β} {s t : σ} {e : ε} (h : x s = .error e t) :
    (x >>= f) s = .error e t := by
  change EStateM.bind x f s = .error e t
  unfold EStateM.bind
  rw [h]

theorem throw_ok_iff {e : ε} {s t : σ} {b : α} :
    (throw e : EStateM ε σ α) s = .ok b t ↔ False := by
  constructor
  · intro h
    cases h
  · exact False.elim

theorem ite_throw_ok_iff {p : Prop} [Decidable p] {e : ε} {x : EStateM ε σ α} {s t : σ} {b : α} :
    (if p then throw e else x) s = .ok b t ↔ ¬ p ∧ x s = .ok b t := by
  by_cases hp : p
  · rw [if_pos hp, throw_ok_iff]
    exact ⟨False.elim, fun h => h.1 hp⟩
  · rw [if_neg hp]
    exact ⟨fun h => ⟨hp, h⟩, fun h => h.2⟩

/-- Sequencing of values that may be an error. -/
theorem except_bind_ok_iff {x : Except ε α} {f : α → Except ε β} {b : β} :
    (x >>= f) = .ok b ↔ ∃ a, x = .ok a ∧ f a = .ok b := by
  cases x with
  | ok a =>
    constructor
    · intro h
      exact ⟨a, rfl, h⟩
    · rintro ⟨a', h, hf⟩
      cases h
      exact hf
  | error e =>
    constructor
    · intro h
      cases h
    · rintro ⟨a', h, -⟩
      cases h

/-! ## The two ends of a returning run -/

/-- Returning runs of `x` lead from a state to one it is related to. -/
def Relates (R : σ → σ → Prop) (x : EStateM ε σ α) : Prop := ∀ s a t, x s = .ok a t → R s t

namespace Relates
variable {R : σ → σ → Prop}

theorem pure (hrefl : ∀ s, R s s) (a : α) : Relates R (Pure.pure a : EStateM ε σ α) := by
  intro s b t h
  obtain ⟨-, rfl⟩ := pure_ok_iff.mp h
  exact hrefl s

theorem throw (e : ε) : Relates R (MonadExcept.throw e : EStateM ε σ α) :=
  fun _ _ _ h => (throw_ok_iff.mp h).elim

theorem bind (htrans : ∀ s t u, R s t → R t u → R s u) {x : EStateM ε σ α} {f : α → EStateM ε σ β}
    (hx : Relates R x) (hf : ∀ a, Relates R (f a)) : Relates R (x >>= f) := by
  intro s b t h
  obtain ⟨a, u, hu, h⟩ := bind_ok_iff.mp h
  exact htrans s u t (hx s a u hu) (hf a u b t h)

theorem ite {p : Prop} [Decidable p] {x y : EStateM ε σ α} (hx : p → Relates R x)
    (hy : ¬ p → Relates R y) : Relates R (if p then x else y) := by
  by_cases h : p
  · rw [if_pos h]
    exact hx h
  · rw [if_neg h]
    exact hy h

end Relates

/-! ## Where a run stops -/

/-- A run stopped in a state of `P`, and if it raised, with one of the failures `E`. -/
def Stops (P : σ → Prop) (E : ε → Prop) : EStateM.Result ε σ α → Prop
  | .ok _ t => P t
  | .error e t => P t ∧ E e

/-- Runs from states of `P` stop in states of `P`, and raise nothing but `E`. -/
def Keeps (P : σ → Prop) (E : ε → Prop) (x : EStateM ε σ α) : Prop := ∀ s, P s → Stops P E (x s)

variable {P : σ → Prop} {E : ε → Prop}

theorem Stops.of_ok {r : EStateM.Result ε σ α} {a : α} {t : σ} (h : Stops P E r) (hr : r = .ok a t) :
    P t := by
  rw [hr] at h
  exact h

theorem Stops.of_error {r : EStateM.Result ε σ α} {e : ε} {t : σ} (h : Stops P E r)
    (hr : r = .error e t) : P t ∧ E e := by
  rw [hr] at h
  exact h

theorem Stops.mono {P' : σ → Prop} {E' : ε → Prop} {r : EStateM.Result ε σ α} (h : Stops P E r)
    (hP : ∀ s, P s → P' s) (hE : ∀ e, E e → E' e) : Stops P' E' r := by
  cases r with
  | ok a t => exact hP t h
  | error e t => exact ⟨hP t h.1, hE e h.2⟩

/-- Sequencing: the first part stopped for good, or it returned and the second part takes over. -/
theorem Stops.bind {x : EStateM ε σ α} {f : α → EStateM ε σ β} {s : σ} (hx : Stops P E (x s))
    (hf : ∀ a t, x s = .ok a t → Stops P E (f a t)) : Stops P E ((x >>= f) s) := by
  change Stops P E (EStateM.bind x f s)
  unfold EStateM.bind
  cases hxs : x s with
  | ok a t => exact hf a t hxs
  | error e t => exact hx.of_error hxs

theorem Stops.bind_keeps {x : EStateM ε σ α} {f : α → EStateM ε σ β} {s : σ} (hx : Stops P E (x s))
    (hf : ∀ a, Keeps P E (f a)) : Stops P E ((x >>= f) s) :=
  hx.bind fun a t h => hf a t (hx.of_ok h)

namespace Keeps

theorem pure (a : α) : Keeps P E (Pure.pure a : EStateM ε σ α) := fun _ hs => hs

theorem throw {e : ε} (he : E e) : Keeps P E (MonadExcept.throw e : EStateM ε σ α) :=
  fun _ hs => ⟨hs, he⟩

theorem bind {x : EStateM ε σ α} {f : α → EStateM ε σ β} (hx : Keeps P E x)
    (hf : ∀ a, Keeps P E (f a)) : Keeps P E (x >>= f) :=
  fun s hs => (hx s hs).bind_keeps hf

theorem ite {p : Prop} [Decidable p] {x y : EStateM ε σ α} (hx : p → Keeps P E x)
    (hy : ¬ p → Keeps P E y) : Keeps P E (if p then x else y) := by
  by_cases h : p
  · rw [if_pos h]
    exact hx h
  · rw [if_neg h]
    exact hy h

end Keeps
end Transactional
