import InventoryReservation.Concurrency.ProviderRegistry
import InventoryReservation.Guarantees.HalfOpenProbe
import Mathlib.Data.List.Destutter

/-! # Circuits of different adapters

Whatever transactions look providers up and call them at the same time, an adapter behaves as if it were the
only one, from the lookup that built it on; and a provider gets a new adapter exactly when it is asked for
with other settings than the time before.
-/

namespace InventoryReservation
set_option autoImplicit false

/-- Repeating the last element changes nothing, and any other is kept. -/
theorem List.destutter_concat {α : Type} [DecidableEq α] (l : List α) (a : α) :
    (l ++ [a]).destutter (· ≠ ·) =
      if l.getLast? = some a then l.destutter (· ≠ ·) else l.destutter (· ≠ ·) ++ [a] := by
  cases l with
  | nil => rfl
  | cons b l =>
    rw [List.cons_append, List.destutter_cons', List.destutter_cons', List.getLast?_cons]
    induction l generalizing b with
    | nil =>
      by_cases h : b = a <;> simp [h]
    | cons c l ih =>
      rw [List.cons_append, List.getLast?_cons, Option.getD_some]
      by_cases h : b = c
      · rw [List.destutter'_cons_neg _ (not_not.mpr h), List.destutter'_cons_neg _ (not_not.mpr h), h]
        exact ih c
      · rw [List.destutter'_cons_pos _ h, List.destutter'_cons_pos _ h, ih c]
        split <;> rfl

/-- No probe is under way, and none is marked. -/
theorem Circuits.ProbesMarked.start {ι : Type} (clock : Seconds) : (Circuits.start ι clock).ProbesMarked := by
  constructor <;> simp [Circuits.start, Circuits.Probing, CircuitState.initial]

namespace ProviderRegistry
variable {σ ι γ : Type} [DecidableEq σ] [DecidableEq ι] {breaker : CircuitBreaker}
  {completionOf : ProviderOperation → γ → Completion} {registry : ProviderRegistry σ ι}

/-! ## Calls through one adapter -/

/-- A step changes nothing about an adapter that is there but for the calls through it. -/
theorem step_adapters {n : ℕ} (hn : n < registry.adapters.length) (move : RegistryMove σ ι γ) :
    (registry.step breaker completionOf move).adapters[n]? =
      (registry.adapters[n]?).map fun adapter =>
        { adapter with circuits := adapter.circuits.run breaker completionOf (move.through n) } := by
  cases move with
  | getExternal providerId settings clock =>
    have hkept : (registry.getExternal providerId settings clock).2.adapters[n]? = registry.adapters[n]? := by
      unfold getExternal
      split
      · split
        · rfl
        · exact List.getElem?_append_left hn
      · exact List.getElem?_append_left hn
    simpa [step, RegistryMove.through] using hkept
  | call m move =>
    simp only [step, RegistryMove.through, List.getElem?_modify]
    by_cases hm : m = n <;> simp [hm]

/-- An adapter that a step adds is what a lookup built. -/
theorem step_built {n : ℕ} {adapter : Adapter σ ι} {move : RegistryMove σ ι γ} (hn : registry.adapters.length ≤ n)
    (h : (registry.step breaker completionOf move).adapters[n]? = some adapter) :
    registry.adapters.length = n ∧ ∃ clock, move = .getExternal adapter.providerId adapter.settings clock ∧
      adapter.circuits = .start ι clock := by
  have hnone : registry.adapters[n]? = none := List.getElem?_eq_none hn
  cases move with
  | getExternal providerId settings clock =>
    by_cases hr : (registry.providers providerId).map Prod.fst = some settings
    · obtain ⟨⟨_, provider⟩, hp, rfl⟩ := Option.map_eq_some_iff.mp hr
      rw [step, getExternal_registered hp, hnone] at h
      cases h
    · rw [step, getExternal_build hr] at h
      change (registry.adapters ++ [⟨providerId, settings, .start ι clock⟩])[n]? = some adapter at h
      rw [List.getElem?_append_right hn, List.getElem?_singleton] at h
      obtain ⟨hzero, ⟨⟩⟩ := Option.ite_none_right_eq_some.mp h
      exact ⟨by omega, clock, rfl, rfl⟩
  | call m move =>
    simp [step, List.getElem?_modify, hnone] at h

/-- An adapter is a breaker that only the calls through it have passed since the lookup that built it. -/
structure Separate (breaker : CircuitBreaker) (completionOf : ProviderOperation → γ → Completion)
    (moves : List (RegistryMove σ ι γ)) (n : ℕ) (adapter : Adapter σ ι) : Prop where
  alone : ∃ before clock later,
    moves = before ++ .getExternal adapter.providerId adapter.settings clock :: later ∧
      ((empty σ ι).run breaker completionOf before).adapters.length = n ∧
      adapter.circuits = (Circuits.start ι clock).run breaker completionOf
        (later.flatMap fun move => move.through n)
  probes : adapter.circuits.ProbesMarked

theorem run_separate (moves : List (RegistryMove σ ι γ)) {n : ℕ} {adapter : Adapter σ ι}
    (h : ((empty σ ι).run breaker completionOf moves).adapters[n]? = some adapter) :
    Separate breaker completionOf moves n adapter := by
  induction moves using List.reverseRecOn generalizing adapter with
  | nil => cases h
  | append_singleton moves move ih =>
    unfold run at h
    rw [Runs.run_append, Runs.run_cons, Runs.run_nil] at h
    by_cases hn : n < ((empty σ ι).run breaker completionOf moves).adapters.length
    · rw [step_adapters hn] at h
      obtain ⟨adapter, hadapter, rfl⟩ := Option.map_eq_some_iff.mp h
      obtain ⟨⟨before, clock, later, rfl, hlength, hcircuits⟩, hprobes⟩ := ih hadapter
      refine ⟨⟨before, clock, later ++ [move], by simp, hlength, ?_⟩, ?_⟩
      · rw [List.flatMap_append, List.flatMap_singleton]
        unfold Circuits.run at hcircuits ⊢
        rw [Runs.run_append, ← hcircuits]
      · exact Runs.run_invariant_of_all (fun _ move h => h.step move) hprobes _
    · obtain ⟨hlength, clock, rfl, hcircuits⟩ := step_built (Nat.le_of_not_lt hn) h
      refine ⟨⟨moves, clock, [], rfl, hlength, hcircuits⟩, ?_⟩
      rw [hcircuits]
      exact .start clock

/-- A call that ends after its adapter has been replaced. -/
theorem run_separate_replaced :
    let breaker : CircuitBreaker := ⟨1, 30⟩
    let dispatched : CallMove ℕ Completion := .dispatch 0 .hold 0
    let completed : CallMove ℕ Completion := .complete 0 .callFailed 2
    Separate breaker (fun _ completion => completion)
      [.getExternal 1 "http://one" 0, .call 0 dispatched, .getExternal 1 "http://two" 1, .call 0 completed] 0
      ⟨1, "http://one", (Circuits.start ℕ 0).run breaker (fun _ completion => completion) [dispatched, completed]⟩ :=
  run_separate _ rfl

/-! ## Lookups of one provider -/

/-- What the registry has of a provider after these lookups of it. -/
structure Registered (registry : ProviderRegistry σ ι) (providerId : Uuid) (lookups : List σ) : Prop where
  built : registry.settingsOf providerId = lookups.destutter (· ≠ ·)
  last : (registry.providers providerId).map Prod.fst = lookups.getLast?
  newest : ∀ settings provider, registry.providers providerId = some (settings, provider) →
    registry.Newest providerId settings provider

omit [DecidableEq ι] in
theorem Registered.empty (providerId : Uuid) : (empty σ ι).Registered providerId [] where
  built := rfl
  last := rfl
  newest _ _ h := by cases h

omit [DecidableEq ι] in
/-- What is known of a provider depends on what the adapters were built for, not on their circuits. -/
theorem Registered.congr {registry' : ProviderRegistry σ ι} {providerId : Uuid} {lookups : List σ}
    (h : registry.Registered providerId lookups) (hbuilt : registry'.built = registry.built)
    (hproviders : registry'.providers = registry.providers) : registry'.Registered providerId lookups := by
  obtain ⟨hsettings, hlast, hnewest⟩ := h
  refine ⟨?_, ?_, ?_⟩
  · rw [settingsOf, hbuilt]
    exact hsettings
  · rw [hproviders]
    exact hlast
  · rw [hproviders]
    unfold Newest
    rw [hbuilt]
    exact hnewest

omit [DecidableEq σ] [DecidableEq ι] in
theorem built_build (providerId : Uuid) (settings : σ) (clock : Seconds) :
    (registry.build providerId settings clock).2.built = registry.built ++ [(providerId, settings)] := by
  simp [build, built]

omit [DecidableEq σ] [DecidableEq ι] in
theorem newest_build (providerId : Uuid) (settings : σ) (clock : Seconds) :
    (registry.build providerId settings clock).2.Newest providerId settings
      (registry.build providerId settings clock).1 := by
  have hplace : (registry.build providerId settings clock).1 = registry.built.length :=
    (List.length_map ..).symm
  unfold Newest
  rw [built_build, hplace]
  refine ⟨by simp, fun later settings' hlater h => ?_⟩
  have hbeyond : (registry.built ++ [(providerId, settings)]).length ≤ later := by
    rw [List.length_append, List.length_singleton]
    omega
  rw [List.getElem?_eq_none hbeyond] at h
  cases h

omit [DecidableEq ι] in
/-- A new adapter for the provider itself. -/
theorem Registered.build {providerId : Uuid} {lookups : List σ} (h : registry.Registered providerId lookups)
    {settings : σ} (hfresh : lookups.getLast? ≠ some settings) (clock : Seconds) :
    (registry.build providerId settings clock).2.Registered providerId (lookups ++ [settings]) where
  built := by
    rw [settingsOf, built_build, List.filter_append, List.map_append, List.destutter_concat, if_neg hfresh,
      ← h.built]
    simp [settingsOf]
  last := by simp [ProviderRegistry.build]
  newest settings' provider hp := by
    simp only [ProviderRegistry.build, Function.update_self, Option.some.injEq, Prod.mk.injEq] at hp
    obtain ⟨rfl, rfl⟩ := hp
    exact newest_build providerId settings clock

omit [DecidableEq ι] in
/-- A new adapter for another provider. -/
theorem Registered.build_of_ne {providerId providerId' : Uuid} {lookups : List σ}
    (h : registry.Registered providerId lookups) (hne : providerId' ≠ providerId) (settings : σ) (clock : Seconds) :
    (registry.build providerId' settings clock).2.Registered providerId lookups := by
  have hproviders : (registry.build providerId' settings clock).2.providers providerId =
      registry.providers providerId := Function.update_of_ne (Ne.symm hne) _ _
  refine ⟨?_, ?_, ?_⟩
  · rw [settingsOf, built_build, List.filter_append, ← h.built]
    simp [settingsOf, hne]
  · rw [hproviders]
    exact h.last
  · intro settings' provider hp
    rw [hproviders] at hp
    obtain ⟨hbuilt, hlater⟩ := h.newest settings' provider hp
    unfold Newest
    rw [built_build]
    refine ⟨?_, fun later settings'' hlt hl => ?_⟩
    · rw [List.getElem?_append_left (List.getElem?_eq_some_iff.mp hbuilt).1]
      exact hbuilt
    · rw [List.getElem?_append] at hl
      split at hl
      · exact hlater later settings'' hlt hl
      · have hnew := List.mem_of_getElem? hl
        simp [Ne.symm hne] at hnew

theorem Registered.step {providerId : Uuid} {lookups : List σ} (h : registry.Registered providerId lookups)
    (move : RegistryMove σ ι γ) :
    (registry.step breaker completionOf move).Registered providerId (lookups ++ move.lookup providerId) := by
  cases move with
  | call n move =>
    rw [RegistryMove.lookup, List.append_nil]
    refine h.congr ?_ rfl
    refine List.ext_getElem? fun m => ?_
    simp only [ProviderRegistry.step, ProviderRegistry.built, List.getElem?_map, List.getElem?_modify]
    split <;> cases registry.adapters[m]? <;> rfl
  | getExternal providerId' settings clock =>
    rw [ProviderRegistry.step, RegistryMove.lookup]
    by_cases hr : (registry.providers providerId').map Prod.fst = some settings
    · obtain ⟨⟨_, provider⟩, hp, rfl⟩ := Option.map_eq_some_iff.mp hr
      rw [getExternal_registered hp]
      split
      · next he =>
        have hlast := h.last
        rw [← he, hp] at hlast
        refine ⟨?_, ?_, h.newest⟩
        · rw [List.destutter_concat]
          exact h.built.trans (if_pos hlast.symm).symm
        · rw [← he, hp, List.getLast?_concat]
          rfl
      · rw [List.append_nil]
        exact h
    · rw [getExternal_build hr]
      split
      · next he =>
        subst he
        rw [h.last] at hr
        exact h.build hr clock
      · next hne =>
        rw [List.append_nil]
        exact h.build_of_ne hne settings clock

theorem run_registered (moves : List (RegistryMove σ ι γ)) (providerId : Uuid) :
    ((empty σ ι).run breaker completionOf moves).Registered providerId
      (moves.flatMap fun move => move.lookup providerId) := by
  induction moves using List.reverseRecOn with
  | nil => exact Registered.empty providerId
  | append_singleton moves move ih =>
    unfold run at ih ⊢
    rw [Runs.run_append, List.flatMap_append, List.flatMap_singleton]
    exact ih.step move

/-- What a lookup hands out after other lookups of the provider. -/
structure HandsOut (registry : ProviderRegistry σ ι) (lookups : List σ) (providerId : Uuid) (settings : σ)
    (handed : ℕ × ProviderRegistry σ ι) : Prop where
  newest : handed.2.Newest providerId settings handed.1
  kept : lookups.getLast? = some settings → handed.2 = registry
  fresh : lookups.getLast? ≠ some settings → handed.1 = registry.adapters.length

/-- A provider is given a new adapter by every lookup with other settings than the one before, and by no
other; a lookup hands out the newest. -/
theorem run_lookups (moves : List (RegistryMove σ ι γ)) (providerId : Uuid) (settings : σ) (clock : Seconds) :
    let registry := (empty σ ι).run breaker completionOf moves
    let lookups := moves.flatMap fun move => move.lookup providerId
    registry.settingsOf providerId = lookups.destutter (· ≠ ·) ∧
      registry.HandsOut lookups providerId settings (registry.getExternal providerId settings clock) := by
  intro registry lookups
  have h : registry.Registered providerId lookups := run_registered moves providerId
  refine ⟨h.built, ?_⟩
  by_cases hr : (registry.providers providerId).map Prod.fst = some settings
  · obtain ⟨⟨_, provider⟩, hp, rfl⟩ := Option.map_eq_some_iff.mp hr
    rw [getExternal_registered hp]
    refine ⟨h.newest _ _ hp, fun _ => rfl, fun hne => ?_⟩
    rw [h.last] at hr
    exact absurd hr hne
  · rw [getExternal_build hr]
    refine ⟨newest_build providerId settings clock, fun he => ?_, fun _ => rfl⟩
    rw [h.last] at hr
    exact absurd he hr

end ProviderRegistry
end InventoryReservation
