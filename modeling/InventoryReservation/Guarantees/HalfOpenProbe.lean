import InventoryReservation.Concurrency.OverlappingCalls

/-! # One half-open probe

However calls through a breaker overlap and however they end, at most one probe of an operation is under
way, the flag of its circuit says so exactly while it is, and a probe that ends makes room for the next.
The circuits of different operations have nothing to do with each other.
-/

namespace InventoryReservation
set_option autoImplicit false

namespace Circuits
variable {ι γ : Type} [DecidableEq ι] {breaker : CircuitBreaker}
  {completionOf : ProviderOperation → γ → Completion} {s : Circuits ι}

omit [DecidableEq ι] in
/-- The call is under way as a half-open probe of the operation. -/
def Probing (s : Circuits ι) (operation : ProviderOperation) (call : ι) : Prop :=
  s.calls call = some ⟨operation, true⟩

/-- The flags tell which operations have a probe under way, and none has two. -/
structure ProbesMarked (s : Circuits ι) : Prop where
  marked : ∀ operation, (s.states operation).probeInFlight = true ↔ ∃ call, s.Probing operation call
  unique : ∀ operation call call', s.Probing operation call → s.Probing operation call' → call = call'

omit [DecidableEq ι] in
/-- Steps that leave the flags and the probes alone. -/
theorem ProbesMarked.congr {s' : Circuits ι} (h : s.ProbesMarked)
    (hflags : ∀ operation, (s'.states operation).probeInFlight = (s.states operation).probeInFlight)
    (hprobing : ∀ operation call, s'.Probing operation call ↔ s.Probing operation call) :
    s'.ProbesMarked where
  marked operation := by
    rw [hflags, h.marked]
    exact exists_congr fun call => (hprobing operation call).symm
  unique operation call call' hc hc' :=
    h.unique operation call call' ((hprobing operation call).mp hc) ((hprobing operation call').mp hc')

/-- A forwarded call that is no probe. -/
theorem ProbesMarked.forwarded {call : ι} {operation : ProviderOperation} (h : s.ProbesMarked)
    (hfree : s.calls call = none) (now : Seconds) :
    ProbesMarked
      { s with
        calls := Function.update s.calls call (some ⟨operation, false⟩)
        clock := now } := by
  refine h.congr (fun _ => rfl) fun operation' call' => ?_
  unfold Probing
  dsimp only
  by_cases hc : call' = call
  · subst hc
    rw [Function.update_self, hfree]
    simp
  · rw [Function.update_of_ne hc]

/-- A probe starts only where none is under way. -/
theorem ProbesMarked.probed {call : ι} {operation : ProviderOperation} {state : CircuitState}
    (h : s.ProbesMarked) (hfree : s.calls call = none)
    (hunmarked : (s.states operation).probeInFlight = false) (hmarked : state.probeInFlight = true)
    (now : Seconds) :
    ProbesMarked
      { states := Function.update s.states operation state
        calls := Function.update s.calls call (some ⟨operation, true⟩)
        clock := now } := by
  have hnone : ∀ call', ¬ s.Probing operation call' := by
    intro call' hc
    have hflag := (h.marked operation).mpr ⟨call', hc⟩
    rw [hunmarked] at hflag
    cases hflag
  have hprobing : ∀ operation' call', (Function.update s.calls call (some ⟨operation, true⟩)) call' =
      some ⟨operation', true⟩ ↔ (operation' = operation ∧ call' = call) ∨ s.Probing operation' call' := by
    intro operation' call'
    unfold Probing
    by_cases hc : call' = call
    · subst hc
      rw [Function.update_self, hfree]
      simp [eq_comm]
    · rw [Function.update_of_ne hc]
      simp [hc]
  constructor
  · intro operation'
    unfold Probing
    dsimp only
    by_cases ho : operation' = operation
    · subst ho
      rw [Function.update_self, hmarked]
      simp only [true_iff]
      exact ⟨call, (hprobing _ _).mpr (Or.inl ⟨rfl, rfl⟩)⟩
    · rw [Function.update_of_ne ho, h.marked]
      refine exists_congr fun call' => ?_
      rw [hprobing]
      simp [ho]
  · intro operation' call₁ call₂ h₁ h₂
    rcases (hprobing _ _).mp h₁ with ⟨ho, hc₁⟩ | hp₁
    · rcases (hprobing _ _).mp h₂ with ⟨-, hc₂⟩ | hp₂
      · rw [hc₁, hc₂]
      · rw [ho] at hp₂
        exact absurd hp₂ (hnone call₂)
    · rcases (hprobing _ _).mp h₂ with ⟨ho, -⟩ | hp₂
      · rw [ho] at hp₁
        exact absurd hp₁ (hnone call₁)
      · exact h.unique operation' call₁ call₂ hp₁ hp₂

/-- Whatever comes of a call, the flag goes down with the probe that raised it and with nothing else. -/
theorem ProbesMarked.completed {call : ι} {operation : ProviderOperation} {isProbe : Bool}
    (h : s.ProbesMarked) (hcall : s.calls call = some ⟨operation, isProbe⟩) (completion : Completion)
    (now : Seconds) :
    ProbesMarked
      { states := Function.update s.states operation
          (breaker.complete (s.states operation) isProbe completion now)
        calls := Function.update s.calls call none
        clock := now } := by
  have hprobing : ∀ operation' call', (Function.update s.calls call none) call' =
      some ⟨operation', true⟩ ↔ s.Probing operation' call' ∧ call' ≠ call := by
    intro operation' call'
    unfold Probing
    by_cases hc : call' = call
    · subst hc
      rw [Function.update_self]
      simp
    · rw [Function.update_of_ne hc]
      simp [hc]
  constructor
  · intro operation'
    unfold Probing
    dsimp only
    simp only [hprobing]
    by_cases ho : operation' = operation
    · subst ho
      rw [Function.update_self, CircuitBreaker.complete_probeInFlight]
      cases isProbe with
      | true =>
        simp only [Bool.not_true, Bool.and_false, Bool.false_eq_true, false_iff]
        rintro ⟨call', hp, hne⟩
        exact hne (h.unique _ call' call hp hcall)
      | false =>
        simp only [Bool.not_false, Bool.and_true]
        rw [h.marked]
        refine exists_congr fun call' => (and_iff_left_of_imp fun hp hc => ?_).symm
        rw [hc, Probing, hcall] at hp
        cases hp
    · rw [Function.update_of_ne ho, h.marked]
      refine exists_congr fun call' => (and_iff_left_of_imp fun hp hc => ?_).symm
      rw [hc, Probing, hcall] at hp
      cases hp
      exact ho rfl
  · intro operation' call₁ call₂ h₁ h₂
    exact h.unique operation' call₁ call₂ ((hprobing _ _).mp h₁).1 ((hprobing _ _).mp h₂).1

theorem ProbesMarked.step (h : s.ProbesMarked) (move : CallMove ι γ) :
    (s.step breaker completionOf move).ProbesMarked := by
  generalize hs' : s.step breaker completionOf move = s'
  have hstepped : Stepped breaker completionOf s move s' := hs' ▸ stepped breaker completionOf s move
  clear hs'
  cases hstepped with
  | idle => exact h.congr (fun _ => rfl) fun _ _ => Iff.rfl
  | dispatched call operation now isProbe state hfree hdispatch =>
    rcases CircuitBreaker.dispatch_cases hdispatch with ⟨-, rfl, rfl⟩ | ⟨rfl, hflag, rfl, -⟩
    · rw [Function.update_eq_self]
      exact h.forwarded hfree now
    · exact h.probed hfree hflag rfl now
  | completed call result now flight hcall => exact h.completed hcall _ now

/-- The move is part of a call of the operation. -/
def Concerns (s : Circuits ι) (operation : ProviderOperation) : CallMove ι γ → Prop
  | .dispatch _ operation' _ => operation' = operation
  | .complete call _ _ => ∃ flight ∈ s.calls call, flight.operation = operation

/-- A call of another operation leaves a circuit alone. -/
theorem step_states_of_not_concerns {operation : ProviderOperation} {move : CallMove ι γ}
    (h : ¬ s.Concerns operation move) :
    (s.step breaker completionOf move).states operation = s.states operation := by
  generalize hs' : s.step breaker completionOf move = s'
  have hstepped : Stepped breaker completionOf s move s' := hs' ▸ stepped breaker completionOf s move
  clear hs'
  cases hstepped with
  | idle => rfl
  | dispatched call operation' now isProbe state hfree hdispatch => exact Function.update_of_ne (Ne.symm h) _ _
  | completed call result now flight hcall =>
    have hne : operation ≠ flight.operation := fun he => h ⟨flight, hcall, he.symm⟩
    exact Function.update_of_ne hne _ _

/-- At most one probe of an operation is under way, and it never gets lost. -/
structure OneProbe (breaker : CircuitBreaker) (completionOf : ProviderOperation → γ → Completion)
    (s : Circuits ι) : Prop where
  probes : s.ProbesMarked
  /-- However a probe ends, no probe of its operation is under way afterwards. -/
  completes : ∀ operation call result now, s.Probing operation call →
    ∀ call', ¬ (s.complete breaker completionOf call result now).Probing operation call'
  /-- While none is, a call goes through once the recovery timeout has passed. -/
  admits : ∀ operation now, (∀ call, ¬ s.Probing operation call) →
    (∀ openedAt ∈ (s.states operation).openedAt, breaker.recoveryTimeout ≤ now - openedAt) →
      s.Forwards breaker operation now
  separate : ∀ operation (move : CallMove ι γ), ¬ s.Concerns operation move →
    (s.step breaker completionOf move).states operation = s.states operation

/-- In every interleaving of calls, at every moment. -/
theorem run_one_probe (breaker : CircuitBreaker) (completionOf : ProviderOperation → γ → Completion)
    (clock : Seconds) (moves : List (CallMove ι γ)) :
    OneProbe breaker completionOf ((start ι clock).run breaker completionOf moves) := by
  have hstart : (start ι clock).ProbesMarked := by
    constructor
    · intro operation
      constructor
      · intro h
        cases h
      · rintro ⟨call, h⟩
        cases h
    · intro operation call call' h
      cases h
  have hprobes : ((start ι clock).run breaker completionOf moves).ProbesMarked :=
    Runs.run_invariant_of_all (fun _ move h => h.step move) hstart moves
  generalize (start ι clock).run breaker completionOf moves = s at hprobes
  refine ⟨hprobes, fun operation call result now hp call' hp' => ?_, fun operation now hnone hrecovered => ?_,
    fun operation move h => step_states_of_not_concerns h⟩
  · have hafter : (s.complete breaker completionOf call result now).calls = Function.update s.calls call none := by
      unfold complete
      rw [hp]
    unfold Probing at hp'
    rw [hafter] at hp'
    by_cases hc : call' = call
    · rw [hc, Function.update_self] at hp'
      cases hp'
    · rw [Function.update_of_ne hc] at hp'
      exact hc (hprobes.unique operation call' call hp' hp)
  · refine CircuitBreaker.dispatch_isSome ?_ hrecovered
    cases hflag : (s.states operation).probeInFlight with
    | false => rfl
    | true =>
      obtain ⟨call, hp⟩ := (hprobes.marked operation).mp hflag
      exact absurd hp (hnone call)

end Circuits
end InventoryReservation
