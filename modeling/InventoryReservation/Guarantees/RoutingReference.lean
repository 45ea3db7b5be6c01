import InventoryReservation.Meaning.Contacts
import InventoryReservation.System.Deployment

/-! # Routing against its reference

Routing a hold is the search for the first decision among the candidates of the selection: no provider
after the one that decides and none outside the selection is called, and of the offers only those of
called providers change. A visit decides by the replies, except where the offer of the candidate cannot
be written because a column is too small: the error of the database ends the search there.
-/

namespace InventoryReservation
set_option autoImplicit false

open Relational Transactional

section Verdicts
variable {environment : Environment} {command : HoldCommand} {database : Database}
  {candidate : InventoryProviderModel}

/-- A visit grants a hold of its own candidate. -/
theorem Database.verdict_ok_id {hold : ProviderHold}
    (h : database.verdict environment command candidate = some (.ok hold)) :
    hold.providerId = candidate.id := by
  unfold verdict at h
  cases hk : candidate.kind with
  | internal =>
    rw [hk] at h
    obtain ⟨-, he⟩ := Option.ite_none_right_eq_some.mp h
    cases he
    rfl
  | external =>
    rw [hk] at h
    dsimp only at h
    split_ifs at h
    · cases h
    · unfold HoldReply.verdict at h
      split at h <;> cases h
      rfl

/-- Where the columns are wide enough the replies decide. -/
theorem Database.decision_eq_verdict (hwide : database.Writable environment command candidate) :
    database.decision environment command candidate = database.verdict environment command candidate :=
  if_pos hwide

theorem Database.decision_ok_id {hold : ProviderHold}
    (h : database.decision environment command candidate = some (.ok hold)) :
    hold.providerId = candidate.id := by
  unfold decision at h
  split at h
  · exact verdict_ok_id h
  · cases h

/-- An internal candidate grants when its offer has the units. -/
theorem Database.verdict_internal (hk : candidate.kind = .internal) {offer : ProductOfferModel}
    (hf : database.offers.find? (command.productId, candidate.id) = some offer) :
    database.verdict environment command candidate =
      if command.quantity ≤ offer.onHand - offer.reserved then some (.ok ⟨candidate.id, none⟩) else none := by
  unfold verdict
  rw [hk, hf]
  dsimp only
  simp only [Option.mem_some_iff, exists_eq_left']

/-- The availability of the candidate is looked up, and the answer is fresh. -/
def InventoryProviderModel.IsObserved (environment : Environment) (command : HoldCommand)
    (candidate : InventoryProviderModel) : Prop :=
  candidate.kind = .external ∧ candidate.supportsAvailability = true ∧
    ∃ available observedAt, environment.availability candidate.id ⟨command.productId⟩ = .fresh available observedAt

theorem ProductOfferModel.visited_external (hk : candidate.kind = .external) (offer : ProductOfferModel) :
    (offer.visited environment command candidate).reserved = offer.reserved := by
  unfold visited
  rw [hk]
  dsimp only
  split <;> rfl

theorem Database.visit_external (hk : candidate.kind = .external) (offer : ProductOfferModel) :
    (database.visit environment command candidate offer).reserved = offer.reserved := by
  unfold visit
  split
  · exact ProductOfferModel.visited_external hk offer
  · rfl

/-- A visit rewrites stock and observation of an offer only after a fresh answer. -/
theorem Database.visit_of_not_observed (h : ¬ candidate.IsObserved environment command)
    (offer : ProductOfferModel) :
    (database.visit environment command candidate offer).onHand = offer.onHand ∧
      (database.visit environment command candidate offer).observedAt = offer.observedAt := by
  unfold visit ProductOfferModel.visited
  split
  · cases hk : candidate.kind with
    | internal =>
      dsimp only
      split <;> exact ⟨rfl, rfl⟩
    | external =>
      dsimp only
      split
      · next available observedAt hsupports hreply => exact absurd ⟨hk, hsupports, available, observedAt, hreply⟩ h
      · exact ⟨rfl, rfl⟩
  · exact ⟨rfl, rfl⟩

end Verdicts

/-- What routing came to with these calls, next to the reference over these candidates. -/
structure RoutesByReference (environment : Environment) (command : HoldCommand) (database : Database)
    (candidates : List InventoryProviderModel) (contacts : List Contact)
    (result : EStateM.Result Failure Session (Option ProviderHold)) : Prop where
  outcome : outcome result = database.searchOutcome environment command candidates
  contacted : contacts = (database.visited environment command candidates).flatMap
    (database.contacts environment command)
  once : contacts.Nodup
  within : ∀ contact ∈ contacts, ∃ candidate ∈ candidates, contact.providerId = candidate.id
  stops : ∀ before candidate after, candidates = before ++ candidate :: after →
    (database.decision environment command candidate).isSome →
    ∀ contact ∈ contacts, ∀ later ∈ after, contact.providerId ≠ later.id
  tables : (ended result).database = { database with offers := (ended result).database.offers }
  reserved : ∀ k offer, database.offers.find? k = some offer →
    ∃ offer', (ended result).database.offers.find? k = some offer' ∧
      offer'.reserved = offer.reserved + grantedAmount database command.productId command.quantity
        (Transactional.outcome result).toOption.join k
  observed : ∀ k offer offer', database.offers.find? k = some offer →
    (ended result).database.offers.find? k = some offer' →
    (offer'.onHand ≠ offer.onHand ∨ offer'.observedAt ≠ offer.observedAt) →
    ∃ candidate ∈ candidates, k = (command.productId, candidate.id) ∧
      candidate.IsObserved environment command ∧ .availability candidate.id ∈ contacts

section Runs
variable {environment : Environment} {command : HoldCommand} {database : Database}
  {candidates : List InventoryProviderModel} {providerId : Uuid} {s : Session}
  {result : EStateM.Result Failure (Session × List Contact) (Option ProviderHold)}

/-- The candidates of a selection are stored under their ids. -/
theorem Database.Candidates.stored {productId : Uuid}
    (h : database.Candidates environment productId providerId candidates) {candidate : InventoryProviderModel}
    (hc : candidate ∈ candidates) : database.providers.find? candidate.id = some candidate :=
  Table.find?_of_mem ((h.mem candidate).mp hc).1

/-- The search grants units where it came to an internal candidate that grants. -/
theorem grantedAmount_of_granting
    (hcandidates : database.Candidates environment command.productId providerId candidates)
    {candidate : InventoryProviderModel} (hc : candidate ∈ database.visited environment command candidates)
    (hk : candidate.kind = .internal) {hold : ProviderHold}
    (hdecision : database.decision environment command candidate = some (.ok hold)) :
    grantedAmount database command.productId command.quantity
      (database.searchOutcome environment command candidates).toOption.join =
        unitsAt (command.productId, candidate.id) command.quantity := by
  have hstored := hcandidates.stored ((searched_front candidates).subset hc)
  unfold Database.searchOutcome
  rw [findSome?_of_mem_searched hc hdecision]
  simp only [Except.toOption, Option.join_some, grantedAmount, Database.decision_ok_id hdecision, hstored, hk,
    if_true]

/-- And nowhere else. -/
theorem grantedAmount_of_none
    (hcandidates : database.Candidates environment command.productId providerId candidates) {k : Uuid × Uuid}
    (hnone : ∀ candidate ∈ database.visited environment command candidates,
      k = (command.productId, candidate.id) → candidate.kind = .internal →
        ∀ hold, database.decision environment command candidate ≠ some (.ok hold)) :
    grantedAmount database command.productId command.quantity
      (database.searchOutcome environment command candidates).toOption.join k = 0 := by
  unfold Database.searchOutcome
  cases hfound : candidates.findSome? (database.decision environment command) with
  | none => rfl
  | some decided =>
    cases decided with
    | error failure => rfl
    | ok hold =>
      obtain ⟨before, candidate, hdecision, -, hsearched⟩ := searched_eq_of_some hfound
      have hc : candidate ∈ database.visited environment command candidates := by
        unfold Database.visited
        rw [hsearched]
        exact List.mem_append_right _ List.mem_cons_self
      have hstored := hcandidates.stored ((searched_front candidates).subset hc)
      simp only [Except.toOption, Option.join_some, grantedAmount, Database.decision_ok_id hdecision, hstored]
      by_cases hk : candidate.kind = .internal
      · rw [if_pos hk]
        exact if_neg fun hkk => hnone candidate hc hkk hk hold hdecision
      · rw [if_neg hk]
        rfl

/-- What a visit adds to the reserved units of its offer is what the search grants there. -/
theorem visit_reserved (hcandidates : database.Candidates environment command.productId providerId candidates)
    {candidate : InventoryProviderModel} (hc : candidate ∈ database.visited environment command candidates)
    {offer : ProductOfferModel} (hf : database.offers.find? (command.productId, candidate.id) = some offer) :
    (database.visit environment command candidate offer).reserved = offer.reserved +
      grantedAmount database command.productId command.quantity
        (database.searchOutcome environment command candidates).toOption.join
        (command.productId, candidate.id) := by
  have hself : ∀ other ∈ database.visited environment command candidates,
      (command.productId, candidate.id) = (command.productId, other.id) → other = candidate := by
    intro other ho hid
    have hstored := hcandidates.stored ((searched_front candidates).subset ho)
    have hstored' := hcandidates.stored ((searched_front candidates).subset hc)
    have hids : candidate.id = other.id := congrArg Prod.snd hid
    rw [← hids, hstored'] at hstored
    exact (Option.some.inj hstored).symm
  -- Where the candidate does not grant a hold, the search grants no units at its offer.
  have hungranted : (∀ hold, database.decision environment command candidate ≠ some (.ok hold)) →
      grantedAmount database command.productId command.quantity
        (database.searchOutcome environment command candidates).toOption.join
        (command.productId, candidate.id) = 0 := by
    intro hnone
    refine grantedAmount_of_none hcandidates fun other ho hid _ hold hgrants => ?_
    rw [hself other ho hid] at hgrants
    exact hnone hold hgrants
  cases hk : candidate.kind with
  | internal =>
    have hverdict : database.verdict environment command candidate = _ := Database.verdict_internal hk hf
    by_cases hwide : database.Writable environment command candidate
    · have hdecision := Database.decision_eq_verdict hwide
      have hvisit : database.visit environment command candidate offer = _ := if_pos hwide
      rw [hverdict] at hdecision
      rw [hvisit, internal_visited hk]
      by_cases hstock : command.quantity ≤ offer.onHand - offer.reserved
      · rw [if_pos hstock] at hdecision ⊢
        rw [grantedAmount_of_granting hcandidates hc hk hdecision]
        exact congrArg (offer.reserved + ·) (if_pos rfl).symm
      · rw [if_neg hstock] at hdecision ⊢
        rw [hungranted (by rw [hdecision]; exact nofun), add_zero]
    · have hdecision : database.decision environment command candidate = _ := if_neg hwide
      have hvisit : database.visit environment command candidate offer = _ := if_neg hwide
      rw [hvisit, hungranted (by rw [hdecision]; exact nofun), add_zero]
  | external =>
    rw [Database.visit_external hk, grantedAmount_of_none hcandidates, add_zero]
    intro other ho hid hinternal
    rw [hself other ho hid, hk] at hinternal
    cases hinternal

/-- The offers after a search, with the candidate it came to or without one. -/
theorem SearchEnds.offer_cases (h : SearchEnds environment command database candidates s [] result)
    (hs : s.database = database) {k : Uuid × Uuid} {offer : ProductOfferModel}
    (hf : database.offers.find? k = some offer) :
    (∃ candidate ∈ database.visited environment command candidates, k = (command.productId, candidate.id) ∧
      (ended result).1.database.offers.find? k =
        some (database.visit environment command candidate offer)) ∨
    ((∀ candidate ∈ database.visited environment command candidates, k ≠ (command.productId, candidate.id)) ∧
      (ended result).1.database.offers.find? k = some offer) := by
  have hoffers := h.offers k
  rw [hs, hf, Option.map_some] at hoffers
  cases hfound : (database.visited environment command candidates).find? fun candidate =>
      decide (k = (command.productId, candidate.id)) with
  | some candidate =>
    rw [hfound] at hoffers
    have hkey := List.find?_some hfound
    exact Or.inl ⟨candidate, List.mem_of_find?_eq_some hfound, of_decide_eq_true hkey, hoffers⟩
  | none =>
    rw [hfound] at hoffers
    rw [List.find?_eq_none] at hfound
    exact Or.inr ⟨fun candidate hc hkey => hfound candidate hc (decide_eq_true hkey), hoffers⟩

/-- A candidate that is observed is called for its availability. -/
theorem InventoryProviderModel.IsObserved.contacted {candidate : InventoryProviderModel}
    (h : candidate.IsObserved environment command) :
    Contact.availability candidate.id ∈ database.contacts environment command candidate := by
  unfold Database.contacts
  dsimp only
  rw [if_pos ⟨h.1, h.2.1⟩]
  split_ifs <;> simp

theorem SearchEnds.routesByReference
    (hcandidates : database.Candidates environment command.productId providerId candidates)
    (hs : s.database = database) (h : SearchEnds environment command database candidates s [] result) :
    RoutesByReference environment command database candidates (ended result).2 (unlogged result) := by
  have hfront : database.visited environment command candidates <+: candidates := searched_front candidates
  have hcontacted := h.contacted
  rw [List.nil_append] at hcontacted
  have hof : ∀ contact ∈ (ended result).2, ∃ candidate ∈ database.visited environment command candidates,
      contact.providerId = candidate.id := by
    intro contact hmem
    rw [hcontacted] at hmem
    obtain ⟨candidate, hc, hcontact⟩ := List.mem_flatMap.mp hmem
    exact ⟨candidate, hc, Database.contacts_providerId hcontact⟩
  constructor
  · rw [outcome_unlogged]
    exact h.outcome
  · exact hcontacted
  · rw [hcontacted, List.nodup_flatMap]
    refine ⟨fun candidate _ => Database.contacts_nodup, ?_⟩
    have hdistinct : (database.visited environment command candidates).Pairwise fun a b => a.id ≠ b.id :=
      (List.pairwise_map.mp hcandidates.distinct).sublist hfront.sublist
    refine hdistinct.imp fun {a b} hne contact ha hb => hne ?_
    exact (Database.contacts_providerId ha).symm.trans
      (Database.contacts_providerId hb)
  · intro contact hmem
    obtain ⟨candidate, hc, hid⟩ := hof contact hmem
    exact ⟨candidate, hfront.subset hc, hid⟩
  · rintro before candidate after rfl hdecides contact hmem later hlater he
    obtain ⟨decided, hdecision⟩ := Option.isSome_iff_exists.mp hdecides
    obtain ⟨other, ho, hid⟩ := hof contact hmem
    have hsame : other = later := by
      have hstored := hcandidates.stored (hfront.subset ho)
      rw [← hid, he, hcandidates.stored (List.mem_append_right _ (List.mem_cons_of_mem _ hlater))] at hstored
      exact (Option.some.inj hstored).symm
    refine not_mem_searched hdecision (hcandidates.distinct.of_map _) hlater ?_
    rw [← hsame]
    exact ho
  · rw [ended_unlogged, ← hs]
    exact h.tables
  · intro k offer hf
    rw [ended_unlogged, outcome_unlogged, h.outcome]
    rcases h.offer_cases hs hf with ⟨candidate, hc, rfl, hafter⟩ | ⟨hnone, hafter⟩
    · exact ⟨_, hafter, visit_reserved hcandidates hc hf⟩
    · refine ⟨offer, hafter, ?_⟩
      rw [grantedAmount_of_none hcandidates fun candidate hc hk => absurd hk (hnone candidate hc), add_zero]
  · intro k offer offer' hf hafter hchanged
    rw [ended_unlogged] at hafter
    rcases h.offer_cases hs hf with ⟨candidate, hc, rfl, hafter'⟩ | ⟨-, hafter'⟩
    · rw [hafter] at hafter'
      cases hafter'
      have hobserved : candidate.IsObserved environment command := by
        by_contra hnot
        obtain ⟨honHand, hobservedAt⟩ := Database.visit_of_not_observed hnot offer
        exact hchanged.elim (fun h => h honHand) fun h => h hobservedAt
      refine ⟨candidate, hfront.subset hc, rfl, hobserved, ?_⟩
      rw [hcontacted]
      exact List.mem_flatMap.mpr ⟨candidate, hc, hobserved.contacted⟩
    · rw [hafter] at hafter'
      cases hafter'
      exact hchanged.elim (fun h => absurd rfl h) fun h => absurd rfl h

end Runs

/-- For every offers and provider table, selection, quantity and replies. -/
theorem try_hold_selected_refines (environment : Environment) (s : Session) (hchecked : s.database.Checked)
    (command : HoldCommand) (hquantity : 0 < command.quantity) (providerId : Uuid) :
    ∃ candidates logged,
      s.database.Candidates environment command.productId providerId candidates ∧
      tryHoldSelectedLogged environment command.productId providerId command.quantity command.idempotencyKey
        (s, []) = logged ∧
      unlogged logged = tryHoldSelected environment command.productId providerId command.quantity
        command.idempotencyKey s ∧
      RoutesByReference environment command s.database candidates (ended logged).2
        (tryHoldSelected environment command.productId providerId command.quantity command.idempotencyKey s) := by
  have hcandidates := s.database.candidates_adaptable environment command.productId providerId
  have herases := erases_tryHoldSelected environment command.productId providerId command.quantity
    command.idempotencyKey s []
  have hsearches := tryHoldSelected_searches [] hquantity hchecked hcandidates
  refine ⟨_, _, hcandidates, rfl, herases, ?_⟩
  rw [← herases]
  exact hsearches.routesByReference hcandidates rfl

open Deployment in
/-- A hold of one unit at the external provider of the small deployment. -/
theorem supplied_routing_refines : ∃ candidates logged,
    database.Candidates (environment 0 100 0) 2 20 candidates ∧
    tryHoldSelectedLogged (environment 0 100 0) 2 20 1 (.hold 100 2 20) (.start database, []) = logged ∧
    unlogged logged = tryHoldSelected (environment 0 100 0) 2 20 1 (.hold 100 2 20) (.start database) ∧
    RoutesByReference (environment 0 100 0) ⟨2, 1, .hold 100 2 20⟩ database candidates (ended logged).2
      (tryHoldSelected (environment 0 100 0) 2 20 1 (.hold 100 2 20) (.start database)) :=
  try_hold_selected_refines (environment 0 100 0) (.start database) (by decide +kernel)
    ⟨2, 1, .hold 100 2 20⟩ (by decide +kernel) 20

open Deployment in
/-- The only candidate answers one unit more than the column holds and would grant the hold; routing fails
before it asks. -/
theorem oversized_reply_raises :
    let oversized := { environment 0 100 0 with availability := fun _ _ => .fresh 2147483648 0 }
    database.Candidates oversized 2 20 [Deployment.externalProvider] ∧
      database.verdict oversized ⟨2, 1, .hold 100 2 20⟩ Deployment.externalProvider =
        some (.ok ⟨20, some "hold"⟩) ∧
      outcome (tryHoldSelected oversized 2 20 1 (.hold 100 2 20) (.start database)) =
        .error (.dataError "product_offers") := by
  refine ⟨?_, by decide +kernel, by decide +kernel⟩
  exact database.candidates_adaptable _ 2 20

end InventoryReservation
