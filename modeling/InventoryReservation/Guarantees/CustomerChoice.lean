import InventoryReservation.Meaning.Contacts
import InventoryReservation.System.Deployment

/-! # The customer's choice

Within a routing group the candidates are tried in the order of their offers, whichever of them the
customer selected. The selection is honoured just when the selected provider does not serve the product,
or its offer comes first in its group and can be written for a hold that its provider grants.
-/

namespace InventoryReservation
set_option autoImplicit false

open Relational Transactional

/-- An enabled, hold-capable, adaptable provider with an offer for the product. -/
def Database.Serves (database : Database) (environment : Environment) (productId : Uuid)
    (provider : InventoryProviderModel) : Prop :=
  provider ∈ database.providers ∧ provider.isEnabled = true ∧ provider.supportsHold = true ∧
    provider.Adaptable environment ∧ (database.offers.find? (productId, provider.id)).isSome

/-- No provider that serves the product has an offer in the group that comes before the selected one, by
priority and then by id. -/
def Database.Leads (database : Database) (environment : Environment) (productId : Uuid)
    (selected : InventoryProviderModel) : Prop :=
  ∀ other ∈ database.providers.rows, database.Serves environment productId other →
    ∀ offer ∈ database.offers.find? (productId, selected.id),
      ∀ offer' ∈ database.offers.find? (productId, other.id), offer.Admits offer' → offer.precedes offer'

/-- The stock of the candidate, or its replies, grant the hold. -/
def Database.Grants (database : Database) (environment : Environment) (command : HoldCommand)
    (candidate : InventoryProviderModel) : Prop :=
  ∃ hold, database.verdict environment command candidate = some (.ok hold)

instance (database : Database) (environment : Environment) (command : HoldCommand)
    (candidate : InventoryProviderModel) : Decidable (database.Grants environment command candidate) :=
  match h : database.verdict environment command candidate with
  | some (.ok hold) => isTrue ⟨hold, h⟩
  | some (.error _) => isFalse fun ⟨_, he⟩ => by cases h.symm.trans he
  | none => isFalse fun ⟨_, he⟩ => by cases h.symm.trans he

instance (database : Database) (environment : Environment) (productId : Uuid)
    (provider : InventoryProviderModel) : Decidable (database.Serves environment productId provider) :=
  inferInstanceAs (Decidable (provider ∈ database.providers.rows ∧ _))

instance (database : Database) (environment : Environment) (productId : Uuid)
    (selected : InventoryProviderModel) : Decidable (database.Leads environment productId selected) :=
  inferInstanceAs (Decidable (∀ other ∈ database.providers.rows, _))

/-- Where the selected provider serves the product: a hold it grants is the outcome, with no call to
another provider; and another provider is called only after it has conclusively not held. -/
structure HonoursSelection (environment : Environment) (command : HoldCommand) (providerId : Uuid)
    (database : Database) (contacts : List Contact)
    (result : EStateM.Result Failure Session (Option ProviderHold)) : Prop where
  granted : ∀ selected, database.Serves environment command.productId selected → selected.id = providerId →
    ∀ hold, database.verdict environment command selected = some (.ok hold) →
      outcome result = .ok (some hold) ∧ ∀ contact ∈ contacts, contact.providerId = providerId
  fallback : ∀ selected, database.Serves environment command.productId selected → selected.id = providerId →
    ∀ before contact after, contacts = before ++ contact :: after → contact.providerId ≠ providerId →
      database.verdict environment command selected = none ∧
        database.contacts environment command selected <+: before

section Selection
variable {environment : Environment} {command : HoldCommand} {database : Database}
  {candidates : List InventoryProviderModel} {selected : InventoryProviderModel} {s : Session}
  {result : EStateM.Result Failure (Session × List Contact) (Option ProviderHold)}

/-- An offer admits itself. -/
theorem ProductOfferModel.admits_self (offer : ProductOfferModel) : offer.Admits offer := by
  unfold Admits
  cases offer.routingGroup <;> rfl

/-- The selected provider is a candidate when it serves the product. -/
theorem Database.Candidates.mem_selected
    (h : database.Candidates environment command.productId selected.id candidates) :
    selected ∈ candidates ↔ database.Serves environment command.productId selected := by
  rw [h.mem]
  unfold Database.Serves
  constructor
  · rintro ⟨hmem, henabled, hsupports, hadaptable, -, -, offer, ho, -⟩
    exact ⟨hmem, henabled, hsupports, hadaptable, Option.isSome_of_mem ho⟩
  · rintro ⟨hmem, henabled, hsupports, hadaptable, hoffer⟩
    obtain ⟨offer, ho⟩ := Option.isSome_iff_exists.mp hoffer
    exact ⟨hmem, henabled, hsupports, hadaptable, offer, ho, offer, ho, offer.admits_self⟩

/-- It is the first candidate when its offer comes first. -/
theorem Database.Candidates.head_iff
    (h : database.Candidates environment command.productId selected.id candidates)
    (hserves : database.Serves environment command.productId selected) :
    candidates.head? = some selected ↔ database.Leads environment command.productId selected := by
  have hmem := h.mem_selected.mpr hserves
  obtain ⟨offer, ho⟩ := Option.isSome_iff_exists.mp hserves.2.2.2.2
  cases candidates with
  | nil => cases hmem
  | cons first rest =>
    rw [List.head?_cons, Option.some.injEq]
    obtain ⟨hfirst, -⟩ := List.pairwise_cons.mp h.ordered
    constructor
    · rintro rfl other hother hserves' offer₁ ho₁ offer' ho' hadmits
      obtain ⟨-, henabled, hsupports, hadaptable, -⟩ := hserves'
      have hcandidate : other ∈ first :: rest :=
        (h.mem other).mpr ⟨hother, henabled, hsupports, hadaptable, offer₁, ho₁, offer', ho', hadmits⟩
      rcases List.mem_cons.mp hcandidate with rfl | hrest
      · cases Option.some.inj (ho₁.symm.trans ho')
        exact Or.inr ⟨rfl, le_refl _⟩
      · exact hfirst other hrest offer₁ ho₁ offer' ho'
    · intro hleads
      by_contra hne
      have hrest : selected ∈ rest := (List.mem_cons.mp hmem).resolve_left fun he => hne he.symm
      obtain ⟨hstored, henabled, hsupports, hadaptable, offer₁, ho₁, offer', ho', hadmits⟩ :=
        (h.mem first).mp List.mem_cons_self
      have hserves' : database.Serves environment command.productId first :=
        ⟨hstored, henabled, hsupports, hadaptable, Option.isSome_of_mem ho'⟩
      have hbefore := hfirst selected hrest offer' ho' offer₁ ho₁
      have hafter := hleads first hstored hserves' offer₁ ho₁ offer' ho' hadmits
      have hid : offer'.providerId = first.id := congrArg Prod.snd (Table.key_of_find? ho')
      have hid₁ : offer₁.providerId = selected.id := congrArg Prod.snd (Table.key_of_find? ho₁)
      have hint : offer'.providerId.int = offer₁.providerId.int := by
        unfold ProductOfferModel.precedes at hbefore hafter
        omega
      rw [hid, hid₁] at hint
      exact hne (Table.eq_of_key_eq hstored hserves.1 (congrArg Uuid.mk hint))

/-- A search that starts at the selected provider honours the selection, if what it writes fits the columns. -/
theorem SearchEnds.honours {rest : List InventoryProviderModel}
    (h : SearchEnds environment command database (selected :: rest) s [] result)
    (hserves : database.Serves environment command.productId selected)
    (hwide : database.Grants environment command selected → database.Writable environment command selected) :
    HonoursSelection environment command selected.id database (ended result).2 (unlogged result) := by
  have hown : ∀ contact ∈ database.contacts environment command selected, contact.providerId = selected.id :=
    fun _ => Database.contacts_providerId
  have hsame : ∀ other, database.Serves environment command.productId other → other.id = selected.id →
      other = selected := fun other ho => Table.eq_of_key_eq ho.1 hserves.1
  have hcontacted := h.contacted
  have houtcome := h.outcome
  unfold Database.visited at hcontacted
  unfold Database.searchOutcome at houtcome
  rw [List.findSome?_cons] at houtcome
  constructor
  · intro other hother hid hold hverdict
    rw [hsame other hother hid] at hverdict
    have hdecision : database.decision environment command selected = some (.ok hold) :=
      (if_pos (hwide ⟨hold, hverdict⟩)).trans hverdict
    rw [hdecision] at houtcome
    rw [searched_of_some hdecision, List.flatMap_singleton, List.nil_append] at hcontacted
    refine ⟨by rw [outcome_unlogged]; exact houtcome, ?_⟩
    rw [hcontacted]
    exact hown
  · intro other hother hid before contact after hsplit hcontact
    rw [hsame other hother hid]
    cases hdecision : database.decision environment command selected with
    | some decided =>
      rw [searched_of_some hdecision, List.flatMap_singleton, List.nil_append] at hcontacted
      refine absurd (hown contact ?_) hcontact
      rw [← hcontacted, hsplit]
      exact List.mem_append_right _ List.mem_cons_self
    | none =>
      refine ⟨Database.verdict_of_decision_none hdecision, ?_⟩
      rw [searched_of_none hdecision, List.flatMap_cons, List.nil_append, hsplit] at hcontacted
      -- The contact of another provider lies past the calls to the selected one.
      rcases List.append_eq_append_iff.mp hcontacted with ⟨middle, hleft, hright⟩ | ⟨middle, hleft, -⟩
      · cases middle with
        | nil => exact ⟨[], (List.append_nil _).trans (hleft.trans (List.append_nil before))⟩
        | cons first middle =>
          obtain ⟨rfl, -⟩ := List.cons.inj hright
          refine absurd (hown contact ?_) hcontact
          rw [hleft]
          exact List.mem_append_right _ List.mem_cons_self
      · exact ⟨middle, hleft.symm⟩

/-- The first call of a search goes to its first candidate. -/
theorem SearchEnds.first_contact {first : InventoryProviderModel} {rest : List InventoryProviderModel}
    (h : SearchEnds environment command database (first :: rest) s [] result) :
    ∃ contact after, (ended result).2 = contact :: after ∧ contact.providerId = first.id := by
  have hvisited : ∃ later, database.visited environment command (first :: rest) = first :: later := by
    have hhead : (database.visited environment command (first :: rest)).head? = some first :=
      head?_searched (first :: rest)
    obtain ⟨later, hlater⟩ := List.head?_eq_some_iff.mp hhead
    exact ⟨later, hlater⟩
  obtain ⟨later, hlater⟩ := hvisited
  obtain ⟨contact, calls, hcalls⟩ : ∃ contact calls,
      database.contacts environment command first = contact :: calls :=
    List.exists_cons_of_ne_nil Database.contacts_ne_nil
  refine ⟨contact, calls ++ later.flatMap (database.contacts environment command), ?_, ?_⟩
  · rw [h.contacted, hlater, List.flatMap_cons, hcalls, List.nil_append, List.cons_append]
  · refine Database.contacts_providerId (?_ : contact ∈ database.contacts environment command first)
    rw [hcalls]
    exact List.mem_cons_self

/-- A search that starts at a candidate whose columns are too small raises there. -/
theorem SearchEnds.overflows {rest : List InventoryProviderModel}
    (h : SearchEnds environment command database (selected :: rest) s [] result)
    (hwide : ¬ database.Writable environment command selected) :
    Transactional.outcome (unlogged result) = .error (.dataError "product_offers") := by
  have hdecision : database.decision environment command selected = some (.error (.dataError "product_offers")) :=
    if_neg hwide
  rw [outcome_unlogged, h.outcome]
  unfold Database.searchOutcome
  rw [List.findSome?_cons, hdecision]

end Selection

/-- For every offers and provider table, quantity and replies, in every session. -/
theorem selection_honoured_iff (environment : Environment) (s : Session) (hchecked : s.database.Checked)
    (command : HoldCommand) (hquantity : 0 < command.quantity) (providerId : Uuid) :
    HonoursSelection environment command providerId s.database
        (ended (tryHoldSelectedLogged environment command.productId providerId command.quantity
          command.idempotencyKey (s, []))).2
        (tryHoldSelected environment command.productId providerId command.quantity command.idempotencyKey s) ↔
      ∀ selected ∈ s.database.providers.find? providerId,
        s.database.Serves environment command.productId selected →
          s.database.Leads environment command.productId selected ∧
            (s.database.Grants environment command selected → s.database.Writable environment command selected) := by
  have herases := erases_tryHoldSelected environment command.productId providerId command.quantity
    command.idempotencyKey s []
  have hcandidates := s.database.candidates_adaptable environment command.productId providerId
  have hsearches := tryHoldSelected_searches [] hquantity hchecked hcandidates
  rw [← herases]
  revert hcandidates hsearches
  generalize List.filter _ _ = candidates
  generalize tryHoldSelectedLogged environment command.productId providerId command.quantity
    command.idempotencyKey (s, []) = result
  intro hcandidates hsearches
  constructor
  · intro hhonours selected hselected hserves
    have hid : selected.id = providerId := Table.key_of_find? hselected
    subst hid
    have hhead : candidates.head? = some selected := by
      have hmem := hcandidates.mem_selected.mpr hserves
      cases candidates with
      | nil => cases hmem
      | cons first rest =>
        rw [List.head?_cons, Option.some.injEq]
        by_contra hne
        -- The first call goes to another provider, before any call to the selected one.
        obtain ⟨contact, after, hcontacted, hcontact⟩ := hsearches.first_contact
        have hother : contact.providerId ≠ selected.id := fun he =>
          hne (Table.eq_of_key_eq ((hcandidates.mem first).mp List.mem_cons_self).1 hserves.1
            (hcontact.symm.trans he))
        obtain ⟨-, hfront⟩ := hhonours.fallback selected hserves rfl [] contact after hcontacted hother
        exact Database.contacts_ne_nil (List.prefix_nil.mp hfront)
    refine ⟨(hcandidates.head_iff hserves).mp hhead, ?_⟩
    rintro ⟨hold, hverdict⟩
    by_contra hwide
    obtain ⟨rest, rfl⟩ := List.head?_eq_some_iff.mp hhead
    obtain ⟨hgranted, -⟩ := hhonours.granted selected hserves rfl hold hverdict
    cases (hsearches.overflows hwide).symm.trans hgranted
  · intro hholds
    by_cases hserved : ∃ selected, s.database.Serves environment command.productId selected ∧
        selected.id = providerId
    · obtain ⟨selected, hserves, rfl⟩ := hserved
      obtain ⟨hleads, hwide⟩ := hholds selected (Table.find?_of_mem hserves.1) hserves
      obtain ⟨rest, rfl⟩ := List.head?_eq_some_iff.mp ((hcandidates.head_iff hserves).mpr hleads)
      exact hsearches.honours hserves hwide
    · exact ⟨fun selected hserves hid => absurd ⟨selected, hserves, hid⟩ hserved,
        fun selected hserves hid => absurd ⟨selected, hserves, hid⟩ hserved⟩

namespace Deployment

/-- The offers of one product at both providers, in one routing group. -/
def groupedDatabase : Database :=
  { database with
    offers := ⟨[{ stocked 1 10 with allocationPriority := 1, routingGroup := some 7 },
      { stocked 1 20 with allocationPriority := 2, routingGroup := some 7 }], by decide⟩ }

end Deployment

open Deployment in
/-- The provider with the better priority is selected, and honoured. -/
theorem leading_selection_honoured :
    HonoursSelection (environment 0 100 0) ⟨1, 1, .hold 100 1 10⟩ 10 groupedDatabase
      (ended (tryHoldSelectedLogged (environment 0 100 0) 1 10 1 (.hold 100 1 10)
        (.start groupedDatabase, []))).2
      (tryHoldSelected (environment 0 100 0) 1 10 1 (.hold 100 1 10) (.start groupedDatabase)) :=
  (selection_honoured_iff (environment 0 100 0) (.start groupedDatabase) (by decide +kernel)
    ⟨1, 1, .hold 100 1 10⟩ (by decide +kernel) 10).mpr (by decide +kernel)

open Deployment in
/-- The other provider of the group is selected and would grant the hold; it is not even called. -/
theorem selection_overridden :
    ¬ ∀ (environment : Environment) (s : Session), s.database.Checked → ∀ command : HoldCommand,
      0 < command.quantity → ∀ providerId, HonoursSelection environment command providerId s.database
        (ended (tryHoldSelectedLogged environment command.productId providerId command.quantity
          command.idempotencyKey (s, []))).2
        (tryHoldSelected environment command.productId providerId command.quantity
          command.idempotencyKey s) := by
  intro hall
  have hhonours := hall (environment 0 100 0) (.start groupedDatabase) (by decide +kernel)
    ⟨1, 1, .hold 100 1 20⟩ (by decide +kernel) 20
  have hgranted := hhonours.granted Deployment.externalProvider (by decide +kernel) rfl ⟨20, some "hold"⟩
    (by decide +kernel)
  revert hgranted
  decide +kernel

end InventoryReservation
