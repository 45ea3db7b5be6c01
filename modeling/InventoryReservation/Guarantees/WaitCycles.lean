import InventoryReservation.Concurrency.Checkouts
import InventoryReservation.System.Deployment
import Mathlib.Data.Prod.Lex

/-! # When creates cannot wait for each other

The hold loop takes the locks of offers in the order in which the request lists its items, so two
requests that list two products the other way round can come to wait for each other. Where all
requests list their items in one order of the products they cannot: within a product the candidates come
in one order too, and then every create waits above the offers it has locked.
-/

namespace InventoryReservation
set_option autoImplicit false

open Relational RowLocking

namespace Checkout

/-- The offers of the hold updates still to come, in order. -/
def ahead : Checkout → List OfferKey
  | holding items _ => items.flatMap OpenItem.candidates
  | releasing _ => []
  | finished => []

def held : Checkout → HeldUnits
  | holding _ held => held
  | releasing held => held
  | finished => []

theorem Wants.ahead_or_held {call : Checkout} {k : OfferKey} (h : call.Wants k) :
    k ∈ call.ahead ∨ ∃ entry ∈ call.held, entry.1 = k := by
  cases call with
  | holding items held =>
    cases items with
    | nil => exact h.elim
    | cons openItem items =>
      obtain ⟨item, candidates⟩ := openItem
      cases candidates with
      | nil => exact h.elim
      | cons candidate candidates =>
        left
        have hk : k = candidate := h
        rw [hk, Checkout.ahead, List.flatMap_cons]
        exact List.mem_append_left _ List.mem_cons_self
  | releasing held => exact Or.inr h
  | finished => exact h.elim

end Checkout

/-! ## The invariant -/

namespace Checkouts
variable {τ α : Type} [LT α]

/-- A create has the offers of its units locked, and its locks are below the holds still to come. -/
structure Climbs (rank : OfferKey → α) (offers : Store OfferKey τ ProductOfferModel) (t : τ)
    (call : Checkout) : Prop where
  ahead : call.ahead.Pairwise fun k k' => rank k < rank k'
  below : ∀ k, (offers k).owner = some t → ∀ k' ∈ call.ahead, rank k < rank k'
  owned : ∀ entry ∈ call.held, (offers entry.1).owner = some t

variable {rank : OfferKey → α} {offers offers' : Store OfferKey τ ProductOfferModel} {s : Checkouts τ} {t u : τ}
  {call call' : Checkout}

/-- A create whose own locks are as before. -/
theorem Climbs.of_owners (h : Climbs rank offers t call)
    (howners : ∀ k, (offers' k).owner = some t ↔ (offers k).owner = some t) : Climbs rank offers' t call where
  ahead := h.ahead
  below k hk := h.below k ((howners k).mp hk)
  owned entry he := (howners entry.1).mpr (h.owned entry he)

/-- A create that goes on with some of the holds still to come and some of its units. -/
theorem Climbs.of_sublist (h : Climbs rank offers t call) (hahead : call'.ahead.Sublist call.ahead)
    (hheld : ∀ entry ∈ call'.held, entry ∈ call.held) : Climbs rank offers t call' where
  ahead := h.ahead.sublist hahead
  below k hk k' hk' := h.below k hk k' (hahead.subset hk')
  owned entry he := h.owned entry (hheld entry he)

/-- A create that locked one more offer, below all that is still to come. -/
theorem Climbs.of_lock {k : OfferKey} (h : Climbs rank offers t call)
    (howners : ∀ k', (offers' k').owner = some t ↔ (offers k').owner = some t ∨ k' = k)
    (hahead : call'.ahead.Sublist call.ahead) (hbelow : ∀ k' ∈ call'.ahead, rank k < rank k')
    (hheld : ∀ entry ∈ call'.held, entry ∈ call.held ∨ entry.1 = k) : Climbs rank offers' t call' where
  ahead := h.ahead.sublist hahead
  below k' hk' := by
    rcases (howners k').mp hk' with hk' | rfl
    · exact fun k'' hk'' => h.below k' hk' k'' (hahead.subset hk'')
    · exact hbelow
  owned entry he := by
    apply (howners entry.1).mpr
    exact (hheld entry he).imp (h.owned entry) id

/-- While every create waits above the offers it has locked, none wait in a circle. -/
theorem no_wait_cycle_of_climbs {β : Type} [Preorder β] {rank : OfferKey → β} {s : Checkouts τ}
    (h : ∀ u, Climbs rank s.offers u (s.calls u)) : ¬ s.WaitCycle := by
  apply Store.no_wait_cycle rank
  intro t k k' howner hwants hlocked
  rcases hwants.ahead_or_held with hahead | ⟨entry, he, rfl⟩
  · exact (h t).below k howner k' hahead
  · obtain ⟨u, hu, hne⟩ := hlocked
    have howned := (h t).owned entry he
    exact absurd (Option.some.inj (hu.symm.trans howned)) hne

/-! ## What a move preserves -/

section Moves
variable [DecidableEq τ]

/-- A create that ends. -/
theorem Climbs.of_end (h : Climbs rank offers u call)
    (howners : ∀ k u, (offers' k).owner = some u ↔ (offers k).owner = some u ∧ u ≠ t) {calls : τ → Checkout}
    (hcall : calls u = call) : Climbs rank offers' u (Function.update calls t .finished u) := by
  by_cases hu : u = t
  · subst hu
    rw [Function.update_self]
    refine ⟨List.Pairwise.nil, fun _ _ _ hk => absurd hk List.not_mem_nil, fun _ he => ?_⟩
    exact absurd he List.not_mem_nil
  · rw [Function.update_of_ne hu, hcall]
    refine h.of_owners fun k => ?_
    rw [howners]
    exact and_iff_left hu

/-- An update of an offer, where its create goes on as described. -/
theorem climbs_update (h : ∀ u, Climbs rank s.offers u (s.calls u)) {k : OfferKey} {write : OfferWrite}
    {updated passed : Checkout} (hupdated : updated.ahead.Sublist (s.calls t).ahead)
    (hbelow : ∀ k' ∈ updated.ahead, rank k < rank k')
    (hheld : ∀ entry ∈ updated.held, entry ∈ (s.calls t).held ∨ entry.1 = k)
    (hpassed : passed.ahead.Sublist (s.calls t).ahead)
    (hkept : ∀ entry ∈ passed.held, entry ∈ (s.calls t).held) (u : τ) :
    Climbs rank (s.update t k write updated passed).offers u
      ((s.update t k write updated passed).calls u) := by
  unfold Checkouts.update
  split
  · exact h u
  · next hfree =>
    have howners : ∀ k' u, (s.offers.execute OfferWrite.effect t k write k').owner = some u ↔
        (s.offers k').owner = some u ∨ (u = t ∧ k' = k ∧ (write.effect k (s.offers k).latest).isSome) :=
      fun _ _ => Store.owner_execute_iff hfree
    dsimp only
    by_cases hu : u = t
    · subst hu
      rw [Function.update_self]
      split
      · next hsome =>
        refine (h u).of_lock (fun k' => ?_) hupdated hbelow hheld
        rw [howners]
        simp [hsome]
      · next hnone =>
        refine ((h u).of_sublist hpassed hkept).of_owners fun k' => ?_
        rw [howners]
        simp [hnone]
    · rw [Function.update_of_ne hu]
      refine (h u).of_owners fun k' => ?_
      rw [howners]
      simp [hu]

theorem climbs_hold (h : ∀ u, Climbs rank s.offers u (s.calls u)) (t u : τ) :
    Climbs rank (s.hold t).offers u ((s.hold t).calls u) := by
  unfold hold
  split
  · next held hcall =>
    dsimp only
    by_cases hu : u = t
    · subst hu
      rw [Function.update_self]
      have hsame := h u
      rw [hcall] at hsame
      exact hsame.of_sublist (List.nil_sublist _) fun entry he => he
    · rw [Function.update_of_ne hu]
      exact h u
  · next item k candidates items held hcall =>
    have hahead : (s.calls t).ahead = k :: (candidates ++ items.flatMap OpenItem.candidates) := by
      rw [hcall, Checkout.ahead, List.flatMap_cons, List.cons_append]
    have hclimbs := (h t).ahead
    rw [hahead] at hclimbs
    apply climbs_update h
    · rw [hahead]
      exact (List.sublist_append_right _ _).cons _
    · intro k' hk'
      exact List.rel_of_pairwise_cons hclimbs (List.mem_append_right _ hk')
    · intro entry he
      rw [hcall]
      rcases List.mem_cons.mp he with rfl | he
      · exact Or.inr rfl
      · exact Or.inl he
    · rw [hahead]
      exact List.sublist_cons_self _ _
    · intro entry he
      rw [hcall]
      exact he
  · exact h u

theorem climbs_release (h : ∀ u, Climbs rank s.offers u (s.calls u)) (t : τ) (k : OfferKey) (u : τ) :
    Climbs rank (s.release t k).offers u ((s.release t k).calls u) := by
  unfold release
  split
  · next held hcall =>
    split
    · next entry hfind =>
      apply climbs_update h
      · exact List.nil_sublist _
      · intro k' hk'
        exact absurd hk' List.not_mem_nil
      · intro entry' he
        rw [hcall]
        exact Or.inl (List.mem_of_mem_erase he)
      · exact List.nil_sublist _
      · intro entry' he
        exact absurd he List.not_mem_nil
    · exact h u
  · exact h u

theorem climbs_step (h : ∀ u, Climbs rank s.offers u (s.calls u)) (move : CheckoutMove τ) (u : τ) :
    Climbs rank (s.step move).offers u ((s.step move).calls u) := by
  cases move with
  | hold t => exact climbs_hold h t u
  | release t k => exact climbs_release h t k u
  | commit t =>
    unfold step commit
    dsimp only
    split
    · exact (h u).of_end (fun _ _ => Store.owner_commit_iff) rfl
    · exact h u
  | abort t => exact (h u).of_end (fun _ _ => Store.owner_abort_iff) rfl

end Moves

end Checkouts

/-! ## The order of the candidates -/

section Order
variable {α : Type} [LinearOrder α]

/-- Offers by the rank of their product, then in the order of the candidate query. -/
def Database.offerRank (database : Database) (rank : Uuid → α) (k : OfferKey) : α ×ₗ ℤ ×ₗ Fin (2 ^ 128) :=
  toLex (rank k.1, toLex (((database.offers.find? k).map ProductOfferModel.allocationPriority).getD 0,
    k.2.int))

theorem Database.offerRank_lt_of_product {database : Database} {rank : Uuid → α} {k k' : OfferKey}
    (h : rank k.1 < rank k'.1) : database.offerRank rank k < database.offerRank rank k' :=
  Prod.Lex.toLex_lt_toLex.mpr (Or.inl h)

theorem Database.offerRank_lt_of_precedes {database : Database} (rank : Uuid → α) {a b : ProductOfferModel}
    (ha : a ∈ database.offers) (hb : b ∈ database.offers) (hproduct : a.productId = b.productId)
    (hprecedes : a.precedes b) (hne : a ≠ b) :
    database.offerRank rank a.identity < database.offerRank rank b.identity := by
  unfold offerRank
  rw [Table.find?_of_mem ha, Table.find?_of_mem hb]
  apply Prod.Lex.toLex_lt_toLex.mpr
  refine Or.inr ⟨congrArg rank hproduct, ?_⟩
  apply Prod.Lex.toLex_lt_toLex.mpr
  rcases hprecedes with hlt | ⟨heq, hle⟩
  · exact Or.inl hlt
  · refine Or.inr ⟨heq, lt_of_le_of_ne hle fun hint => hne ?_⟩
    have hprovider : a.providerId = b.providerId := congrArg Uuid.mk hint
    exact Table.eq_of_key_eq ha hb (Prod.ext hproduct hprovider)

/-- The candidates of an item climb. -/
theorem Database.openItem_climbs (database : Database) (rank : Uuid → α) (item : ReservationItem) :
    (database.openItem item).candidates.Pairwise fun k k' =>
      database.offerRank rank k < database.offerRank rank k' := by
  unfold openItem itemCandidates holdCandidates
  dsimp only
  generalize hoffers : database.offers.rows.filter (fun offer => decide (offer.productId = item.productId ∧
    offer.selectable (database.selectedRoutingGroup item) item.providerId = true)) = offers
  have hmem : ∀ offer ∈ offers, offer.productId = item.productId ∧ offer ∈ database.offers := by
    intro offer ho
    rw [← hoffers, List.mem_filter] at ho
    exact ⟨(of_decide_eq_true ho.2).1, ho.1⟩
  have hnodup : offers.Nodup := by
    rw [← hoffers]
    exact database.offers.rows_nodup.filter _
  have hsorted : (offers.insertionSort ProductOfferModel.precedes).Pairwise fun a b =>
      a.precedes b ∧ a ≠ b :=
    (List.pairwise_insertionSort ProductOfferModel.precedes offers).and
      ((List.perm_insertionSort ProductOfferModel.precedes offers).nodup_iff.mpr hnodup)
  rw [List.pairwise_map, List.pairwise_filterMap]
  refine hsorted.imp_of_mem fun {a b} ha hb hab candidate hc candidate' hc' => ?_
  obtain ⟨haproduct, haoffer⟩ := hmem a ((List.mem_insertionSort _).mp ha)
  obtain ⟨hbproduct, hboffer⟩ := hmem b ((List.mem_insertionSort _).mp hb)
  have hid : candidate.id = a.providerId := Table.key_of_find? (Option.filter_eq_some_iff.mp hc).1
  have hid' : candidate'.id = b.providerId := Table.key_of_find? (Option.filter_eq_some_iff.mp hc').1
  have hlt := database.offerRank_lt_of_precedes rank haoffer hboffer
    (haproduct.trans hbproduct.symm) hab.1 hab.2
  unfold ProductOfferModel.identity at hlt
  rw [haproduct, hbproduct] at hlt
  rw [hid, hid']
  exact hlt

theorem Database.openItem_product {database : Database} {item : ReservationItem} {k : OfferKey}
    (h : k ∈ (database.openItem item).candidates) : k.1 = item.productId := by
  obtain ⟨candidate, -, rfl⟩ := List.mem_map.mp h
  rfl

end Order

/-! ## Requests in one order of the products -/

namespace Checkouts
variable {τ α : Type} [DecidableEq τ] [LinearOrder α]

omit [DecidableEq τ] in
theorem climbs_start {database : Database} {requests : τ → InternalRequest database} {rank : Uuid → α}
    (hordered : ∀ t, (requests t).items.Pairwise fun a b => rank a.productId < rank b.productId) (t : τ) :
    Climbs (database.offerRank rank) (start requests).offers t ((start requests).calls t) := by
  refine ⟨?_, fun k hk => ?_, fun entry he => absurd he List.not_mem_nil⟩
  swap
  · cases hk
  change (((requests t).items.map database.openItem).flatMap OpenItem.candidates).Pairwise _
  rw [List.flatMap_map, List.pairwise_flatMap]
  refine ⟨fun item _ => database.openItem_climbs rank item, (hordered t).imp fun {a b} hab k hk k' hk' => ?_⟩
  apply Database.offerRank_lt_of_product
  rw [Database.openItem_product hk, Database.openItem_product hk']
  exact hab

/-- Where all requests list their items in one order of the products, no interleaving of the creates
reaches a circle of creates each waiting for an offer that the next has locked. -/
theorem run_no_wait_cycle {database : Database} {requests : τ → InternalRequest database} (rank : Uuid → α)
    (hordered : ∀ t, (requests t).items.Pairwise fun a b => rank a.productId < rank b.productId)
    (moves : List (CheckoutMove τ)) : ¬ ((start requests).run moves).WaitCycle := by
  have hclimbs : ∀ u, Climbs (database.offerRank rank) ((start requests).run moves).offers u
      (((start requests).run moves).calls u) :=
    Runs.run_invariant_of_all (I := fun s : Checkouts τ => ∀ u, Climbs (database.offerRank rank) s.offers u (s.calls u))
      (fun _ move h => climbs_step h move) (climbs_start hordered) moves
  exact no_wait_cycle_of_climbs hclimbs

/-! ## Requests in opposite orders -/

/-- Two products on the shelves of one internal provider. -/
def shelves : Database :=
  { Deployment.database with offers := ⟨[Deployment.stocked 1 10, Deployment.stocked 2 10], by decide⟩ }

def oneOf (productId : Uuid) : ReservationItem := ⟨productId, 10, ⟨1, by decide⟩⟩

def firstThenSecond : InternalRequest shelves := ⟨[oneOf 1, oneOf 2], by decide +kernel⟩

def secondThenFirst : InternalRequest shelves := ⟨[oneOf 2, oneOf 1], by decide +kernel⟩

/-- Three creates that list the products in one order contend for them. -/
theorem aligned_no_wait_cycle :
    ¬ ((start fun _ : ℕ => firstThenSecond).run [.hold 0, .hold 1, .hold 0, .hold 2, .commit 0, .hold 1]).WaitCycle :=
  run_no_wait_cycle Uuid.int (fun _ => by decide +kernel) _

/-- Each of two creates has taken what the other one needs next. -/
theorem opposed_wait_cycle : ¬ ∀ (database : Database) (requests : Bool → InternalRequest database)
    (moves : List (CheckoutMove Bool)), ¬ ((start requests).run moves).WaitCycle := by
  intro h
  apply h shelves (fun t => if t then secondThenFirst else firstThenSecond)
    [.hold false, .hold true, .hold false, .hold true]
  refine ⟨false, .tail (.single ?_) ?_ (b := true)⟩
  · exact ⟨(2, 10), by decide +kernel, by decide +kernel, by decide⟩
  · exact ⟨(1, 10), by decide +kernel, by decide +kernel, by decide⟩

end Checkouts
end InventoryReservation
