import InventoryReservation.Foundations.Transaction
import InventoryReservation.Repository.Product
import Mathlib.Data.List.DropRight

/-! # What the catalogue holds

Products are stored with their texts stripped, not blank and within the length of their columns, and no two
of them have one SKU.
-/

namespace InventoryReservation
set_option autoImplicit false

open Relational Transactional

/-! ## Texts -/

/-- Trimming the end of a list leaves its start alone. -/
theorem dropWhile_rdropWhile {l : List Char} (h : l.dropWhile isSpace = l) :
    (l.rdropWhile isSpace).dropWhile isSpace = l.rdropWhile isSpace := by
  rw [List.dropWhile_eq_self_iff] at h ⊢
  intro hpos
  have htrimmed := List.rdropWhile_prefix isSpace (l := l)
  have hl := h (Nat.lt_of_lt_of_le hpos htrimmed.length_le)
  rw [htrimmed.getElem hpos]
  exact hl

theorem strip_idem (text : String) : strip (strip text) = strip text := by
  have hstrip : ∀ text, strip text = String.ofList ((text.toList.dropWhile isSpace).rdropWhile isSpace) :=
    fun _ => rfl
  rw [hstrip (strip text), hstrip text, String.toList_ofList,
    dropWhile_rdropWhile (List.dropWhile_idempotent _ _), List.rdropWhile_idempotent]

/-- A text that is stored as it is: without outer spaces, not blank and short enough. -/
structure IsLabel (limit : ℕ) (text : String) : Prop where
  stripped : strip text = text
  notBlank : text ≠ ""
  short : text.length ≤ limit

theorem isLabel_strip_iff {limit : ℕ} {text : String} :
    IsLabel limit (strip text) ↔ strip text ≠ "" ∧ (strip text).length ≤ limit :=
  ⟨fun h => ⟨h.notBlank, h.short⟩, fun h => ⟨strip_idem text, h.1, h.2⟩⟩

/-! ## Rows -/

structure ProductModel.Valid (product : ProductModel) : Prop where
  sku : IsLabel 100 product.sku
  name : IsLabel 255 product.name
  active : product.isActive = true

theorem refuse_ok_iff {condition : Prop} [Decidable condition] {message : String} {u : Unit} :
    refuse condition message = .ok u ↔ ¬ condition := by
  unfold refuse
  by_cases h : condition
  · simp [h]
  · simp [h]

/-- The product the command asks for. -/
def CreateProductCommand.product (command : CreateProductCommand) (productId : Uuid) : Product where
  id := productId
  sku := strip command.sku
  name := strip command.name
  isActive := true

theorem createdProduct_ok_iff {productId : Uuid} {command : CreateProductCommand} {product : Product} :
    createdProduct productId command = .ok product ↔
      product = command.product productId ∧ product.toModel.Valid := by
  unfold createdProduct
  constructor
  · intro h
    obtain ⟨_, hblank, h⟩ := except_bind_ok_iff.mp h
    obtain ⟨_, hlong, h⟩ := except_bind_ok_iff.mp h
    obtain ⟨_, hname, h⟩ := except_bind_ok_iff.mp h
    obtain ⟨_, hnameLong, h⟩ := except_bind_ok_iff.mp h
    cases h
    rw [refuse_ok_iff] at hblank hlong hname hnameLong
    exact ⟨rfl, isLabel_strip_iff.mpr ⟨hblank, not_lt.mp hlong⟩,
      isLabel_strip_iff.mpr ⟨hname, not_lt.mp hnameLong⟩, rfl⟩
  · rintro ⟨rfl, hvalid⟩
    have hsku := isLabel_strip_iff.mp hvalid.sku
    have hname := isLabel_strip_iff.mp hvalid.name
    refine except_bind_ok_iff.mpr ⟨(), refuse_ok_iff.mpr hsku.1, ?_⟩
    refine except_bind_ok_iff.mpr ⟨(), refuse_ok_iff.mpr (not_lt.mpr hsku.2), ?_⟩
    refine except_bind_ok_iff.mpr ⟨(), refuse_ok_iff.mpr hname.1, ?_⟩
    exact except_bind_ok_iff.mpr ⟨(), refuse_ok_iff.mpr (not_lt.mpr hname.2), rfl⟩

/-- What is refused is refused with a message. -/
theorem createdProduct_error {productId : Uuid} {command : CreateProductCommand} {error : EndpointError}
    (h : createdProduct productId command = .error error) :
    ∃ message, error = .invalidProductConfiguration message := by
  have hrefuse : ∀ {condition : Prop} [Decidable condition] {message : String}
      {next : Unit → Except EndpointError Product},
      (refuse condition message >>= next) = .error error →
        error = .invalidProductConfiguration message ∨ next () = .error error := by
    intro condition _ message next h
    unfold refuse at h
    split at h
    · cases h
      exact Or.inl rfl
    · exact Or.inr h
  rcases hrefuse h with h | h
  · exact ⟨_, h⟩
  rcases hrefuse h with h | h
  · exact ⟨_, h⟩
  rcases hrefuse h with h | h
  · exact ⟨_, h⟩
  rcases hrefuse h with h | h
  · exact ⟨_, h⟩
  cases h

/-- The driver can hand over both texts. -/
def ProductModel.Bindable (product : ProductModel) : Prop :=
  nul ∉ product.sku.toList ∧ nul ∉ product.name.toList

instance (product : ProductModel) : Decidable product.Bindable := inferInstanceAs (Decidable (_ ∧ _))

/-- The checks of the service leave nothing to the constraints. -/
theorem ProductModel.Valid.violation {product : ProductModel} (h : product.Valid) :
    product.violation = if product.Bindable then none else some (.service (.dataError "products")) := by
  unfold ProductModel.violation Bindable
  rw [if_neg (not_lt.mpr h.sku.short), if_neg (not_lt.mpr h.name.short), if_neg h.sku.notBlank,
    if_neg h.name.notBlank]
  by_cases hsku : nul ∈ product.sku.toList
  · simp [hsku]
  · simp [hsku]

/-! ## The catalogue -/

structure Catalogue.Valid (catalogue : Catalogue) : Prop where
  rows : ∀ product ∈ catalogue, product.Valid
  skus : ∀ a ∈ catalogue, ∀ b ∈ catalogue, a.sku = b.sku → a = b

namespace ProductRepository
variable {catalogue catalogue' : Catalogue} {product : Product}

theorem add_ok (h : add product catalogue = .ok catalogue') :
    catalogue.insert? product.toModel = some catalogue' ∧ product.toModel.violation = none ∧
      ∀ other ∈ catalogue, other.sku ≠ product.sku := by
  unfold add at h
  split at h
  · cases h
  · cases h
  · next hviolation hinsert =>
    split at h
    · cases h
    · next hfree =>
      cases h
      refine ⟨hinsert, hviolation, fun other hmem he => hfree ?_⟩
      exact List.any_eq_true.mpr ⟨other, hmem, decide_eq_true he⟩

/-- A valid product that is added keeps the catalogue valid, and all that is in it. -/
theorem add_valid (hcatalogue : catalogue.Valid) (hproduct : product.toModel.Valid)
    (h : add product catalogue = .ok catalogue') : catalogue'.Valid := by
  obtain ⟨hinsert, -, hfree⟩ := add_ok h
  constructor
  · intro row hrow
    rcases (Table.mem_insert? hinsert row).mp hrow with hrow | rfl
    · exact hcatalogue.rows row hrow
    · exact hproduct
  · intro a ha b hb hsku
    rcases (Table.mem_insert? hinsert a).mp ha with ha | rfl
    · rcases (Table.mem_insert? hinsert b).mp hb with hb | rfl
      · exact hcatalogue.skus a ha b hb hsku
      · exact absurd hsku (hfree a ha)
    · rcases (Table.mem_insert? hinsert b).mp hb with hb | rfl
      · exact absurd hsku.symm (hfree b hb)
      · rfl

/-- A listing has every product once, in the order of the collation. -/
theorem list_perm (collation : Collation) (catalogue : Catalogue) :
    (list collation catalogue).Perm (catalogue.rows.map ProductModel.toDomain) :=
  (List.perm_insertionSort _ _).map _

theorem list_sorted (collation : Collation) (catalogue : Catalogue) :
    (list collation catalogue).Pairwise (collation.orders Product.sku Product.id) := by
  unfold list
  rw [List.pairwise_map]
  exact List.pairwise_insertionSort (collation.orders ProductModel.sku ProductModel.id) catalogue.rows

end ProductRepository
end InventoryReservation
