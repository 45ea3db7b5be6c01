import InventoryReservation.Repository.Models
import InventoryReservation.Service.Product

/-! # Product repository

The catalogue of products. Listings come in the order of the collation of the database.
-/

namespace InventoryReservation
set_option autoImplicit false

open Relational

structure ProductModel where
  id : Uuid
  sku : String
  name : String
  isActive : Bool
  deriving DecidableEq

abbrev Catalogue := Table ProductModel.id

def ProductModel.toDomain (product : ProductModel) : Product where
  id := product.id
  sku := product.sku
  name := product.name
  isActive := product.isActive

def Product.toModel (product : Product) : ProductModel where
  id := product.id
  sku := product.sku
  name := product.name
  isActive := product.isActive

/-- What the driver and the constraints on the columns have against a row. -/
def ProductModel.violation (product : ProductModel) : Option EndpointError :=
  if nul ∈ product.sku.toList ∨ nul ∈ product.name.toList then some (.service (.dataError "products"))
  else if 100 < product.sku.length then some (.service (.valueTooLong "products.sku"))
  else if 255 < product.name.length then some (.service (.valueTooLong "products.name"))
  else if product.sku = "" then some (.service (.integrity "ck_products_sku_not_empty"))
  else if product.name = "" then some (.service (.integrity "ck_products_name_not_empty"))
  else none

/-! ## Order of listings -/

/-- The order of a deterministic collation, total on texts. -/
structure Collation where
  le : String → String → Bool
  total : ∀ a b, le a b = true ∨ le b a = true
  trans : ∀ a b c, le a b = true → le b c = true → le a c = true
  antisymm : ∀ a b, le a b = true → le b a = true → a = b

/-- `ORDER BY text, id`. -/
def Collation.orders {ρ : Type} (collation : Collation) (text : ρ → String) (id : ρ → Uuid) (a b : ρ) : Prop :=
  if text a = text b then (id a).int ≤ (id b).int else collation.le (text a) (text b) = true

section Orders
variable {ρ : Type} (collation : Collation) (text : ρ → String) (id : ρ → Uuid)

instance : DecidableRel (collation.orders text id) := fun a b =>
  inferInstanceAs (Decidable (if text a = text b then (id a).int ≤ (id b).int else _))

instance : Std.Total (collation.orders text id) where
  total a b := by
    unfold Collation.orders
    by_cases h : text a = text b
    · rw [if_pos h, if_pos h.symm]
      exact le_total _ _
    · rw [if_neg h, if_neg fun he => h he.symm]
      exact collation.total _ _

instance : IsTrans ρ (collation.orders text id) where
  trans a b c hab hbc := by
    unfold Collation.orders at *
    by_cases hab' : text a = text b
    · rw [if_pos hab'] at hab
      rw [hab']
      by_cases hbc' : text b = text c
      · rw [if_pos hbc'] at hbc ⊢
        exact hab.trans hbc
      · rw [if_neg hbc'] at hbc ⊢
        exact hbc
    · rw [if_neg hab'] at hab
      by_cases hbc' : text b = text c
      · rw [← hbc', if_neg hab']
        exact hab
      · rw [if_neg hbc'] at hbc
        have hac : text a ≠ text c := by
          intro he
          rw [← he] at hbc
          exact hab' (collation.antisymm _ _ hab hbc)
        rw [if_neg hac]
        exact collation.trans _ _ _ hab hbc

end Orders

namespace ProductRepository

def add (product : Product) (catalogue : Catalogue) : Except EndpointError Catalogue :=
  match product.toModel.violation, catalogue.insert? product.toModel with
  | some error, _ => .error error
  | none, none => .error (.service (.integrity "pk_products"))
  | none, some inserted =>
    if catalogue.rows.any fun other => other.sku = product.sku then .error (.productSkuConflict product.sku)
    else .ok inserted

def get (productId : Uuid) (catalogue : Catalogue) : Option Product :=
  (catalogue.find? productId).map ProductModel.toDomain

def list (collation : Collation) (catalogue : Catalogue) : List Product :=
  (catalogue.rows.insertionSort (collation.orders ProductModel.sku ProductModel.id)).map ProductModel.toDomain

end ProductRepository
end InventoryReservation
