import InventoryReservation.Foundations.Delimited
import InventoryReservation.Service.Reservation

/-! # The text a request is fingerprinted by

Items are written with their product, their provider and their quantity, in the order of product and
provider. Their text says which they are, and permutations of items of distinct products have one text.
-/

namespace InventoryReservation
set_option autoImplicit false

open Delimited

/-! ## Identifiers -/

theorem Uuid.ext_int {u v : Uuid} (h : u.int = v.int) : u = v := by
  cases u
  cases v
  exact congrArg Uuid.mk h

theorem Uuid.group_toList (u : Uuid) (start length : ℕ) :
    (u.group start length).toList =
      (List.range length).map fun i => Nat.digitChar (u.int.val / 16 ^ (31 - (start + i)) % 16) :=
  String.toList_ofList

theorem Uuid.group_length (u : Uuid) (start length : ℕ) : (u.group start length).toList.length = length := by
  rw [group_toList, List.length_map, List.length_range]

theorem digitChar_inj : ∀ a < 16, ∀ b < 16, Nat.digitChar a = Nat.digitChar b → a = b := by decide

theorem Uuid.digit_of_group {u v : Uuid} {start length : ℕ} (h : (u.group start length).toList =
    (v.group start length).toList) (i : ℕ) (hi : i < length) :
    u.int.val / 16 ^ (31 - (start + i)) % 16 = v.int.val / 16 ^ (31 - (start + i)) % 16 := by
  rw [group_toList, group_toList, List.map_inj_left] at h
  exact digitChar_inj _ (Nat.mod_lt _ (by decide)) _ (Nat.mod_lt _ (by decide)) (h i (List.mem_range.mpr hi))

theorem Uuid.str_toList (u : Uuid) :
    u.str.toList = (u.group 0 8).toList ++ ('-' :: ((u.group 8 4).toList ++ ('-' :: ((u.group 12 4).toList ++
      ('-' :: ((u.group 16 4).toList ++ ('-' :: (u.group 20 12).toList))))))) := by
  have hdash : "-".toList = ['-'] := rfl
  unfold str
  simp only [String.toList_append, List.append_assoc, hdash, List.cons_append, List.nil_append]

theorem Uuid.str_length (u : Uuid) : u.str.toList.length = 36 := by
  rw [str_toList]
  simp only [List.length_append, List.length_cons, group_length]

/-- `str` is injective: 32 digits are the whole identifier. -/
theorem Uuid.str_injective : Function.Injective Uuid.str := by
  intro u v h
  have hlists := congrArg String.toList h
  rw [str_toList, str_toList] at hlists
  have hgroup : ∀ start length, (u.group start length).toList.length = (v.group start length).toList.length :=
    fun start length => (u.group_length start length).trans (v.group_length start length).symm
  obtain ⟨h₀, hlists⟩ := List.append_inj hlists (hgroup 0 8)
  obtain ⟨h₈, hlists⟩ := List.append_inj (List.cons.inj hlists).2 (hgroup 8 4)
  obtain ⟨h₁₂, hlists⟩ := List.append_inj (List.cons.inj hlists).2 (hgroup 12 4)
  obtain ⟨h₁₆, hlists⟩ := List.append_inj (List.cons.inj hlists).2 (hgroup 16 4)
  have h₂₀ := (List.cons.inj hlists).2
  have hdigits : ∀ i < 32, u.int.val / 16 ^ i % 16 = v.int.val / 16 ^ i % 16 := by
    intro i hi
    -- The digit of weight `16 ^ i` is printed at place `31 - i`.
    have hplace : ∀ start length, (u.group start length).toList = (v.group start length).toList →
        start ≤ 31 - i → 31 - i < start + length → u.int.val / 16 ^ i % 16 = v.int.val / 16 ^ i % 16 := by
      intro start length hg hlo hhi
      have hdigit := digit_of_group hg (31 - i - start) (by omega)
      have hi' : 31 - (start + (31 - i - start)) = i := by omega
      rwa [hi'] at hdigit
    rcases Nat.lt_or_ge (31 - i) 8 with h8 | h8
    · exact hplace 0 8 h₀ (Nat.zero_le _) h8
    rcases Nat.lt_or_ge (31 - i) 12 with h12 | h12
    · exact hplace 8 4 h₈ h8 h12
    rcases Nat.lt_or_ge (31 - i) 16 with h16 | h16
    · exact hplace 12 4 h₁₂ h12 h16
    rcases Nat.lt_or_ge (31 - i) 20 with h20 | h20
    · exact hplace 16 4 h₁₆ h16 h20
    · exact hplace 20 12 h₂₀ h20 (by omega)
  have hsize : (2 : ℕ) ^ 128 = 16 ^ 32 := by decide
  exact ext_int (Fin.ext (eq_of_digits 32 (u.int.isLt.trans_eq hsize) (v.int.isLt.trans_eq hsize) hdigits))

theorem digitChar_ne_bar : ∀ a < 16, Nat.digitChar a ≠ '|' := by decide

theorem Uuid.bar_not_mem_group (u : Uuid) (start length : ℕ) : '|' ∉ (u.group start length).toList := by
  rw [group_toList]
  intro hmem
  obtain ⟨i, -, hi⟩ := List.mem_map.mp hmem
  exact digitChar_ne_bar _ (Nat.mod_lt _ (by decide)) hi

theorem Uuid.bar_not_mem_str (u : Uuid) : '|' ∉ u.str.toList := by
  rw [str_toList]
  simp only [List.mem_append, List.mem_cons, bar_not_mem_group]
  decide

/-! ## Quantities -/

theorem Quantity.ext_units {q q' : Quantity} (h : q.units = q'.units) : q = q' := by
  cases q
  cases q'
  cases h
  rfl

/-- A quantity is printed as the decimal of a natural number. -/
theorem Quantity.toString_units (q : Quantity) : toString q.units = toString q.units.toNat := by
  have hcast : q.units = (q.units.toNat : ℤ) := (Int.toNat_of_nonneg q.positive.le).symm
  generalize q.units.toNat = n at hcast
  rw [hcast]
  rfl

theorem Quantity.toString_inj {q q' : Quantity} (h : toString q.units = toString q'.units) : q = q' := by
  rw [toString_units, toString_units] at h
  have hnat := toString_injective h
  have hpos := q.positive
  have hpos' := q'.positive
  exact ext_units (by omega)

theorem Quantity.bar_not_mem (q : Quantity) : '|' ∉ (toString q.units).toList := by
  rw [toString_units]
  intro hmem
  have hdigit := isDigit_of_mem_toString hmem
  revert hdigit
  decide

/-! ## Items -/

/-- One item of the canonical text. -/
def ReservationItem.text (item : ReservationItem) : String :=
  item.productId.str ++ ":" ++ item.providerId.str ++ ":" ++ toString item.quantity.units

theorem ReservationItem.text_toList (item : ReservationItem) :
    item.text.toList = item.productId.str.toList ++ (':' :: (item.providerId.str.toList ++
      (':' :: (toString item.quantity.units).toList))) := by
  have hcolon : ":".toList = [':'] := rfl
  unfold text
  simp only [String.toList_append, List.append_assoc, hcolon, List.cons_append, List.nil_append]

theorem ReservationItem.text_injective : Function.Injective ReservationItem.text := by
  intro a b h
  have hlists := congrArg String.toList h
  rw [text_toList, text_toList] at hlists
  have hlength : ∀ u v : Uuid, u.str.toList.length = v.str.toList.length := fun u v =>
    u.str_length.trans v.str_length.symm
  obtain ⟨hproduct, hlists⟩ := List.append_inj hlists (hlength _ _)
  obtain ⟨hprovider, hlists⟩ := List.append_inj (List.cons.inj hlists).2 (hlength _ _)
  have hquantity := (List.cons.inj hlists).2
  have hproduct' := Uuid.str_injective (String.toList_injective hproduct)
  have hprovider' := Uuid.str_injective (String.toList_injective hprovider)
  have hquantity' := Quantity.toString_inj (String.toList_injective hquantity)
  calc a = ⟨a.productId, a.providerId, a.quantity⟩ := rfl
    _ = ⟨b.productId, b.providerId, b.quantity⟩ := by rw [hproduct', hprovider', hquantity']
    _ = b := rfl

theorem ReservationItem.text_isPart (item : ReservationItem) : IsPart '|' item.text := by
  constructor
  · intro he
    have hlength := congrArg (fun text => text.toList.length) he
    rw [text_toList, List.length_append, Uuid.str_length] at hlength
    simp at hlength
  · rw [text_toList]
    simp only [List.mem_append, List.mem_cons, Uuid.bar_not_mem_str, Quantity.bar_not_mem]
    decide

/-! ## Lists of items -/

instance : IsTrans ReservationItem ReservationItem.le where
  trans a b c hab hbc := by
    rcases hab with hab | ⟨hab, hab'⟩
    · rcases hbc with hbc | ⟨hbc, -⟩
      · exact Or.inl (hab.trans hbc)
      · exact Or.inl (hbc ▸ hab)
    · rcases hbc with hbc | ⟨hbc, hbc'⟩
      · exact Or.inl (hab ▸ hbc)
      · exact Or.inr ⟨hab.trans hbc, hab'.trans hbc'⟩

instance : Std.Total ReservationItem.le where
  total a b := by
    rcases lt_trichotomy a.productId.int b.productId.int with h | h | h
    · exact Or.inl (Or.inl h)
    · have hproduct : a.productId = b.productId := Uuid.ext_int h
      rcases le_total a.providerId.int b.providerId.int with h' | h'
      · exact Or.inl (Or.inr ⟨hproduct, h'⟩)
      · exact Or.inr (Or.inr ⟨hproduct.symm, h'⟩)
    · exact Or.inr (Or.inl h)

theorem ReservationItem.product_of_le {a b : ReservationItem} (h : a.le b) (h' : b.le a) :
    a.productId = b.productId := by
  rcases h with h | ⟨h, -⟩
  · rcases h' with h' | ⟨h', -⟩
    · exact absurd h' h.not_gt
    · exact h'.symm
  · exact h

theorem canonicalItems_eq (items : List ReservationItem) :
    canonicalItems items = (String.singleton '|').intercalate
      ((items.insertionSort ReservationItem.le).map ReservationItem.text) := rfl

/-- The items can be read off the text, up to their order. -/
theorem perm_of_canonicalItems {items items' : List ReservationItem}
    (h : canonicalItems items = canonicalItems items') : items.Perm items' := by
  rw [canonicalItems_eq, canonicalItems_eq] at h
  have hparts : ∀ l : List ReservationItem, ∀ part ∈ l.map ReservationItem.text, IsPart '|' part := by
    intro l part hp
    obtain ⟨item, -, rfl⟩ := List.mem_map.mp hp
    exact item.text_isPart
  have hsorted := List.map_injective_iff.mpr ReservationItem.text_injective
    (intercalate_inj (hparts _) (hparts _) h)
  have hperm := List.perm_insertionSort ReservationItem.le items
  rw [hsorted] at hperm
  exact hperm.symm.trans (List.perm_insertionSort ReservationItem.le items')

/-- Items of distinct products have one text, in whatever order they come. -/
theorem canonicalItems_of_perm {items items' : List ReservationItem} (h : items.Perm items')
    (hproducts : (items.map ReservationItem.productId).Nodup) :
    canonicalItems items = canonicalItems items' := by
  have hperm : (items.insertionSort ReservationItem.le).Perm (items'.insertionSort ReservationItem.le) :=
    (List.perm_insertionSort _ _).trans (h.trans (List.perm_insertionSort _ _).symm)
  have hsorted : items.insertionSort ReservationItem.le = items'.insertionSort ReservationItem.le := by
    refine hperm.eq_of_pairwise (fun a b ha hb hab hba => ?_) (List.pairwise_insertionSort _ _)
      (List.pairwise_insertionSort _ _)
    refine List.inj_on_of_nodup_map hproducts ((List.mem_insertionSort _).mp ha) ?_
      (ReservationItem.product_of_le hab hba)
    exact h.mem_iff.mpr ((List.mem_insertionSort _).mp hb)
  rw [canonicalItems_eq, canonicalItems_eq, hsorted]

end InventoryReservation
