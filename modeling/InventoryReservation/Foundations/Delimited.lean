import Mathlib.Algebra.Group.Nat.Defs
import Mathlib.Data.List.Basic

/-! # Texts that can be read back

Numbers printed digit by digit, and parts joined by a character that occurs in none of them.
-/

namespace Delimited
set_option autoImplicit false

/-- A number is known modulo `b ^ k` by its last `k` digits. -/
theorem mod_eq_of_digits {b x y : ℕ} (k : ℕ) (h : ∀ i < k, x / b ^ i % b = y / b ^ i % b) :
    x % b ^ k = y % b ^ k := by
  induction k with
  | zero => rw [Nat.pow_zero, Nat.mod_one, Nat.mod_one]
  | succ k ih =>
    rw [Nat.mod_pow_succ, Nat.mod_pow_succ, h k (Nat.lt_succ_self k),
      ih fun i hi => h i (Nat.lt_succ_of_lt hi)]

theorem eq_of_digits {b x y : ℕ} (k : ℕ) (hx : x < b ^ k) (hy : y < b ^ k)
    (h : ∀ i < k, x / b ^ i % b = y / b ^ i % b) : x = y := by
  have hmod := mod_eq_of_digits k h
  rwa [Nat.mod_eq_of_lt hx, Nat.mod_eq_of_lt hy] at hmod

/-! ## Decimals -/

theorem isDigit_of_mem_toString {n : ℕ} {c : Char} (h : c ∈ (toString n).toList) : c.isDigit = true := by
  rw [Nat.toString_eq_ofList_toDigits, String.toList_ofList] at h
  exact Nat.isDigit_of_mem_toDigits (by decide) (by decide) h

theorem toString_injective : Function.Injective (toString : ℕ → String) := by
  intro m n h
  rw [Nat.toString_eq_ofList_toDigits, Nat.toString_eq_ofList_toDigits, String.ofList_inj] at h
  rw [← Nat.ofDigitChars_ten_toDigits (n := m), h, Nat.ofDigitChars_ten_toDigits]

/-! ## Joined parts -/

/-- A part that is not empty and does not contain the delimiter. -/
def IsPart (delimiter : Char) (part : String) : Prop := part ≠ "" ∧ delimiter ∉ part.toList

/-- Lists of parts are told apart by the text they are joined to. -/
theorem intercalate_inj {delimiter : Char} {parts parts' : List String}
    (hparts : ∀ part ∈ parts, IsPart delimiter part) (hparts' : ∀ part ∈ parts', IsPart delimiter part)
    (h : (String.singleton delimiter).intercalate parts = (String.singleton delimiter).intercalate parts') :
    parts = parts' := by
  have hsplit : ∀ {l : List String}, (∀ part ∈ l, IsPart delimiter part) → l ≠ [] →
      ([delimiter].intercalate (l.map String.toList)).splitOn delimiter = l.map String.toList := by
    intro l hl hne
    refine List.splitOn_intercalate delimiter (fun part hp => ?_) (by simpa using hne)
    obtain ⟨text, ht, rfl⟩ := List.mem_map.mp hp
    exact (hl text ht).2
  have hempty : ∀ {l : List String}, (∀ part ∈ l, IsPart delimiter part) →
      [delimiter].intercalate (l.map String.toList) = [] → l = [] := by
    intro l hl he
    by_contra hne
    have hone := hsplit hl hne
    rw [he] at hone
    have hmem : "" ∈ l := by
      have hnil : [] ∈ l.map String.toList := by
        rw [← hone]
        simp
      obtain ⟨text, ht, hnil⟩ := List.mem_map.mp hnil
      rwa [String.toList_eq_nil_iff.mp hnil] at ht
    exact (hl "" hmem).1 rfl
  have hlists : [delimiter].intercalate (parts.map String.toList) =
      [delimiter].intercalate (parts'.map String.toList) := by
    have htexts := congrArg String.toList h
    rwa [String.toList_intercalate, String.toList_intercalate, String.toList_singleton] at htexts
  by_cases hnil : parts = []
  · rw [hnil] at hlists ⊢
    exact (hempty hparts' hlists.symm).symm
  · by_cases hnil' : parts' = []
    · rw [hnil'] at hlists
      exact absurd (hempty hparts hlists) hnil
    · have hsame : parts.map String.toList = parts'.map String.toList := by
        rw [← hsplit hparts hnil, hlists, hsplit hparts' hnil']
      exact List.map_injective_iff.mpr (fun _ _ he => String.toList_injective he) hsame

end Delimited
