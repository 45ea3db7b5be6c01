import Mathlib.Data.Int.Notation

/-! # JSON values

Values nested in objects and arrays to any depth, the rule of induction over them, and what it means
that some object inside a value has a key of a kind.
-/

set_option autoImplicit false

/-- The members of an object are in the order in which they are iterated over. -/
inductive Json where
  | null
  | bool (value : Bool)
  | number (mantissa exponent : ℤ)
  | string (value : String)
  | array (items : List Json)
  | object (members : List (String × Json))

namespace Json

/-- The value under a key. -/
def get? (members : List (String × Json)) (key : String) : Option Json :=
  (members.find? fun member => member.1 = key).map Prod.snd

/-- The value under a key, or the default. -/
def getD (members : List (String × Json)) (key : String) (default : Json) : Json :=
  (get? members key).getD default

/-- Induction over a value: containers after what they contain. -/
theorem induction {motive : Json → Prop} (null : motive .null) (bool : ∀ value, motive (.bool value))
    (number : ∀ mantissa exponent, motive (.number mantissa exponent))
    (string : ∀ value, motive (.string value))
    (array : ∀ items, (∀ item ∈ items, motive item) → motive (.array items))
    (object : ∀ members, (∀ member ∈ members, motive member.2) → motive (.object members))
    (value : Json) : motive value := by
  refine @Json.rec motive (fun items => ∀ item ∈ items, motive item)
    (fun members => ∀ member ∈ members, motive member.2) (fun member => motive member.2)
    null bool number string array object ?_ ?_ ?_ ?_ ?_ value
  · exact List.forall_mem_nil _
  · exact fun item items hitem hitems => List.forall_mem_cons.mpr ⟨hitem, hitems⟩
  · exact List.forall_mem_nil _
  · exact fun member members hmember hmembers => List.forall_mem_cons.mpr ⟨hmember, hmembers⟩
  · exact fun key value hvalue => hvalue

/-! ## Nested values -/

/-- Values inside a value, at any depth. -/
inductive Reaches : Json → Json → Prop
  | refl (value : Json) : Reaches value value
  | item {items : List Json} {item value : Json} (h : item ∈ items) (hr : Reaches item value) :
      Reaches (.array items) value
  | member {members : List (String × Json)} {member : String × Json} {value : Json} (h : member ∈ members)
      (hr : Reaches member.2 value) : Reaches (.object members) value

/-- Some object inside the value has a key of this kind. -/
def HasKey (p : String → Prop) (value : Json) : Prop :=
  ∃ members, value.Reaches (.object members) ∧ ∃ member ∈ members, p member.1

section HasKey
variable {p : String → Prop}

theorem not_hasKey_of_scalar {value : Json} (harray : ∀ items, value ≠ .array items)
    (hobject : ∀ members, value ≠ .object members) : ¬ value.HasKey p := by
  rintro ⟨members, hr, -⟩
  cases hr with
  | refl => exact hobject members rfl
  | item => exact harray _ rfl
  | member => exact hobject _ rfl

theorem hasKey_array {items : List Json} : (Json.array items).HasKey p ↔ ∃ item ∈ items, item.HasKey p := by
  constructor
  · rintro ⟨members, hr, hkey⟩
    cases hr with
    | item h hr => exact ⟨_, h, members, hr, hkey⟩
  · rintro ⟨item, h, members, hr, hkey⟩
    exact ⟨members, .item h hr, hkey⟩

theorem hasKey_object {members : List (String × Json)} :
    (Json.object members).HasKey p ↔ ∃ member ∈ members, p member.1 ∨ member.2.HasKey p := by
  constructor
  · rintro ⟨members', hr, member, h, hkey⟩
    cases hr with
    | refl => exact ⟨member, h, Or.inl hkey⟩
    | member h' hr => exact ⟨_, h', Or.inr ⟨members', hr, member, h, hkey⟩⟩
  · rintro ⟨member, h, hkey | ⟨members', hr, hkey⟩⟩
    · exact ⟨members, .refl _, member, h, hkey⟩
    · exact ⟨members', .member h hr, hkey⟩

end HasKey

end Json
