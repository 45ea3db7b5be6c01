import InventoryReservation.Meaning.CanonicalText
import InventoryReservation.Meaning.Sparing

/-! # Requests and their keys

What a provider is asked in a call, and the `Idempotency-Key` the request carries. Keys are format strings
over identifiers of one printed length, so the text of a key says which key it is.
-/

namespace InventoryReservation
set_option autoImplicit false

/-! ## Texts of keys -/

/-- What follows a label is an identifier and the rest. -/
theorem Uuid.labelled_inj {label : String} {u v : Uuid} {xs ys : String}
    (h : label ++ (u.str ++ xs) = label ++ (v.str ++ ys)) : u = v ∧ xs = ys := by
  have hlists := congrArg String.toList h
  simp only [String.toList_append] at hlists
  obtain ⟨hstr, htail⟩ := List.append_inj (List.append_cancel_left hlists)
    (u.str_length.trans v.str_length.symm)
  exact ⟨Uuid.str_injective (String.toList_injective hstr), String.toList_injective htail⟩

theorem product_ne_allocation (xs ys : String) : ":product:" ++ xs ≠ ":allocation:" ++ ys := by
  intro h
  simpa using congrArg String.toList h

theorem availability_ne_reservation (xs ys : String) : "availability:product:" ++ xs ≠ "reservation:" ++ ys := by
  intro h
  simpa using congrArg String.toList h

namespace ProviderKey

/-- The text of a key after its reservation. -/
def details : ProviderKey → String
  | hold _ p v => ":product:" ++ (p.str ++ (":provider:" ++ (v.str ++ ":hold")))
  | confirm _ a => ":allocation:" ++ (a.str ++ ":confirm")
  | release _ a => ":allocation:" ++ (a.str ++ ":release")

theorem text_eq (key : ProviderKey) : key.text = "reservation:" ++ (key.reservationId.str ++ key.details) := by
  cases key <;> simp only [text, reservationId, details, String.append_assoc]

/-- The details say which operation of the reservation it is. -/
theorem eq_of_details {key key' : ProviderKey} (hr : key.reservationId = key'.reservationId)
    (h : key.details = key'.details) : key = key' := by
  cases key with
  | hold r p v =>
    cases key' with
    | hold r' p' v' =>
      obtain ⟨hp, htail⟩ := Uuid.labelled_inj h
      obtain ⟨hv, -⟩ := Uuid.labelled_inj htail
      exact congr (congrArg₂ hold hr hp) hv
    | confirm r' a' => exact absurd h (product_ne_allocation _ _)
    | release r' a' => exact absurd h (product_ne_allocation _ _)
  | confirm r a =>
    cases key' with
    | hold r' p' v' => exact absurd h.symm (product_ne_allocation _ _)
    | confirm r' a' => exact congrArg₂ confirm hr (Uuid.labelled_inj h).1
    | release r' a' => exact absurd (Uuid.labelled_inj h).2 (by decide)
  | release r a =>
    cases key' with
    | hold r' p' v' => exact absurd h.symm (product_ne_allocation _ _)
    | confirm r' a' => exact absurd (Uuid.labelled_inj h).2 (by decide)
    | release r' a' => exact congrArg₂ release hr (Uuid.labelled_inj h).1

theorem text_injective : Function.Injective text := by
  intro key key' h
  rw [text_eq, text_eq] at h
  obtain ⟨hr, hdetails⟩ := Uuid.labelled_inj h
  exact eq_of_details hr hdetails

end ProviderKey

/-- What identifies a request to the provider it is sent to. -/
inductive IdempotencyKey where
  | availability (productId : Uuid)
  | operation (key : ProviderKey)
  deriving DecidableEq

/-- The `Idempotency-Key` header. -/
def IdempotencyKey.text : IdempotencyKey → String
  | availability productId => "availability:product:" ++ productId.str
  | operation key => key.text

theorem IdempotencyKey.text_availability (productId : Uuid) :
    (availability productId).text = "availability:product:" ++ (productId.str ++ "") :=
  congrArg ("availability:product:" ++ ·) String.append_empty.symm

theorem IdempotencyKey.text_operation (key : ProviderKey) : (operation key).text = key.text := rfl

theorem IdempotencyKey.text_injective : Function.Injective text := by
  intro key key' h
  cases key with
  | availability p =>
    cases key' with
    | availability p' =>
      rw [text_availability, text_availability] at h
      rw [(Uuid.labelled_inj h).1]
    | operation key' =>
      rw [text_availability, text_operation, ProviderKey.text_eq] at h
      exact absurd h (availability_ne_reservation _ _)
  | operation key =>
    cases key' with
    | availability p' =>
      rw [text_availability, text_operation, ProviderKey.text_eq] at h
      exact absurd h.symm (availability_ne_reservation _ _)
    | operation key' =>
      rw [text_operation, text_operation] at h
      rw [ProviderKey.text_injective h]

/-! ## Requests -/

/-- What a provider is asked in an exchange. -/
inductive ProviderRequest where
  | availability (providerId : Uuid) (command : AvailabilityCommand)
  | hold (providerId : Uuid) (command : HoldCommand)
  | confirm (providerId : Uuid) (command : ConfirmCommand)
  | release (providerId : Uuid) (command : ReleaseCommand)
  deriving DecidableEq

def Exchange.request : Exchange → ProviderRequest
  | availability providerId command _ => .availability providerId command
  | hold providerId command _ => .hold providerId command
  | confirm providerId command _ => .confirm providerId command
  | release providerId command _ => .release providerId command

namespace ProviderRequest

def providerId : ProviderRequest → Uuid
  | availability providerId _ => providerId
  | hold providerId _ => providerId
  | confirm providerId _ => providerId
  | release providerId _ => providerId

def key : ProviderRequest → IdempotencyKey
  | availability _ command => .availability command.productId
  | hold _ command => .operation command.idempotencyKey
  | confirm _ command => .operation command.idempotencyKey
  | release _ command => .operation command.idempotencyKey

/-- The header under which the provider sees the request. -/
def idempotencyKey (request : ProviderRequest) : String := request.key.text

/-- Who is asked, and under which key. -/
def address (request : ProviderRequest) : Uuid × IdempotencyKey := (request.providerId, request.key)

end ProviderRequest

end InventoryReservation
