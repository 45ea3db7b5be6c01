import Mathlib.Algebra.Group.Nat.Defs
import Mathlib.Data.Fin.Basic
import Mathlib.Data.List.Sort

/-! # Values shared by every layer

Identifiers, instants and quantities. `Instant` counts microseconds since the first `datetime`
(`0001-01-01T00:00:00Z`) and `Duration` counts microseconds, both as exact integers; the bounds of
Python's `datetime` and `timedelta` are constants next to them.
-/

namespace InventoryReservation
set_option autoImplicit false

/-- `uuid.UUID`: its `int` attribute. -/
structure Uuid where
  int : Fin (2 ^ 128)
  deriving DecidableEq, Repr

instance (n : ℕ) : OfNat Uuid n := ⟨⟨Fin.ofNat _ n⟩⟩

/-- The `k`-th group of hexadecimal digits `str(uuid)` prints, as an interval of the 32 digits. -/
def Uuid.group (u : Uuid) (start length : ℕ) : String :=
  String.ofList ((List.range length).map fun i => Nat.digitChar (u.int.val / 16 ^ (31 - (start + i)) % 16))

/-- `str(uuid)`. -/
def Uuid.str (u : Uuid) : String :=
  u.group 0 8 ++ "-" ++ u.group 8 4 ++ "-" ++ u.group 12 4 ++ "-" ++ u.group 16 4 ++ "-" ++ u.group 20 12

abbrev Instant := ℤ
abbrev Duration := ℤ

/-- `datetime.max`, in microseconds. -/
def Instant.last : Instant := 315537897599999999

/-- `timedelta.max`, in microseconds. -/
def Duration.longest : Duration := 86399999999999999999

/-- A positive number of units. The domain type of a reservation item and the `CHECK` constraints of
the item, allocation and order-item tables all reject anything else. -/
structure Quantity where
  units : ℤ
  positive : 0 < units
  deriving DecidableEq

end InventoryReservation
