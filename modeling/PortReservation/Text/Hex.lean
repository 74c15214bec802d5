import PortReservation.Text.Basic

/-!
# Hexadecimal digits

Digits are read in either case and written in lower case.

* `digitValue?_digitChar`: a digit that is written reads back.
-/

namespace PortReservation

namespace Hex

/-- The value of a hexadecimal digit. -/
def digitValue? (c : Char) : Option Nat :=
  if '0' ≤ c && c ≤ '9' then some (c.toNat - 48)
  else if 'a' ≤ c && c ≤ 'f' then some (c.toNat - 87)
  else if 'A' ≤ c && c ≤ 'F' then some (c.toNat - 55)
  else none

def isDigit (c : Char) : Bool := (digitValue? c).isSome

/-- The number that some digits stand for; other characters count as zero. -/
def ofDigits (t : Text) : Nat := t.foldl (fun n c => n * 16 + (digitValue? c).getD 0) 0

/-- The digits of a natural number. -/
def ofNat (n : Nat) : Text := Nat.toDigits 16 n

theorem digitValue?_digitChar : ∀ n < 16, digitValue? n.digitChar = some n := by decide

end Hex

end PortReservation
