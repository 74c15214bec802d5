import PortReservation.Text.Basic

/-!
# Decimal integers

An integer is written without leading zeros, `-` in front of a negative one. The reader takes an
optional `+` or `-` and one or more ASCII digits, leading zeros included, and nothing else.

* `readNat?_ofNat`, `readInt?_ofInt`: what is written reads back.
-/

namespace PortReservation

namespace Decimal

/-- The digits of a natural number. -/
def ofNat (n : Nat) : Text := Nat.toDigits 10 n

/-- An integer in decimal. -/
def ofInt (n : Int) : Text := if n < 0 then '-' :: ofNat n.natAbs else ofNat n.natAbs

/-- Reads one or more ASCII digits. -/
def readNat? (t : Text) : Option Nat :=
  if !t.isEmpty && t.all Char.isDigit then some (Nat.ofDigitChars 10 t 0) else none

/-- Reads an optional sign and one or more ASCII digits. -/
def readInt? : Text → Option Int
  | [] => none
  | c :: t =>
    if c = '-' then (readNat? t).map fun n : Nat => -(n : Int)
    else if c = '+' then (readNat? t).map fun n : Nat => (n : Int)
    else (readNat? (c :: t)).map fun n : Nat => (n : Int)

theorem readNat?_ofNat (n : Nat) : readNat? (ofNat n) = some n := by
  have hne : Nat.toDigits 10 n ≠ [] := Nat.toDigits_ne_nil
  have hall : (Nat.toDigits 10 n).all Char.isDigit = true :=
    List.all_eq_true.mpr fun c hc => Nat.isDigit_of_mem_toDigits (by decide) (by decide) hc
  simp [readNat?, ofNat, hne, hall, Nat.ofDigitChars_ten_toDigits]

/-- The digits of a number start with a digit. -/
theorem ofNat_eq_cons (n : Nat) : ∃ c t, ofNat n = c :: t ∧ c.isDigit = true := by
  have hne : ofNat n ≠ [] := Nat.toDigits_ne_nil
  obtain ⟨c, t, h⟩ := List.exists_cons_of_ne_nil hne
  have hc : c ∈ Nat.toDigits 10 n := by
    rw [show Nat.toDigits 10 n = c :: t from h]; exact List.mem_cons_self
  exact ⟨c, t, h, Nat.isDigit_of_mem_toDigits (by decide) (by decide) hc⟩

/-- A digit is no sign. -/
theorem readInt?_of_isDigit {c : Char} (hc : c.isDigit = true) (t : Text) :
    readInt? (c :: t) = (readNat? (c :: t)).map fun n : Nat => (n : Int) := by
  have hminus : c ≠ '-' := by rintro rfl; simp at hc
  have hplus : c ≠ '+' := by rintro rfl; simp at hc
  rw [readInt?, if_neg hminus, if_neg hplus]

theorem readInt?_ofNat (n : Nat) : readInt? (ofNat n) = some (n : Int) := by
  obtain ⟨c, t, h, hc⟩ := ofNat_eq_cons n
  rw [h, readInt?_of_isDigit hc, ← h, readNat?_ofNat]
  rfl

/-- An integer reads back from its decimal text. -/
theorem readInt?_ofInt (n : Int) : readInt? (ofInt n) = some n := by
  unfold ofInt
  split
  · have hneg : -(n.natAbs : Int) = n := by omega
    rw [readInt?, if_pos rfl, readNat?_ofNat]
    show some (-(n.natAbs : Int)) = some n
    rw [hneg]
  · rw [readInt?_ofNat]
    exact congrArg some (by omega)

end Decimal

end PortReservation
