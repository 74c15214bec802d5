import PortReservation.Text.Decimal

/-!
# Milliseconds

Points in time are 64-bit signed milliseconds since the Unix epoch; spans of time are such numbers
too. The age of a stamp is an exact difference, and there is none where it does not fit.

* `age?_eq_some_iff`: an age is the difference over the integers, where that fits.
* `read?_render`: what is written reads back.
-/

namespace PortReservation

/-- Milliseconds: a point in time since the Unix epoch, or a span of time. -/
abbrev Millis := Int64

namespace Millis

/-- Whether an integer fits into 64 bits with a sign. -/
def Fits (n : Int) : Prop := -9223372036854775808 ≤ n ∧ n ≤ 9223372036854775807

instance (n : Int) : Decidable (Fits n) := inferInstanceAs (Decidable (_ ∧ _))

/-- The milliseconds of an integer that fits. -/
def ofInt? (n : Int) : Option Millis := if Fits n then some (Int64.ofInt n) else none

/-- Reads a decimal integer that fits. -/
def read? (t : Text) : Option Millis := (Decimal.readInt? t).bind ofInt?

/-- Milliseconds in decimal. -/
def render (m : Millis) : Text := Decimal.ofInt m.toInt

/-- How long before `now` the time `stamp` was, where that fits. -/
def age? (now stamp : Millis) : Option Millis := ofInt? (now.toInt - stamp.toInt)

theorem fits_toInt (m : Millis) : Fits m.toInt := by
  have h₁ := m.le_toInt
  have h₂ := m.toInt_lt
  unfold Fits
  omega

theorem ofInt?_eq_some_iff {n : Int} {m : Millis} : ofInt? n = some m ↔ m.toInt = n := by
  constructor
  · intro h
    unfold ofInt? at h
    split at h
    · next hr =>
      cases h
      unfold Fits at hr
      exact Int64.toInt_ofInt_of_le (by omega) (by omega)
    · cases h
  · rintro rfl
    rw [ofInt?, if_pos (fits_toInt m), Int64.ofInt_toInt]

/-- An age is the difference over the integers. -/
theorem age?_eq_some_iff {now stamp age : Millis} :
    age? now stamp = some age ↔ age.toInt = now.toInt - stamp.toInt :=
  ofInt?_eq_some_iff

/-- Milliseconds read back from their decimal text. -/
theorem read?_render (m : Millis) : read? (render m) = some m := by
  rw [read?, render, Decimal.readInt?_ofInt, Option.bind_some, ofInt?_eq_some_iff]

end Millis

end PortReservation
