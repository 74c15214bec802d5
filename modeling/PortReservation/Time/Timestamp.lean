import PortReservation.Time.Millis

/-!
# Timestamps

A point in time as `YYYY-MM-DDTHH:MM:SS.mmm+00:00`, in UTC and the Gregorian calendar. A year
outside 0 to 9999 has a sign and at least four digits.
-/

namespace PortReservation

namespace Timestamp

/-- The digits of a number, padded with zeros on the left. -/
def padded (width n : Nat) : Text :=
  let digits := Decimal.ofNat n
  List.replicate (width - digits.length) '0' ++ digits

/-- Year, month and day of a count of days since 1970-01-01. A year of the count begins in March,
so that a leap day ends it; `era` is a period of 400 years. -/
def civil (days : Int) : Int × Nat × Nat :=
  let shifted := days + 719468
  let era := shifted / 146097
  let dayOfEra := (shifted % 146097).toNat
  let yearOfEra := (dayOfEra - dayOfEra / 1460 + dayOfEra / 36524 - dayOfEra / 146096) / 365
  let dayOfYear := dayOfEra - (365 * yearOfEra + yearOfEra / 4 - yearOfEra / 100)
  let shiftedMonth := (5 * dayOfYear + 2) / 153
  let day := dayOfYear - (153 * shiftedMonth + 2) / 5 + 1
  let month := if shiftedMonth < 10 then shiftedMonth + 3 else shiftedMonth - 9
  let year := era * 400 + yearOfEra + (if month ≤ 2 then 1 else 0)
  (year, month, day)

/-- A year with at least four digits. -/
def renderYear (year : Int) : Text :=
  if 0 ≤ year ∧ year ≤ 9999 then padded 4 year.toNat
  else (if year < 0 then '-' else '+') :: padded 4 year.natAbs

/-- A point in time in UTC, to the millisecond. -/
def render (time : Millis) : Text :=
  let ms := (time.toInt % 86400000).toNat
  let (year, month, day) := civil (time.toInt / 86400000)
  renderYear year ++ '-' :: padded 2 month ++ '-' :: padded 2 day ++
    'T' :: padded 2 (ms / 3600000) ++ ':' :: padded 2 (ms / 60000 % 60) ++
    ':' :: padded 2 (ms / 1000 % 60) ++ '.' :: padded 3 (ms % 1000) ++ "+00:00".toList

end Timestamp

end PortReservation
