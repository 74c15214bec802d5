import PortReservation.Text.Decimal

/-!
# Durations

A length of time as whole seconds, which fit into 64 bits, and the nanoseconds beyond them.

* `nanoseconds_ofMillis`: the length of a duration of whole milliseconds.
* `nanoseconds_of_scale?`: a multiple of a duration is exact.
-/

namespace PortReservation

/-- A length of time: seconds and less than a second of nanoseconds. -/
structure Duration where
  seconds : UInt64
  nanos : Nat
  nanos_lt : nanos < 1000000000 := by decide
  deriving DecidableEq, Repr

namespace Duration

/-- The whole length in nanoseconds. -/
def nanoseconds (d : Duration) : Nat := d.seconds.toNat * 1000000000 + d.nanos

/-- A duration of whole milliseconds. -/
def ofMillis (ms : UInt64) : Duration where
  seconds := ms / 1000
  nanos := ms.toNat % 1000 * 1000000
  nanos_lt := by omega

/-- A multiple of a duration, where its seconds fit. -/
def scale? (d : Duration) (factor : UInt32) : Option Duration :=
  let nanos := d.nanos * factor.toNat
  let seconds := d.seconds.toNat * factor.toNat + nanos / 1000000000
  if seconds < UInt64.size then
    some ⟨UInt64.ofNat seconds, nanos % 1000000000, Nat.mod_lt _ (by decide)⟩
  else none

/-- The fraction of a unit with `width` decimal places, without trailing zeros. -/
def renderFraction (width n : Nat) : Text :=
  let digits := Decimal.ofNat n
  let padded := List.replicate (width - digits.length) '0' ++ digits
  let kept := (padded.reverse.dropWhile (· == '0')).reverse
  if kept.isEmpty then [] else '.' :: kept

/-- A duration in the largest of the units s, ms, µs and ns of which it holds one, or in ns. -/
def render (d : Duration) : Text :=
  if 0 < d.seconds.toNat then
    Decimal.ofNat d.seconds.toNat ++ renderFraction 9 d.nanos ++ ['s']
  else if 1000000 ≤ d.nanos then
    Decimal.ofNat (d.nanos / 1000000) ++ renderFraction 6 (d.nanos % 1000000) ++ ['m', 's']
  else if 1000 ≤ d.nanos then
    Decimal.ofNat (d.nanos / 1000) ++ renderFraction 3 (d.nanos % 1000) ++ ['µ', 's']
  else Decimal.ofNat d.nanos ++ ['n', 's']

/-- The length of a duration of whole milliseconds. -/
theorem nanoseconds_ofMillis (ms : UInt64) :
    (ofMillis ms).nanoseconds = ms.toNat * 1000000 := by
  simp only [nanoseconds, ofMillis, UInt64.toNat_div, show (1000 : UInt64).toNat = 1000 from rfl]
  omega

/-- A multiple is exact. -/
theorem nanoseconds_of_scale? {d e : Duration} {factor : UInt32} (h : d.scale? factor = some e) :
    e.nanoseconds = d.nanoseconds * factor.toNat := by
  simp only [scale?] at h
  split at h
  · next hlt =>
    cases h
    have hmod : (UInt64.ofNat (d.seconds.toNat * factor.toNat +
        d.nanos * factor.toNat / 1000000000)).toNat =
        d.seconds.toNat * factor.toNat + d.nanos * factor.toNat / 1000000000 := by
      rw [UInt64.toNat_ofNat']
      exact Nat.mod_eq_of_lt hlt
    simp only [nanoseconds, hmod, Nat.add_mul]
    have hassoc : d.seconds.toNat * 1000000000 * factor.toNat =
        d.seconds.toNat * factor.toNat * 1000000000 := Nat.mul_right_comm ..
    omega
  · cases h

end Duration

end PortReservation
