import PortReservation.Time.Millis

/-!
# Clocks

A clock that is moved by hand. Moving it forward wraps around in 64 bits.
-/

namespace PortReservation

/-- A clock that shows a time until it is moved. -/
structure Clock where
  now : Millis := 0
  deriving DecidableEq, Repr

namespace Clock

/-- The clock at another time. -/
def set (_ : Clock) (time : Millis) : Clock := ⟨time⟩

/-- The clock moved by a span, modulo `2 ^ 64`. -/
def advance (c : Clock) (span : Millis) : Clock := ⟨c.now + span⟩

end Clock

/-- Which of the two clocks a component reads. -/
inductive ClockSource where
  /-- The clock that is moved by hand. -/
  | manual
  /-- The clock of the machine. -/
  | system
  deriving DecidableEq, Repr

end PortReservation
