import PortReservation.Error.Basic
import PortReservation.Time.Duration

/-!
# Lock policies

How often and how long to wait for a lock that is held elsewhere.
-/

namespace PortReservation

/-- How many retries there are unless another number is given. -/
def LockPolicy.defaultAttempts : UInt32 := 200

/-- How long a pause is unless another length is given. -/
def LockPolicy.defaultInterval : Duration := Duration.ofMillis 10

/-- Up to `attempts` retries, each after a pause of `interval`. -/
structure LockPolicy where
  attempts : UInt32 := LockPolicy.defaultAttempts
  interval : Duration := LockPolicy.defaultInterval
  deriving DecidableEq

namespace LockPolicy

/-- The total of all pauses. There is no answer if its seconds do not fit. -/
def maxWait (p : LockPolicy) : Except Overflow Duration :=
  match p.interval.scale? p.attempts with
  | some d => .ok d
  | none => .error .scaleDuration

end LockPolicy

end PortReservation
