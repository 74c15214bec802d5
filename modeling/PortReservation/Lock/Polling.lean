import PortReservation.Lock.Policy
import PortReservation.Lock.Table

/-!
# Polling for a lock

A lock is tried once, and while it is held elsewhere once more after each pause, up to a number of
retries. So a timeout comes after exactly that many pauses.

* `toNat_add_one_of_not_le`: a retry that is counted below the limit is counted exactly.
-/

namespace PortReservation

/-- How polling for a lock ends. -/
inductive PollEnd where
  | obtained
  | failed (cause : IoError)
  /-- The lock was held elsewhere at every try. -/
  | timedOut
  deriving DecidableEq

/-- How far polling for a lock is: how often the lock was tried, the retries that were counted, and
the pauses that were made, the latest first. -/
structure Polling where
  tries : Nat := 0
  retries : UInt32 := 0
  pauses : List Duration := []
  deriving DecidableEq

namespace Polling

/-- The lock was tried once more. -/
def tried (p : Polling) : Polling := { p with tries := p.tries + 1 }

/-- A retry was counted and a pause made before it. -/
def paused (p : Polling) (interval : Duration) : Polling :=
  { p with retries := p.retries + 1, pauses := interval :: p.pauses }

end Polling

/-- A number of 32 bits below another one can be counted up. -/
theorem toNat_add_one_of_not_le {limit n : UInt32} (h : ¬limit ≤ n) :
    (n + 1).toNat = n.toNat + 1 := by
  rw [UInt32.le_iff_toNat_le] at h
  have hlimit := limit.toNat_lt
  rw [UInt32.toNat_add]
  exact Nat.mod_eq_of_lt (by simp; omega)

/-- What the tries of a call for the locks of a file answer one after the other, for what the locks
answer as they are. Others may take or give back a lock between two tries, and the system may refuse
one. -/
abbrev LockTries := LockAnswer → Nat → LockAnswer

/-- Nothing else happens meanwhile, so every try answers what the locks answer as they are. -/
def LockTries.steady : LockTries := fun answer _ => answer

namespace Lock

/-- Polls on; `answers i` is what a try answers before which there were `i` others. The result says
how polling ends and how far it came. -/
def pollFrom (policy : LockPolicy) (answers : Nat → LockAnswer) (p : Polling) :
    PollEnd × Polling :=
  match answers p.tries with
  | .obtained => (.obtained, p.tried)
  | .failed cause => (.failed cause, p.tried)
  | .contended =>
    if policy.attempts ≤ p.retries then (.timedOut, p.tried)
    else pollFrom policy answers (p.tried.paused policy.interval)
termination_by policy.attempts.toNat - p.retries.toNat
decreasing_by
  next h =>
    have hnext : (p.tried.paused policy.interval).retries.toNat = p.retries.toNat + 1 :=
      toNat_add_one_of_not_le h
    rw [UInt32.le_iff_toNat_le] at h
    omega

/-- Tries a lock up to `attempts + 1` times, with the pauses of a policy between. -/
def poll (policy : LockPolicy) (answers : Nat → LockAnswer) : PollEnd × Polling :=
  pollFrom policy answers {}

end Lock

end PortReservation
