import Mathlib
import PortReservation.Config.Basic
import PortReservation.Proofs.Polling

/-!
# The bound on waiting

A policy knows in advance how long its pauses take together. The bound is a product of words that
are narrower than it, so it may not fit; where it fits, seconds and nanoseconds carry into each
other and come out as the exact product. Polling never waits longer, and waits as long where it is
given up.

* `scale?_eq_none_iff`: a multiple is missing exactly where its whole seconds do not fit.
* `waited_poll`: what polling waits is a pause for each retry.
* `LockPolicy.BoundedBy`: no polling takes longer than a duration, and one that is given up as long.
* `maxWait_exact`: the bound of every configuration.
-/

namespace PortReservation

namespace Duration

/-- The whole seconds of a multiple are those of its nanoseconds. -/
theorem nanoseconds_mul_div (d : Duration) (factor : Nat) :
    d.nanoseconds * factor / 1000000000 =
      d.seconds.toNat * factor + d.nanos * factor / 1000000000 := by
  have hsplit : d.nanoseconds * factor =
      d.nanos * factor + d.seconds.toNat * factor * 1000000000 := by
    rw [nanoseconds, Nat.add_mul, Nat.mul_right_comm, Nat.add_comm]
  rw [hsplit, Nat.add_mul_div_right _ _ (by decide), Nat.add_comm]

/-- A multiple is missing exactly where its whole seconds do not fit. -/
theorem scale?_eq_none_iff {d : Duration} {factor : UInt32} :
    d.scale? factor = none ↔ 2 ^ 64 ≤ d.nanoseconds * factor.toNat / 1000000000 := by
  rw [nanoseconds_mul_div, scale?]
  simp only [UInt64.size]
  split <;> simp <;> omega

end Duration

/-- The total of the pauses that were made, in nanoseconds. -/
def Polling.waited (p : Polling) : Nat := (p.pauses.map Duration.nanoseconds).sum

namespace LockPolicy

variable {policy : LockPolicy} {d : Duration}

/-- The length of all the pauses that a policy allows, in nanoseconds. -/
def allPauses (policy : LockPolicy) : Nat := policy.interval.nanoseconds * policy.attempts.toNat

theorem maxWait_eq_error_iff :
    policy.maxWait = .error .scaleDuration ↔ 2 ^ 64 ≤ policy.allPauses / 1000000000 := by
  rw [allPauses, ← Duration.scale?_eq_none_iff, maxWait]
  split <;> simp_all

theorem nanoseconds_of_maxWait (h : policy.maxWait = .ok d) : d.nanoseconds = policy.allPauses := by
  unfold maxWait at h
  split at h
  · next hscale =>
    cases h
    exact Duration.nanoseconds_of_scale? hscale
  · cases h

/-- A bound that fits is there. -/
theorem exists_maxWait (h : policy.allPauses / 1000000000 < 2 ^ 64) :
    ∃ d, policy.maxWait = .ok d := by
  cases hwait : policy.maxWait with
  | ok d => exact ⟨d, rfl⟩
  | error e =>
    unfold maxWait at hwait
    split at hwait
    · cases hwait
    · next hscale => exact absurd (Duration.scale?_eq_none_iff.mp hscale) (Nat.not_le.mpr h)

end LockPolicy

namespace Lock

/-- What polling waits is a pause for each retry that it made. -/
theorem waited_poll (policy : LockPolicy) (answers : Nat → LockAnswer) :
    (poll policy answers).2.waited =
      policy.interval.nanoseconds * (poll policy answers).2.pauses.length := by
  obtain ⟨hfinished, -⟩ := poll_ends policy answers
  rw [Polling.waited, hfinished.pauses]
  simp [Nat.mul_comm]

/-- Polling never waits longer than for all pauses. -/
theorem waited_poll_le (policy : LockPolicy) (answers : Nat → LockAnswer) :
    (poll policy answers).2.waited ≤ policy.allPauses := by
  obtain ⟨-, hends⟩ := poll_ends policy answers
  rw [waited_poll]
  exact Nat.mul_le_mul_left _ hends.within

end Lock

/-- A duration bounds what acquiring a handle by a policy waits, whatever the tries for the locks
answer: no polling takes longer, and one that is given up takes exactly as long. -/
structure LockPolicy.BoundedBy (policy : LockPolicy) (d : Duration) : Prop where
  within (answers : Nat → LockAnswer) : (Lock.poll policy answers).2.waited ≤ d.nanoseconds
  exact_of_timeout {h : Host} {path named : Text} {f : OpenFile} {answers : Nat → LockAnswer}
    {attempts : UInt32}
    (ht : (h.await policy path f answers).1 = .error (.lockTimeout named attempts)) :
    (Lock.poll policy answers).2.waited = d.nanoseconds
  /-- Where the host stays as it is meanwhile, every try answers the same. -/
  exact_of_acquire {h : Host} {path named : Text} {attempts : UInt32}
    (ht : (h.acquire policy path).1 = .error (.lockTimeout named attempts)) :
    ∃ f h₁, h.openFile path = (.ok f, h₁) ∧
      (Lock.poll policy fun _ => h₁.lockAnswer f).2.waited = d.nanoseconds

/-- What polling waits that is given up. -/
theorem Host.waited_of_timeout {h : Host} {policy : LockPolicy} {path named : Text} {f : OpenFile}
    {answers : Nat → LockAnswer} {attempts : UInt32}
    (ht : (h.await policy path f answers).1 = .error (.lockTimeout named attempts)) :
    (Lock.poll policy answers).2.waited = policy.allPauses := by
  -- The pauses that were made are those before the last try that the policy allows.
  obtain ⟨-, -, hlast, -⟩ :=
    ((h.awaited policy path f answers).timeout_iff _ named attempts).mp ⟨ht, rfl⟩
  rw [Lock.waited_poll, hlast, LockPolicy.allPauses]

/-- The length of all pauses bounds every polling. -/
theorem LockPolicy.boundedBy_of_maxWait {policy : LockPolicy} {d : Duration}
    (hd : policy.maxWait = .ok d) : policy.BoundedBy d where
  within answers := nanoseconds_of_maxWait hd ▸ Lock.waited_poll_le policy answers
  exact_of_timeout ht := nanoseconds_of_maxWait hd ▸ Host.waited_of_timeout ht
  exact_of_acquire {h path _ _} ht := by
    rw [Host.acquire_eq] at ht
    split at ht
    · cases ht
    · next f h₁ hopen =>
      exact ⟨f, h₁, hopen, nanoseconds_of_maxWait hd ▸ Host.waited_of_timeout ht⟩

namespace Config

variable (c : Config)

theorem allPauses_lockPolicy :
    c.lockPolicy.allPauses = c.attempts.toNat * c.interval.toNat * 1000000 := by
  rw [LockPolicy.allPauses, lockPolicy, Duration.nanoseconds_ofMillis, Nat.mul_right_comm,
    Nat.mul_comm c.attempts.toNat]

/-- The whole seconds of all pauses. -/
theorem allPauses_lockPolicy_div :
    c.lockPolicy.allPauses / 1000000000 = c.attempts.toNat * c.interval.toNat / 1000 := by
  rw [allPauses_lockPolicy]
  omega

/-- The bound on waiting that a configuration sets is missing exactly where its whole seconds do not
fit into 64 bits. Else it is exactly as long as so many pauses of so many milliseconds, and it
bounds every polling for a lock. -/
theorem maxWait_exact :
    (c.lockPolicy.maxWait = .error .scaleDuration ↔
        2 ^ 64 ≤ c.attempts.toNat * c.interval.toNat / 1000) ∧
      (c.attempts.toNat * c.interval.toNat / 1000 < 2 ^ 64 →
        ∃ d, c.lockPolicy.maxWait = .ok d ∧ d.nanos < 1000000000 ∧
          d.nanoseconds = c.attempts.toNat * c.interval.toNat * 1000000 ∧
          c.lockPolicy.BoundedBy d) := by
  constructor
  · rw [LockPolicy.maxWait_eq_error_iff, allPauses_lockPolicy_div]
  · intro hfits
    rw [← allPauses_lockPolicy_div] at hfits
    obtain ⟨d, hd⟩ := LockPolicy.exists_maxWait hfits
    have hlength := LockPolicy.nanoseconds_of_maxWait hd
    rw [allPauses_lockPolicy] at hlength
    exact ⟨d, hd, d.nanos_lt, hlength, LockPolicy.boundedBy_of_maxWait hd⟩

/-- The most retries that there can be, with the longest pause for which their bound fits. -/
def patient : Config := { attempts := 4294967295, interval := 4294967297000 }

/-- The bound of the most patient configuration has all the seconds that 64 bits can count, and so
long is waited for locks that are never free; with a pause one millisecond longer there is none. -/
theorem maxWait_exact_patient :
    patient.attempts.toNat * patient.interval.toNat / 1000 < 2 ^ 64 ∧
      (∃ d, patient.lockPolicy.maxWait = .ok d ∧
        d.nanoseconds = 18446744073709551615 * 1000000000 ∧
        (Lock.poll patient.lockPolicy fun _ => .contended).2.waited = d.nanoseconds) ∧
      { patient with interval := 4294967297001 }.lockPolicy.maxWait = .error .scaleDuration := by
  have hfits : patient.attempts.toNat * patient.interval.toNat / 1000 < 2 ^ 64 := by decide
  obtain ⟨d, hd, -, hlength, hbounds⟩ := (maxWait_exact patient).2 hfits
  have htimeout : ((Host.bare 0).await patient.lockPolicy ['p'] ⟨0, 0⟩ fun _ => .contended).1 =
      .error (.lockTimeout ['p'] 4294967295) :=
    ((((Host.bare 0).awaited patient.lockPolicy ['p'] ⟨0, 0⟩ fun _ => .contended).timeout_iff
      4294967295 ['p'] 4294967295).mpr ⟨rfl, rfl, rfl, fun _ _ => rfl⟩).1
  refine ⟨hfits, ⟨d, hd, hlength, hbounds.exact_of_timeout htimeout⟩, ?_⟩
  exact (maxWait_exact { patient with interval := 4294967297001 }).1.mpr (by decide)

end Config

end PortReservation
