import PortReservation.Address.Basic
import PortReservation.Debounce
import PortReservation.Lock.Policy

/-!
# Configurations

What an allocator can be told: where its ledger is, how long it debounces, how long reservations
live, how long it waits for a lock, and the address whose ports it probes.
-/

namespace PortReservation

/-- The environment variable that names the ledger unless another one is given. -/
def Config.defaultVariable : Text := "PORT_LEDGER_FILE".toList

/-- How long a reservation lives unless another span is given. -/
def Config.defaultTtl : Millis := 30000

/-- The configuration of an allocator. -/
structure Config where
  /-- The environment variable that names the ledger. -/
  variableName : Text := Config.defaultVariable
  /-- The ledger where the environment names none. -/
  ledger : Option Text := none
  /-- How long a port that was handed out is skipped. -/
  window : Millis := Debounce.defaultWindow
  /-- How long a reservation lives. -/
  ttl : Millis := Config.defaultTtl
  /-- How often to retry a lock. -/
  attempts : UInt32 := LockPolicy.defaultAttempts
  /-- How long to pause before a retry, in milliseconds. -/
  interval : UInt64 := 10
  /-- The address whose ports are probed. -/
  bindAddress : IpAddress := .anyV4
  deriving DecidableEq

namespace Config

/-- What makes a configuration unusable. -/
inductive Problem where
  | emptyVariable
  | negativeWindow (window : Millis)
  | negativeTtl (ttl : Millis)
  deriving DecidableEq

/-- The text of a problem. -/
def Problem.message : Problem → Text
  | .emptyVariable => "lockFileEnv must not be empty".toList
  | .negativeWindow w => "debounceWindowMs must not be negative: ".toList ++ w.render
  | .negativeTtl t => "reservationTtlMs must not be negative: ".toList ++ t.render

/-- The lock policy of a configuration. -/
def lockPolicy (c : Config) : LockPolicy where
  attempts := c.attempts
  interval := Duration.ofMillis c.interval

/-- The first problem of a configuration. -/
def problem? (c : Config) : Option Problem :=
  if c.variableName.isEmpty then some .emptyVariable
  else if c.window < 0 then some (.negativeWindow c.window)
  else if c.ttl < 0 then some (.negativeTtl c.ttl)
  else none

/-- Refuses a configuration that has a problem. -/
def validate (c : Config) : Except Error Unit :=
  match c.problem? with
  | some p => .error (.config p.message)
  | none => .ok ()

end Config

end PortReservation
