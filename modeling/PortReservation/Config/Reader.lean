import PortReservation.Address.Reader
import PortReservation.Config.Basic
import PortReservation.Json.Reader

/-!
# Reading configurations

A configuration is a JSON object with any of the known fields, each at most once; unknown fields do
not count, and absent ones keep their defaults. It may also be an array of the fields' values in
their order, of which the last ones may be missing. Numbers are integers in range.
-/

namespace PortReservation

namespace Config

/-- A field of a configuration. -/
inductive Field where
  | variableName
  | ledger
  | window
  | ttl
  | attempts
  | interval
  | bindAddress
  deriving DecidableEq, Repr

namespace Field

/-- All fields, in the order of a configuration. -/
def all : List Field := [variableName, ledger, window, ttl, attempts, interval, bindAddress]

/-- The name of a field in a document. -/
def name : Field → Text
  | variableName => "lockFileEnv".toList
  | ledger => "lockFile".toList
  | window => "debounceWindowMs".toList
  | ttl => "reservationTtlMs".toList
  | attempts => "lockRetryAttempts".toList
  | interval => "lockRetryIntervalMs".toList
  | bindAddress => "bindAddress".toList

/-- The field with a name. -/
def ofName? (name : Text) : Option Field := all.find? fun f => f.name == name

end Field

/-- The text that a value is. -/
def text? : Json.Value → Option Text
  | .string s => Json.decode s
  | _ => none

/-- The integer that a value is. -/
def integer? : Json.Value → Option Int
  | .number n => n.toInt?
  | _ => none

/-- The natural number below a bound that a value is. -/
def natural? (bound : Nat) (v : Json.Value) : Option Nat := do
  let n ← integer? v
  if 0 ≤ n ∧ n < bound then some n.toNat else none

/-- The configuration with the value of a field, where it has the type of the field. -/
def set? (c : Config) (f : Field) (v : Json.Value) : Option Config :=
  match f with
  | .variableName => (text? v).map fun t => { c with variableName := t }
  | .ledger =>
    if v = .null then some { c with ledger := none }
    else (text? v).map fun t => { c with ledger := some t }
  | .window => ((integer? v).bind Millis.ofInt?).map fun w => { c with window := w }
  | .ttl => ((integer? v).bind Millis.ofInt?).map fun t => { c with ttl := t }
  | .attempts =>
    (natural? UInt32.size v).map fun n => { c with attempts := UInt32.ofNat n }
  | .interval =>
    (natural? UInt64.size v).map fun n => { c with interval := UInt64.ofNat n }
  | .bindAddress =>
    ((text? v).bind IpAddress.read?).map fun ip => { c with bindAddress := ip }

/-- Sets the fields of some members, none of them in `seen` or twice. -/
def setMembers (seen : List Field) (c : Config) :
    List (List Json.Piece × Json.Value) → Option Config
  | [] => some c
  | (key, v) :: r =>
    match Json.decode key with
    | none => none
    | some name =>
      match Field.ofName? name with
      | none => setMembers seen c r
      | some f =>
        if f ∈ seen then none
        else
          match c.set? f v with
          | none => none
          | some c' => setMembers (f :: seen) c' r

/-- Sets the first of some fields to some values, of which there are no more than fields. -/
def setElements (c : Config) : List Field → List Json.Value → Option Config
  | _, [] => some c
  | [], _ :: _ => none
  | f :: fs, v :: vs =>
    match c.set? f v with
    | none => none
    | some c' => setElements c' fs vs

/-- The configuration that a text holds. -/
def read? (t : Text) : Option Config :=
  match Json.read? t with
  | none => none
  | some (.object members) => setMembers [] {} members
  | some (.array elements) => setElements {} Field.all elements

end Config

end PortReservation
