import PortReservation.Address.Writer
import PortReservation.Shared
import PortReservation.Text.Quoted

/-!
# Descriptions

The settings of ledgers and allocators as a line of text for people.
-/

namespace PortReservation

/-- The name of a type with some of its fields between braces. -/
def describeFields (typeName : String) (fields : List (String × Text)) : Text :=
  typeName.toList ++ " \x7b ".toList ++
    (List.intersperse ", ".toList
      (fields.map fun f => f.1.toList ++ ": ".toList ++ f.2)).flatten ++ " \x7d".toList

def LockPolicy.describe (p : LockPolicy) : Text :=
  describeFields "LockPolicy"
    [("attempts", Decimal.ofNat p.attempts.toNat), ("interval", p.interval.render)]

/-- The settings of a ledger. -/
def Ledger.describe (l : Ledger) : Text :=
  describeFields "ReservationLedger"
    [("path", Quoted.text l.path), ("ttl_ms", l.ttl.render), ("lock_policy", l.policy.describe)]

/-- A path that may be missing. -/
def describePath : Option Text → Text
  | none => "None".toList
  | some path => "Some(".toList ++ Quoted.text path ++ [')']

def Config.describe (c : Config) : Text :=
  describeFields "AllocatorConfig"
    [("lock_file_env", Quoted.text c.variableName), ("lock_file", describePath c.ledger),
      ("debounce_window_ms", c.window.render), ("reservation_ttl_ms", c.ttl.render),
      ("lock_retry_attempts", Decimal.ofNat c.attempts.toNat),
      ("lock_retry_interval_ms", Decimal.ofNat c.interval.toNat),
      ("bind_address", c.bindAddress.render)]

/-- The settings of an allocator; what it did is left out. -/
def Allocator.describe (a : Allocator) : Text :=
  "PortAllocator \x7b config: ".toList ++ a.config.describe ++ ", .. \x7d".toList

end PortReservation
