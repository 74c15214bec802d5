import PortReservation.OrderedMap
import PortReservation.Text.Basic

/-!
# Entries of a ledger

A ledger file holds entries: a key and a value, any text each. Keys are distinct and ascend by code
point.
-/

namespace PortReservation

/-- Keys with their values, ascending by code point. -/
abbrev Entries := OrderedMap Text Text

namespace Entries

/-- The first comment line of a ledger file, without its number sign. -/
def header : Text := "Port reservations".toList

end Entries

end PortReservation
