import PortReservation.Address.Writer
import PortReservation.Config.Reader
import PortReservation.Json.Writer

/-!
# Writing configurations

A configuration is written as a JSON object without spaces, its fields in their order; a ledger that
is not given is left out.
-/

namespace PortReservation

namespace Config

/-- The written form of the value of a field, if there is one. -/
def renderValue? (c : Config) : Field → Option Text
  | .variableName => some (Json.renderString c.variableName)
  | .ledger => c.ledger.map Json.renderString
  | .window => some c.window.render
  | .ttl => some c.ttl.render
  | .attempts => some (Decimal.ofNat c.attempts.toNat)
  | .interval => some (Decimal.ofNat c.interval.toNat)
  | .bindAddress => some (Json.renderString c.bindAddress.render)

/-- The written form of a field with its name. -/
def renderField? (c : Config) (f : Field) : Option Text :=
  (c.renderValue? f).map fun v => Json.renderString f.name ++ ':' :: v

/-- The written form of a configuration. -/
def render (c : Config) : Text :=
  '{' :: (List.intersperse [','] (Field.all.filterMap c.renderField?)).flatten ++ ['}']

end Config

end PortReservation
