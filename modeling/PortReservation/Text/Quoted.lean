import PortReservation.Text.Hex
import PortReservation.Text.Shown

/-!
# Quoted text

A text between double quotes, as a description of a value shows it. Backslash, double quote, tab,
line feed, carriage return and NUL are escaped by a letter or themselves; other characters that
cannot be shown are escaped by number. A single quote needs no escape.
-/

namespace PortReservation

namespace Quoted

/-- The shown form of a character. -/
def escapeChar (c : Char) : Text :=
  if c = '\x00' then ['\\', '0']
  else if c = '\t' then ['\\', 't']
  else if c = '\r' then ['\\', 'r']
  else if c = '\n' then ['\\', 'n']
  else if c = '\\' ∨ c = '"' then ['\\', c]
  else if isShown c then [c]
  else '\\' :: 'u' :: '{' :: Hex.ofNat c.toNat ++ ['}']

/-- A text between quotes. -/
def text (t : Text) : Text := '"' :: t.flatMap escapeChar ++ ['"']

end Quoted

end PortReservation
