import PortReservation.Json.Basic

/-!
# Writing JSON strings

A quote, a backslash and a control character are escaped, with a letter where there is one and by
number otherwise; every other character is written as it is.
-/

namespace PortReservation

namespace Json

/-- The letter behind a backslash that stands for a character. -/
def shortEscapeOf? (c : Char) : Option Char :=
  if c = '"' ∨ c = '\\' then some c
  else if c = '\x08' then some 'b'
  else if c = '\x0c' then some 'f'
  else if c = '\n' then some 'n'
  else if c = '\r' then some 'r'
  else if c = '\t' then some 't'
  else none

/-- The written form of a character. -/
def escapeChar (c : Char) : Text :=
  match shortEscapeOf? c with
  | some e => ['\\', e]
  | none =>
    if c.toNat < 0x20 then
      ['\\', 'u', '0', '0', (c.toNat / 16).digitChar, (c.toNat % 16).digitChar]
    else [c]

/-- The written form of a text, with its quotes. -/
def renderString (t : Text) : Text := '"' :: t.flatMap escapeChar ++ ['"']

end Json

end PortReservation
