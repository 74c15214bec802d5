import PortReservation.Entries.Basic

/-!
# Writing entries

Two comment lines, a header and a time stamp, then a line per entry in ascending order of keys. A
backslash stands before each backslash, `=`, `:`, `#` and `!`; tab, line feed and carriage return
are written as letters behind a backslash; a space gets a backslash anywhere in a key and at the
start of a value. Every other character, and the header, is written as it is.
-/

namespace PortReservation

namespace Entries

/-- A character of a key or value, a space apart. -/
def escapeChar (c : Char) : Text :=
  if c = '\\' then ['\\', '\\']
  else if c = '\t' then ['\\', 't']
  else if c = '\n' then ['\\', 'n']
  else if c = '\r' then ['\\', 'r']
  else if c = '=' ∨ c = ':' ∨ c = '#' ∨ c = '!' then ['\\', c]
  else [c]

/-- A character of a key, or the first one of a value. -/
def escapeSpace (c : Char) : Text := if c = ' ' then ['\\', ' '] else escapeChar c

/-- The written form of a key. -/
def escapeKey (key : Text) : Text := key.flatMap escapeSpace

/-- The written form of a value. -/
def escapeValue : Text → Text
  | [] => []
  | c :: t => escapeSpace c ++ t.flatMap escapeChar

/-- The line of an entry, with its line feed. -/
def renderEntry (e : Text × Text) : Text :=
  escapeKey e.1 ++ '=' :: escapeValue e.2 ++ ['\n']

/-- The text of a ledger file with a header and a time stamp. -/
def render (header stamp : Text) (m : Entries) : Text :=
  '#' :: header ++ '\n' :: '#' :: stamp ++ '\n' :: m.toList.flatMap renderEntry

end Entries

end PortReservation
