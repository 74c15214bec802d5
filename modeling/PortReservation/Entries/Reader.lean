import PortReservation.Entries.Basic
import PortReservation.Text.Lines

/-!
# Reading entries

Each line holds at most one entry. Leading blanks do not count; an empty line and one that starts
with `#` or `!` is a comment. The key ends at the first `=`, `:` or blank that no backslash
precedes; blanks, then at most one `=` or `:` where a blank ended the key, then blanks again stand
between key and value. A backslash takes the next character as it is, but for `t`, `n`, `r` and
`f`; at the end of a line it stands for nothing. A line with an empty key is skipped. No text is
refused.

* `parse_append`: the entries of a text cut behind a line feed are those of its first part,
  overridden by those of its second part.
-/

namespace PortReservation

namespace Entries

/-- What a character stands for behind a backslash. -/
def unescapeChar (c : Char) : Char :=
  if c = 't' then '\t'
  else if c = 'n' then '\n'
  else if c = 'r' then '\r'
  else if c = 'f' then '\x0c'
  else c

/-- Replaces each backslash and the character behind it; a last lone backslash goes. -/
def unescape : Text → Text
  | [] => []
  | c :: t =>
    if c = '\\' then
      match t with
      | [] => []
      | d :: r => unescapeChar d :: unescape r
    else c :: unescape t

/-- Whether a character separates a key from its value. -/
def isMark (c : Char) : Bool := c == '=' || c == ':'

/-- The text behind one separator mark, if it starts with one. -/
def dropMark : Text → Text
  | [] => []
  | c :: t => if isMark c then t else c :: t

/-- The value behind a key that a mark ended. -/
def valueAfterMark (t : Text) : Text := unescape (Text.trimStart t)

/-- The value behind a key that a blank ended. -/
def valueAfterBlank (t : Text) : Text := valueAfterMark (dropMark (Text.trimStart t))

/-- The key and the value of a line without leading blanks. -/
def splitLine : Text → Text × Text
  | [] => ([], [])
  | c :: t =>
    if c = '\\' then
      match t with
      | [] => ([], [])
      | d :: r => (unescapeChar d :: (splitLine r).1, (splitLine r).2)
    else if isMark c then ([], valueAfterMark t)
    else if isBlank c then ([], valueAfterBlank t)
    else (c :: (splitLine t).1, (splitLine t).2)

/-- Whether a line without leading blanks is a comment. -/
def isComment : Text → Bool
  | [] => true
  | c :: _ => c == '#' || c == '!'

/-- The entry of a line, if it has one. -/
def readLine (line : Text) : Option (Text × Text) :=
  let t := Text.trimStart line
  if isComment t || (splitLine t).1.isEmpty then none else some (splitLine t)

/-- The entries of a text; of two lines with the same key the later one counts. -/
def parse (t : Text) : Entries := OrderedMap.ofList ((Text.lines t).filterMap readLine)

/-- The entries of a text cut behind a line feed. -/
theorem parse_append (a b : Text) :
    parse (a ++ '\n' :: b) =
      (parse (a ++ ['\n'])).insertAll ((Text.lines b).filterMap readLine) := by
  rw [parse, Text.lines_append, List.filterMap_append]
  exact List.foldl_append

end Entries

end PortReservation
