import PortReservation.Json.Basic

/-!
# Reading JSON

Strict JSON: spaces are space, tab, line feed and carriage return; no comments, no comma behind the
last member or element; numbers without leading zeros; in strings no raw control character, and only
the eight short escapes and `\u` with four hexadecimal digits. Values nest to any depth.
-/

namespace PortReservation

namespace Json

def isSpace (c : Char) : Bool := c == ' ' || c == '\t' || c == '\n' || c == '\r'

/-- The text without its leading spaces. -/
def skipSpace (t : Text) : Text := t.dropWhile isSpace

/-- The character that a letter behind a backslash stands for. -/
def shortEscape? (c : Char) : Option Char :=
  if c = '"' ∨ c = '\\' ∨ c = '/' then some c
  else if c = 'b' then some '\x08'
  else if c = 'f' then some '\x0c'
  else if c = 'n' then some '\n'
  else if c = 'r' then some '\r'
  else if c = 't' then some '\t'
  else none

/-- The unit of four hexadecimal digits. -/
def unit? (a b c d : Char) : Option UInt16 :=
  if [a, b, c, d].all Hex.isDigit then some (UInt16.ofNat (Hex.ofDigits [a, b, c, d])) else none

/-- Reads a string behind its opening quote, up to and with its closing quote. -/
def readPieces : Text → Option (List Piece × Text)
  | [] => none
  | c :: t =>
    if c = '"' then some ([], t)
    else if c = '\\' then
      match t with
      | [] => none
      | e :: r =>
        if e = 'u' then
          match r with
          | h₁ :: h₂ :: h₃ :: h₄ :: s =>
            match unit? h₁ h₂ h₃ h₄ with
            | some u => (readPieces s).map fun p => (.unit u :: p.1, p.2)
            | none => none
          | _ => none
        else
          match shortEscape? e with
          | some d => (readPieces r).map fun p => (.char d :: p.1, p.2)
          | none => none
    else if c.toNat < 0x20 then none
    else (readPieces t).map fun p => (.char c :: p.1, p.2)

/-- Reads one or more digits. -/
def readDigits (t : Text) : Option (Text × Text) :=
  let digits := t.takeWhile Char.isDigit
  if digits.isEmpty then none else some (digits, t.dropWhile Char.isDigit)

/-- What follows the fraction of a number, if it has one. -/
def skipFraction : Text → Option Text
  | '.' :: t => (readDigits t).map (·.2)
  | t => some t

/-- What follows a sign, if there is one. -/
def skipSign : Text → Text
  | '+' :: t => t
  | '-' :: t => t
  | t => t

/-- What follows the exponent of a number, if it has one. -/
def skipExponent : Text → Option Text
  | 'e' :: t => (readDigits (skipSign t)).map (·.2)
  | 'E' :: t => (readDigits (skipSign t)).map (·.2)
  | t => some t

/-- Reads a number without its sign. -/
def readUnsigned (negative : Bool) (t : Text) : Option (Number × Text) := do
  let (digits, behind) ← readDigits t
  if 1 < digits.length ∧ digits.head? = some '0' then none
  else
    let rest ← skipExponent (← skipFraction behind)
    return (⟨negative, digits, rest.length = behind.length⟩, rest)

/-- Reads a number. -/
def readNumber : Text → Option (Number × Text)
  | '-' :: t => readUnsigned true t
  | t => readUnsigned false t

/-- Reads null or a truth value. -/
def readWord (t : Text) : Option (Value × Text) :=
  ((Text.after? "null".toList t).map fun r => (Value.null, r)).or
    (((Text.after? "true".toList t).map fun r => (Value.bool true, r)).or
      ((Text.after? "false".toList t).map fun r => (Value.bool false, r)))

/-- Reads a value that is no container. -/
def readScalar : Text → Option (Value × Text)
  | [] => none
  | c :: t =>
    if c = '"' then (readPieces t).map fun p => (.string p.1, p.2)
    else if c = '-' ∨ c.isDigit then (readNumber (c :: t)).map fun p => (.number p.1, p.2)
    else readWord (c :: t)

mutual

/-- Reads a value; its fuel bounds the nesting and the lengths of containers. -/
def readValue : (fuel : Nat) → Text → Option (Value × Text)
  | 0, _ => none
  | fuel + 1, t =>
    match skipSpace t with
    | [] => none
    | c :: r =>
      if c = '{' then (readObject fuel r).map fun p => (.container, p.2)
      else if c = '[' then (readArray fuel r).map fun p => (.container, p.2)
      else readScalar (c :: r)

/-- Reads the members of an object behind its opening brace, up to and with its closing brace. -/
def readObject : (fuel : Nat) → Text → Option (List (List Piece × Value) × Text)
  | 0, _ => none
  | fuel + 1, t =>
    match skipSpace t with
    | '}' :: r => some ([], r)
    | r => readMembers fuel r

/-- Reads one or more members. -/
def readMembers : (fuel : Nat) → Text → Option (List (List Piece × Value) × Text)
  | 0, _ => none
  | fuel + 1, t => do
    let (key, t) ← readPieces (← Text.after? ['"'] (skipSpace t))
    let (value, t) ← readValue fuel (← Text.after? [':'] (skipSpace t))
    match skipSpace t with
    | ',' :: r =>
      let (members, rest) ← readMembers fuel r
      return ((key, value) :: members, rest)
    | '}' :: r => return ([(key, value)], r)
    | _ => none

/-- Reads the elements of an array behind its opening bracket, up to and with its closing one. -/
def readArray : (fuel : Nat) → Text → Option (List Value × Text)
  | 0, _ => none
  | fuel + 1, t =>
    match skipSpace t with
    | ']' :: r => some ([], r)
    | r => readElements fuel r

/-- Reads one or more elements. -/
def readElements : (fuel : Nat) → Text → Option (List Value × Text)
  | 0, _ => none
  | fuel + 1, t => do
    let (value, t) ← readValue fuel t
    match skipSpace t with
    | ',' :: r =>
      let (elements, rest) ← readElements fuel r
      return (value :: elements, rest)
    | ']' :: r => return ([value], r)
    | _ => none

end

/-- Enough fuel for a text: each character is the reason for at most three steps. -/
def fuel (t : Text) : Nat := 3 * t.length + 3

/-- What a text holds, if it is an object or an array with nothing but spaces around it. -/
def read? (t : Text) : Option Document := do
  let (document, rest) ← match skipSpace t with
    | '{' :: r => (readObject (fuel t) r).map fun p => (Document.object p.1, p.2)
    | '[' :: r => (readArray (fuel t) r).map fun p => (Document.array p.1, p.2)
    | _ => none
  if (skipSpace rest).isEmpty then some document else none

end Json

end PortReservation
