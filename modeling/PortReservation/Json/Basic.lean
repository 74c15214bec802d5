import PortReservation.Text.Hex

/-!
# JSON values

What a JSON text holds, as far as a configuration needs it: the members of an object or the elements
of an array, each of them null, a truth value, a number, a string, or a container that is checked
and not kept. A string is kept as it is spelt, so that only strings that are used have to be text.
-/

namespace PortReservation

namespace Json

/-- A part of a string as it is spelt: a character, or a UTF-16 unit by its number. -/
inductive Piece where
  | char (c : Char)
  | unit (u : UInt16)
  deriving DecidableEq

def isHighSurrogate (u : UInt16) : Bool := 0xD800 ≤ u && u ≤ 0xDBFF

def isLowSurrogate (u : UInt16) : Bool := 0xDC00 ≤ u && u ≤ 0xDFFF

/-- The character of a surrogate pair. -/
def ofSurrogates (high low : UInt16) : Char :=
  Char.ofNat (0x10000 + (high.toNat - 0xD800) * 0x400 + (low.toNat - 0xDC00))

/-- The text that a string stands for. A surrogate without its partner stands for none. -/
def decode : List Piece → Option Text
  | [] => some []
  | .char c :: r => (decode r).map (c :: ·)
  | .unit u :: r =>
    if isHighSurrogate u then
      match r with
      | .unit v :: s => if isLowSurrogate v then (decode s).map (ofSurrogates u v :: ·) else none
      | _ => none
    else if isLowSurrogate u then none
    else (decode r).map (Char.ofNat u.toNat :: ·)

/-- A number as it is spelt: its sign, the digits before a point, and whether nothing follows. -/
structure Number where
  negative : Bool
  digits : Text
  isInteger : Bool
  deriving DecidableEq

/-- The integer that a number is. A negative zero is none. -/
def Number.toInt? (n : Number) : Option Int :=
  let magnitude := Nat.ofDigitChars 10 n.digits 0
  if !n.isInteger then none
  else if !n.negative then some magnitude
  else if magnitude = 0 then none
  else some (-magnitude)

/-- A value inside a document. -/
inductive Value where
  | null
  | bool (b : Bool)
  | number (n : Number)
  | string (s : List Piece)
  /-- An object or an array, whatever it holds. -/
  | container
  deriving DecidableEq

/-- A whole text: an object with its members in order, or an array. -/
inductive Document where
  | object (members : List (List Piece × Value))
  | array (elements : List Value)
  deriving DecidableEq

end Json

end PortReservation
