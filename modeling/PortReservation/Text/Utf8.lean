import PortReservation.Text.Basic

/-!
# UTF-8

`encode` writes a text as octets. `decode` reads any octets, one at a time: where they are no
UTF-8, each maximal part of them that starts a character, and each octet that starts none, reads
as one replacement character.

* `decodeFrom_append_ascii`: an ASCII octet stands for itself whatever comes before it, so octets
  on one side of it never change what the other side reads as.
-/

namespace PortReservation

namespace Utf8

/-- Stands for octets that are no UTF-8. -/
def replacement : Char := '\uFFFD'

/-- The octets that may come next inside a character. The second octet of a character is confined
where a shorter form exists, where the value would be a surrogate, or where it would be too
large. -/
inductive Tail where
  | any
  | fromA0
  | to9F
  | from90
  | to8F
  deriving DecidableEq, Repr

def Tail.low : Tail → UInt8
  | .fromA0 => 0xA0
  | .from90 => 0x90
  | _ => 0x80

def Tail.high : Tail → UInt8
  | .to9F => 0x9F
  | .to8F => 0x8F
  | _ => 0xBF

def Tail.accepts (a : Tail) (b : UInt8) : Bool := a.low ≤ b && b ≤ a.high

/-- Where the reader stands between two octets. -/
inductive State where
  /-- Between characters. -/
  | start
  /-- Inside a character: its bits so far, the octets owed after the next one, and the next one. -/
  | inside (bits more : Nat) (next : Tail)
  deriving DecidableEq, Repr

/-- The characters read with an octet from between characters, and the state after it. -/
def first (b : UInt8) : Text × State :=
  if b ≤ 0x7F then ([Char.ofNat b.toNat], .start)
  else if 0xC2 ≤ b && b ≤ 0xDF then ([], .inside (b.toNat - 0xC0) 0 .any)
  else if b == 0xE0 then ([], .inside 0 1 .fromA0)
  else if b == 0xED then ([], .inside 0xD 1 .to9F)
  else if 0xE1 ≤ b && b ≤ 0xEF then ([], .inside (b.toNat - 0xE0) 1 .any)
  else if b == 0xF0 then ([], .inside 0 2 .from90)
  else if 0xF1 ≤ b && b ≤ 0xF3 then ([], .inside (b.toNat - 0xF0) 2 .any)
  else if b == 0xF4 then ([], .inside 4 2 .to8F)
  else ([replacement], .start)

/-- The state after an octet of a character: its bits with those of the octet. -/
def continued (bits : Nat) : Nat → Text × State
  | 0 => ([Char.ofNat bits], .start)
  | more + 1 => ([], .inside bits more .any)

/-- The characters read with an octet, and the state after it. An octet that cannot go on with a
character ends it as a replacement and is read from between characters. -/
def step : State → UInt8 → Text × State
  | .start, b => first b
  | .inside bits more next, b =>
    if next.accepts b then continued (bits * 64 + (b.toNat - 0x80)) more
    else (replacement :: (first b).1, (first b).2)

/-- Reads octets from a state; a character that is cut off at the end is a replacement. -/
def decodeFrom : State → List UInt8 → Text
  | .start, [] => []
  | .inside .., [] => [replacement]
  | s, b :: r => (step s b).1 ++ decodeFrom (step s b).2 r

/-- The text of any octets. -/
def decode (octets : List UInt8) : Text := decodeFrom .start octets

/-- The octets of a text. -/
def encode (t : Text) : List UInt8 := t.flatMap String.utf8EncodeChar

/-- The text of octets that are UTF-8. -/
def decode? (octets : List UInt8) : Option Text :=
  if encode (decode octets) = octets then some (decode octets) else none

theorem decodeFrom_cons (s : State) (b : UInt8) (r : List UInt8) :
    decodeFrom s (b :: r) = (step s b).1 ++ decodeFrom (step s b).2 r := by
  cases s <;> rfl

theorem first_ascii {b : UInt8} (h : b ≤ 0x7F) : first b = ([Char.ofNat b.toNat], .start) := by
  simp [first, h]

theorem Tail.not_accepts_ascii (a : Tail) {b : UInt8} (h : b ≤ 0x7F) : a.accepts b = false := by
  have hl : ¬ (0x80 : UInt8) ≤ b := by
    rw [UInt8.le_iff_toNat_le] at h ⊢
    simp at h ⊢
    omega
  have hlow : (0x80 : UInt8) ≤ a.low := by cases a <;> decide
  have hn : ¬ a.low ≤ b := fun h' => hl (UInt8.le_trans hlow h')
  simp [accepts, hn]

/-- An ASCII octet stands for itself, behind the replacement of a character that it cuts off. -/
theorem step_ascii (s : State) {b : UInt8} (h : b ≤ 0x7F) :
    step s b = (decodeFrom s [] ++ [Char.ofNat b.toNat], .start) := by
  cases s with
  | start => simp [step, first_ascii h, decodeFrom]
  | inside bits more next => simp [step, next.not_accepts_ascii h, first_ascii h, decodeFrom]

/-- Octets on one side of an ASCII octet never change what the other side reads as. -/
theorem decodeFrom_append_ascii (s : State) (a : List UInt8) {b : UInt8} (h : b ≤ 0x7F)
    (r : List UInt8) :
    decodeFrom s (a ++ b :: r) = decodeFrom s (a ++ [b]) ++ decode r := by
  induction a generalizing s with
  | nil => simp [decodeFrom_cons, step_ascii s h, decode, decodeFrom]
  | cons c a ih => simp [decodeFrom_cons, ih]

end Utf8

end PortReservation
