import PortReservation.Text.Utf8

/-!
# Reading back UTF-8

The octets of a character lead the reader through the character and back between characters: the
first octet tells how many follow, each of the others adds six bits, and the ranges of the second
octet leave out exactly what no character is written as.

* `decode_encode`: a text reads back from its octets.
-/

namespace PortReservation

namespace Utf8

/-- An octet that goes on with a character, with the last six bits of a number. -/
def tailOctet (n : Nat) : UInt8 := UInt8.ofNat (n % 0x40 + 0x80)

theorem toNat_tailOctet (n : Nat) : (tailOctet n).toNat = n % 0x40 + 0x80 := by
  rw [tailOctet, UInt8.toNat_ofNat']
  omega

/-- An accepted octet adds its six bits. -/
theorem step_tailOctet {bits more n : Nat} {next : Tail}
    (h : next.accepts (tailOctet n) = true) :
    step (.inside bits more next) (tailOctet n) = continued (bits * 64 + n % 64) more := by
  rw [step, if_pos h, toNat_tailOctet, Nat.add_sub_cancel]

theorem accepts_tailOctet_iff (a : Tail) (n : Nat) :
    a.accepts (tailOctet n) = true ↔
      a.low.toNat ≤ n % 0x40 + 0x80 ∧ n % 0x40 + 0x80 ≤ a.high.toNat := by
  simp only [Tail.accepts, Bool.and_eq_true, decide_eq_true_eq, UInt8.le_iff_toNat_le,
    toNat_tailOctet]

theorem any_accepts (n : Nat) : Tail.any.accepts (tailOctet n) = true := by
  rw [accepts_tailOctet_iff]
  simp only [Tail.low, Tail.high, UInt8.reduceToNat]
  omega

/-- The second octet of three that start with the bits `n`: where a shorter form exists and where
the value would be a surrogate it is confined. -/
def secondOfThree (n : Nat) : Tail := if n = 0 then .fromA0 else if n = 0xD then .to9F else .any

/-- The second octet of four that start with the bits `n`. -/
def secondOfFour (n : Nat) : Tail := if n = 0 then .from90 else if n = 4 then .to8F else .any

theorem first_two : ∀ n < 0x20, 2 ≤ n →
    first (UInt8.ofNat (n + 0xC0)) = ([], .inside n 0 .any) := by decide

theorem first_three : ∀ n < 0x10,
    first (UInt8.ofNat (n + 0xE0)) = ([], .inside n 1 (secondOfThree n)) := by decide

theorem first_four : ∀ n < 5,
    first (UInt8.ofNat (n + 0xF0)) = ([], .inside n 2 (secondOfFour n)) := by decide

/-- The second octet of a character of three octets is accepted: its value is no surrogate. -/
theorem secondOfThree_accepts {v : Nat} (hlow : 0x7FF < v)
    (hsurrogate : v < 0xD800 ∨ 0xDFFF < v) :
    (secondOfThree (v / 4096)).accepts (tailOctet (v / 64)) = true := by
  unfold secondOfThree
  -- Of the values that need three octets none has a shorter form, and none is a surrogate.
  split
  · rw [accepts_tailOctet_iff]
    simp only [Tail.low, Tail.high, UInt8.reduceToNat]
    omega
  split
  · rw [accepts_tailOctet_iff]
    simp only [Tail.low, Tail.high, UInt8.reduceToNat]
    omega
  · exact any_accepts _

/-- The second octet of a character of four octets is accepted: its value is not too large. -/
theorem secondOfFour_accepts {v : Nat} (hlow : 0xFFFF < v) (hhigh : v < 0x110000) :
    (secondOfFour (v / 262144)).accepts (tailOctet (v / 4096)) = true := by
  unfold secondOfFour
  split
  · rw [accepts_tailOctet_iff]
    simp only [Tail.low, Tail.high, UInt8.reduceToNat]
    omega
  split
  · rw [accepts_tailOctet_iff]
    simp only [Tail.low, Tail.high, UInt8.reduceToNat]
    omega
  · exact any_accepts _

/-- The octets of a character by the length that its value needs. -/
theorem utf8EncodeChar_eq (c : Char) :
    String.utf8EncodeChar c =
      if c.toNat ≤ 0x7F then [UInt8.ofNat c.toNat]
      else if c.toNat ≤ 0x7FF then
        [UInt8.ofNat (c.toNat / 64 % 0x20 + 0xC0), tailOctet c.toNat]
      else if c.toNat ≤ 0xFFFF then
        [UInt8.ofNat (c.toNat / 4096 % 0x10 + 0xE0), tailOctet (c.toNat / 64), tailOctet c.toNat]
      else
        [UInt8.ofNat (c.toNat / 262144 % 0x08 + 0xF0), tailOctet (c.toNat / 4096),
          tailOctet (c.toNat / 64), tailOctet c.toNat] := rfl

/-- The octets of a character read as the character, whatever follows. -/
theorem decodeFrom_utf8EncodeChar (c : Char) (rest : List UInt8) :
    decodeFrom .start (String.utf8EncodeChar c ++ rest) = c :: decodeFrom .start rest := by
  have hvalid : c.toNat < 0xD800 ∨ 0xDFFF < c.toNat ∧ c.toNat < 0x110000 := c.valid
  rw [utf8EncodeChar_eq]
  -- One octet, then two, three and four.
  split
  · next h1 =>
    have hb : (UInt8.ofNat c.toNat).toNat = c.toNat := by
      rw [UInt8.toNat_ofNat']
      omega
    have hle : UInt8.ofNat c.toNat ≤ 0x7F := by
      rw [UInt8.le_iff_toNat_le, hb]
      exact h1
    simp [decodeFrom_cons, step, first_ascii hle, hb]
  split
  · next h1 h2 =>
    have hlead : c.toNat / 64 % 0x20 = c.toNat / 64 := Nat.mod_eq_of_lt (by omega)
    have hbits : c.toNat / 64 * 64 + c.toNat % 64 = c.toNat := by omega
    simp only [List.cons_append, List.nil_append, decodeFrom_cons, hlead, step.eq_1,
      first_two _ (show c.toNat / 64 < 0x20 by omega) (by omega), step_tailOctet (any_accepts _),
      continued, hbits, Char.ofNat_toNat]
  split
  · next h1 h2 h3 =>
    have hlead : c.toNat / 4096 % 0x10 = c.toNat / 4096 := Nat.mod_eq_of_lt (by omega)
    have hbits : (c.toNat / 4096 * 64 + c.toNat / 64 % 64) * 64 + c.toNat % 64 = c.toNat := by
      omega
    have hsecond := secondOfThree_accepts (v := c.toNat) (by omega) (by omega)
    simp only [List.cons_append, List.nil_append, decodeFrom_cons, hlead, step.eq_1,
      first_three _ (show c.toNat / 4096 < 0x10 by omega), step_tailOctet hsecond,
      step_tailOctet (any_accepts _), continued, hbits, Char.ofNat_toNat]
  · next h1 h2 h3 =>
    have hlead : c.toNat / 262144 % 0x08 = c.toNat / 262144 := Nat.mod_eq_of_lt (by omega)
    have hbits : ((c.toNat / 262144 * 64 + c.toNat / 4096 % 64) * 64 + c.toNat / 64 % 64) * 64 +
        c.toNat % 64 = c.toNat := by omega
    have hsecond := secondOfFour_accepts (v := c.toNat) (by omega) (by omega)
    simp only [List.cons_append, List.nil_append, decodeFrom_cons, hlead, step.eq_1,
      first_four _ (show c.toNat / 262144 < 5 by omega), step_tailOctet hsecond,
      step_tailOctet (any_accepts _), continued, hbits, Char.ofNat_toNat]

/-- A text reads back from its octets. -/
theorem decode_encode (t : Text) : decode (encode t) = t := by
  induction t with
  | nil => rfl
  | cons c t ih =>
    rw [encode, List.flatMap_cons, decode, decodeFrom_utf8EncodeChar]
    exact congrArg (c :: ·) ih

end Utf8

end PortReservation
