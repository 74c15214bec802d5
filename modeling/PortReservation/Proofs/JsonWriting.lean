import Mathlib.Data.List.Forall2
import PortReservation.Json.Writer
import PortReservation.Proofs.JsonForms

/-!
# Written JSON

What is written without spaces is in the grammar: each character of a string with the escape that it
needs, each integer in its decimal form, and members with commas between. It stands for what it was
written for.

* `writtenPieces_escape`, `decode_pieces`: strings.
* `writtenNumber_ofInt`, `toInt?_numberOf`: integers.
* `writtenObject_commas`: objects.
-/

namespace PortReservation

namespace Json

/-! ## Strings -/

/-- The piece of a string that a character is written as: by number, if it is a control character
without a letter of its own. -/
def pieceOf (c : Char) : Piece :=
  if shortEscapeOf? c = none ∧ c.toNat < 0x20 then .unit (UInt16.ofNat c.toNat) else .char c

/-- A character that has a letter stands for itself behind a backslash. -/
theorem shortEscape_of {c e : Char} (h : shortEscapeOf? c = some e) : ShortEscape e c := by
  unfold shortEscapeOf? at h
  split at h
  · next hc =>
    cases h
    rcases hc with rfl | rfl
    · exact .quote
    · exact .backslash
  split at h
  · next hc => cases h; exact hc ▸ .backspace
  split at h
  · next hc => cases h; exact hc ▸ .formFeed
  split at h
  · next hc => cases h; exact hc ▸ .lineFeed
  split at h
  · next hc => cases h; exact hc ▸ .carriageReturn
  split at h
  · next hc => cases h; exact hc ▸ .tab
  · cases h

theorem writtenPiece_escapeChar (c : Char) : WrittenPiece (pieceOf c) (escapeChar c) := by
  cases he : shortEscapeOf? c with
  | some e => simpa [pieceOf, escapeChar, he] using WrittenPiece.short (shortEscape_of he)
  | none =>
    by_cases hcontrol : c.toNat < 0x20
    · have hhigh := Hex.digitValue?_digitChar (c.toNat / 16) (by omega)
      have hlow := Hex.digitValue?_digitChar (c.toNat % 16) (Nat.mod_lt _ (by decide))
      have hzero : Hex.digitValue? '0' = some 0 := by decide
      have hvalue : ((0 * 16 + 0) * 16 + c.toNat / 16) * 16 + c.toNat % 16 = c.toNat := by omega
      have hwritten := WrittenPiece.number hzero hzero hhigh hlow
      rw [hvalue] at hwritten
      simpa [pieceOf, escapeChar, he, hcontrol] using hwritten
    · have hplain : c ≠ '"' ∧ c ≠ '\\' := by
        constructor <;> rintro rfl <;> exact absurd he (by decide)
      simpa [pieceOf, escapeChar, he, hcontrol] using
        WrittenPiece.plain hplain.1 hplain.2 (Nat.not_lt.mp hcontrol)

/-- A text between its quotes. -/
theorem writtenPieces_escape (t : Text) :
    WrittenPieces (t.map pieceOf) (t.flatMap escapeChar) := by
  induction t with
  | nil => exact .nil
  | cons c t ih => exact .cons (writtenPiece_escapeChar c) ih

/-- A control character by number stands for the character. -/
theorem decode_pieces (t : Text) : decode (t.map pieceOf) = some t := by
  induction t with
  | nil => rfl
  | cons c t ih =>
    rw [List.map_cons, pieceOf]
    split
    · next h =>
      have hnat : (UInt16.ofNat c.toNat).toNat = c.toNat :=
        UInt16.toNat_ofNat_of_lt' (Nat.lt_of_lt_of_le h.2 (by decide))
      have hhigh : isHighSurrogate (UInt16.ofNat c.toNat) = false := by
        simp [isHighSurrogate, UInt16.le_iff_toNat_le, hnat]
        omega
      have hlow : isLowSurrogate (UInt16.ofNat c.toNat) = false := by
        simp [isLowSurrogate, UInt16.le_iff_toNat_le, hnat]
        omega
      rw [decode.eq_def]
      simp [hhigh, hlow, ih, hnat]
    · rw [decode, ih, Option.map_some]

theorem writtenValue_renderString (t : Text) :
    WrittenValue (.string (t.map pieceOf)) (renderString t) :=
  .string (writtenPieces_escape t)

/-! ## Integers -/

/-- An integer as a number that is written in decimal. -/
def numberOf (i : Int) : Number := ⟨i < 0, Decimal.ofNat i.natAbs, true⟩

theorem whole_ofNat (n : Nat) : Whole (Decimal.ofNat n) where
  ne_nil := Nat.toDigits_ne_nil
  all _ hc := Decimal.isDigit_of_mem_ofNat hc
  head hlength := Decimal.head?_ne_zero hlength

theorem writtenNumber_ofInt (i : Int) : WrittenNumber (numberOf i) (Decimal.ofInt i) := by
  have hwhole := whole_ofNat i.natAbs
  unfold numberOf Decimal.ofInt
  split
  · next h => simpa [h] using WrittenNumber.negative hwhole .absent .absent
  · next h => simpa [h] using WrittenNumber.positive hwhole .absent .absent

theorem toInt?_numberOf (i : Int) : (numberOf i).toInt? = some i := by
  have hvalue : Nat.ofDigitChars 10 (Decimal.ofNat i.natAbs) 0 = i.natAbs :=
    Nat.ofDigitChars_ten_toDigits
  simp only [Number.toInt?, numberOf, hvalue]
  by_cases h : i < 0
  · have hne : i.natAbs ≠ 0 := by omega
    have habs : -(i.natAbs : Int) = i := by omega
    rw [habs]
    simp [h, hne]
  · have habs : (i.natAbs : Int) = i := by omega
    rw [habs]
    simp [h]

/-! ## Objects -/

/-- A member without spaces. -/
theorem writtenMember_compact {v : Value} {t : Text} (name : Text) (h : WrittenValue v t) :
    WrittenMember (name.map pieceOf, v) (renderString name ++ ':' :: t) := by
  have hspaces : Spaces [] := by decide
  simpa [renderString] using
    WrittenMember.mk hspaces (writtenPieces_escape name) hspaces hspaces h hspaces

/-- Members with commas between. -/
theorem writtenMembers_commas {ms : List (List Piece × Value)} {ts : List Text}
    (h : List.Forall₂ WrittenMember ms ts) (hne : ms ≠ []) :
    WrittenMembers ms (ts.intersperse [',']).flatten := by
  induction h with
  | nil => exact absurd rfl hne
  | @cons m t ms ts hm hms ih =>
    cases hms with
    | nil => simpa using WrittenMembers.last hm
    | cons hm' hms' => simpa using WrittenMembers.more hm (ih (by simp))

/-- An object without spaces. -/
theorem writtenObject_commas {ms : List (List Piece × Value)} {ts : List Text}
    (h : List.Forall₂ WrittenMember ms ts) :
    WrittenObject ms ('{' :: ((ts.intersperse [',']).flatten ++ ['}'])) := by
  cases ms with
  | nil =>
    cases h
    exact .empty (by decide)
  | cons m ms => exact .members (writtenMembers_commas h (by simp))

end Json

end PortReservation
