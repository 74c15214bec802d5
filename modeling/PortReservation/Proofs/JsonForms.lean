import PortReservation.Json.Reader
import PortReservation.Proofs.Digits

/-!
# The forms of a JSON text

How strings, numbers, arrays and objects may be written is said here without the reader: with any
spaces between their parts, with any character of a string escaped, to any depth. The reader finds
what a text was written for. It is led by the first character of each value, and of a number only by
what follows it, so a reading goes on behind it unharmed.

* `WrittenPieces`, `WrittenNumber`, `WrittenValue`, `WrittenText`: the grammar.
* `readPieces_written`, `readNumber_written`: strings and numbers.
* `readValue_written`, `readMembers_written`: values in values, as deep as the fuel reaches.
* `read?_written`: a text that is an object is read as its members, in their order.
-/

namespace PortReservation

namespace Json

/-! ## The grammar -/

/-- Whether a text is spaces only; the empty one is. -/
def Spaces (t : Text) : Prop := ∀ c ∈ t, c ∈ [' ', '\t', '\n', '\r']

instance (t : Text) : Decidable (Spaces t) := List.decidableBAll _ t

/-- A letter behind a backslash, and the character that it stands for. -/
inductive ShortEscape : Char → Char → Prop where
  | quote : ShortEscape '"' '"'
  | backslash : ShortEscape '\\' '\\'
  | slash : ShortEscape '/' '/'
  | backspace : ShortEscape 'b' '\x08'
  | formFeed : ShortEscape 'f' '\x0c'
  | lineFeed : ShortEscape 'n' '\n'
  | carriageReturn : ShortEscape 'r' '\r'
  | tab : ShortEscape 't' '\t'

/-- A piece of a string, and how it is written: as it is, behind a backslash, or by number. -/
inductive WrittenPiece : Piece → Text → Prop where
  | plain {c : Char} (hquote : c ≠ '"') (hbackslash : c ≠ '\\') (hcontrol : 0x20 ≤ c.toNat) :
      WrittenPiece (.char c) [c]
  | short {e c : Char} (h : ShortEscape e c) : WrittenPiece (.char c) ['\\', e]
  | number {a b c d : Char} {i j k l : Nat} (ha : Hex.digitValue? a = some i)
      (hb : Hex.digitValue? b = some j) (hc : Hex.digitValue? c = some k)
      (hd : Hex.digitValue? d = some l) :
      WrittenPiece (.unit (UInt16.ofNat (((i * 16 + j) * 16 + k) * 16 + l)))
        ['\\', 'u', a, b, c, d]

/-- The pieces of a string, and what is written between its quotes. -/
inductive WrittenPieces : List Piece → Text → Prop where
  | nil : WrittenPieces [] []
  | cons {p : Piece} {s : List Piece} {w t : Text} (hp : WrittenPiece p w)
      (h : WrittenPieces s t) : WrittenPieces (p :: s) (w ++ t)

/-- One or more digits. -/
structure Digits (t : Text) : Prop where
  ne_nil : t ≠ []
  all : ∀ c ∈ t, c.isDigit = true

/-- The digits before a point, without a zero in front that is not needed. -/
structure Whole (t : Text) : Prop extends Digits t where
  head : 1 < t.length → t.head? ≠ some '0'

/-- A point with digits behind it, or nothing. -/
inductive Fraction : Text → Prop where
  | absent : Fraction []
  | present {d : Text} (h : Digits d) : Fraction ('.' :: d)

/-- A power of ten, with a sign or without, or nothing. -/
inductive Exponent : Text → Prop where
  | absent : Exponent []
  | present {e : Char} {sign d : Text} (he : e = 'e' ∨ e = 'E')
      (hsign : sign = [] ∨ sign = ['+'] ∨ sign = ['-']) (h : Digits d) :
      Exponent (e :: (sign ++ d))

/-- A number, and how it is written. -/
inductive WrittenNumber : Number → Text → Prop where
  | positive {w f e : Text} (hw : Whole w) (hf : Fraction f) (he : Exponent e) :
      WrittenNumber ⟨false, w, (f ++ e).isEmpty⟩ (w ++ (f ++ e))
  | negative {w f e : Text} (hw : Whole w) (hf : Fraction f) (he : Exponent e) :
      WrittenNumber ⟨true, w, (f ++ e).isEmpty⟩ ('-' :: (w ++ (f ++ e)))

mutual

/-- A value, and how it is written. -/
inductive WrittenValue : Value → Text → Prop where
  | null : WrittenValue .null "null".toList
  | bool (b : Bool) : WrittenValue (.bool b) (if b then "true".toList else "false".toList)
  | number {n : Number} {t : Text} (h : WrittenNumber n t) : WrittenValue (.number n) t
  | string {s : List Piece} {t : Text} (h : WrittenPieces s t) :
      WrittenValue (.string s) ('"' :: (t ++ ['"']))
  | array {vs : List Value} {t : Text} (h : WrittenArray vs t) : WrittenValue .container t
  | object {ms : List (List Piece × Value)} {t : Text} (h : WrittenObject ms t) :
      WrittenValue .container t

/-- The elements of an array, and how it is written. -/
inductive WrittenArray : List Value → Text → Prop where
  | empty {w : Text} (hw : Spaces w) : WrittenArray [] ('[' :: (w ++ [']']))
  | elements {vs : List Value} {t : Text} (h : WrittenElements vs t) :
      WrittenArray vs ('[' :: (t ++ [']']))

/-- One or more elements, and how they are written: with a comma between, and each among spaces. -/
inductive WrittenElements : List Value → Text → Prop where
  | last {v : Value} {before t after : Text} (hbefore : Spaces before) (hv : WrittenValue v t)
      (hafter : Spaces after) : WrittenElements [v] (before ++ (t ++ after))
  | more {v : Value} {vs : List Value} {before t after r : Text} (hbefore : Spaces before)
      (hv : WrittenValue v t) (hafter : Spaces after) (h : WrittenElements vs r) :
      WrittenElements (v :: vs) (before ++ (t ++ (after ++ ',' :: r)))

/-- The members of an object, and how it is written. -/
inductive WrittenObject : List (List Piece × Value) → Text → Prop where
  | empty {w : Text} (hw : Spaces w) : WrittenObject [] ('{' :: (w ++ ['}']))
  | members {ms : List (List Piece × Value)} {t : Text} (h : WrittenMembers ms t) :
      WrittenObject ms ('{' :: (t ++ ['}']))

/-- One or more members, and how they are written: with a comma between. -/
inductive WrittenMembers : List (List Piece × Value) → Text → Prop where
  | last {m : List Piece × Value} {t : Text} (hm : WrittenMember m t) : WrittenMembers [m] t
  | more {m : List Piece × Value} {ms : List (List Piece × Value)} {t r : Text}
      (hm : WrittenMember m t) (h : WrittenMembers ms r) : WrittenMembers (m :: ms) (t ++ ',' :: r)

/-- A member, and how it is written: a string, a colon and a value, each among spaces. -/
inductive WrittenMember : List Piece × Value → Text → Prop where
  | mk {key : List Piece} {v : Value} {w₁ k w₂ w₃ t w₄ : Text} (h₁ : Spaces w₁)
      (hkey : WrittenPieces key k) (h₂ : Spaces w₂) (h₃ : Spaces w₃) (hv : WrittenValue v t)
      (h₄ : Spaces w₄) :
      WrittenMember (key, v) (w₁ ++ '"' :: (k ++ '"' :: (w₂ ++ ':' :: (w₃ ++ (t ++ w₄)))))

end

/-- A whole text that is an object among spaces. -/
inductive WrittenText (ms : List (List Piece × Value)) : Text → Prop where
  | mk {before t after : Text} (hbefore : Spaces before) (h : WrittenObject ms t)
      (hafter : Spaces after) : WrittenText ms (before ++ (t ++ after))

/-! ## Spaces -/

theorem isSpace_iff {c : Char} : isSpace c = true ↔ c ∈ [' ', '\t', '\n', '\r'] := by
  simp [isSpace, or_assoc]

theorem skipSpace_spaces {w : Text} (hw : Spaces w) (t : Text) :
    skipSpace (w ++ t) = skipSpace t :=
  List.dropWhile_append_of_pos fun c hc => isSpace_iff.mpr (hw c hc)

theorem skipSpace_of_spaces {w : Text} (hw : Spaces w) : skipSpace w = [] := by
  simpa [skipSpace] using skipSpace_spaces hw []

theorem skipSpace_cons {c : Char} (hc : isSpace c = false) (t : Text) :
    skipSpace (c :: t) = c :: t := by
  simp [skipSpace, hc]

theorem skipSpace_skipSpace (t : Text) : skipSpace (skipSpace t) = skipSpace t := by
  induction t with
  | nil => rfl
  | cons c t ih =>
    cases hc : isSpace c with
    | true => simpa [skipSpace, hc] using ih
    | false => rw [skipSpace_cons hc, skipSpace_cons hc]

/-! ## Strings -/

theorem shortEscape?_eq {e c : Char} (h : ShortEscape e c) : shortEscape? e = some c ∧ e ≠ 'u' := by
  cases h <;> decide

theorem unit?_eq {a b c d : Char} {i j k l : Nat} (ha : Hex.digitValue? a = some i)
    (hb : Hex.digitValue? b = some j) (hc : Hex.digitValue? c = some k)
    (hd : Hex.digitValue? d = some l) :
    unit? a b c d = some (UInt16.ofNat (((i * 16 + j) * 16 + k) * 16 + l)) := by
  simp [unit?, Hex.isDigit, Hex.ofDigits, ha, hb, hc, hd]

/-- A piece is read as it was written. -/
theorem readPieces_piece {p : Piece} {w : Text} (hp : WrittenPiece p w) (t : Text) :
    readPieces (w ++ t) = (readPieces t).map fun r => (p :: r.1, r.2) := by
  cases hp with
  | plain hquote hbackslash hcontrol =>
    rw [List.singleton_append, readPieces.eq_def]
    simp only [if_neg hquote, if_neg hbackslash, if_neg (Nat.not_lt.mpr hcontrol)]
  | short h =>
    obtain ⟨hescape, hu⟩ := shortEscape?_eq h
    rw [List.cons_append, List.singleton_append, readPieces.eq_def]
    simp [hescape, hu]
  | number ha hb hc hd =>
    rw [List.cons_append, List.cons_append, readPieces.eq_def]
    simp [unit?_eq ha hb hc hd]

/-- A string is read as it was written, up to its closing quote. -/
theorem readPieces_written {s : List Piece} {t : Text} (h : WrittenPieces s t) (rest : Text) :
    readPieces (t ++ '"' :: rest) = some (s, rest) := by
  induction h with
  | nil => rw [List.nil_append, readPieces.eq_def]; rfl
  | cons hp _ ih => rw [List.append_assoc, readPieces_piece hp, ih, Option.map_some]

/-! ## Numbers -/

/-- Whether a number could go on with a character. -/
def goesOn (c : Char) : Bool := c.isDigit || c == '.' || c == 'e' || c == 'E'

theorem readDigits_digits {d rest : Text} (h : Digits d) (hrest : Text.Stops Char.isDigit rest) :
    readDigits (d ++ rest) = some (d, rest) := by
  have hne := h.ne_nil
  simp [readDigits, Text.takeWhile_of_stops h.all hrest, Text.dropWhile_of_stops h.all hrest, hne]

section Number

variable {f e rest : Text}

theorem stops_digit (hrest : Text.Stops goesOn rest) : Text.Stops Char.isDigit rest := by
  intro c hc
  have := hrest c hc
  simp_all [goesOn]

theorem Exponent.stops (he : Exponent e) (hrest : Text.Stops goesOn rest) :
    Text.Stops (fun c => c.isDigit || c == '.') (e ++ rest) := by
  cases he with
  | absent =>
    intro c hc
    have := hrest c hc
    simp_all [goesOn]
  | present he hsign h => rcases he with rfl | rfl <;> exact Text.stops_cons (by decide) _

theorem Fraction.stops (hf : Fraction f) (he : Exponent e) (hrest : Text.Stops goesOn rest) :
    Text.Stops Char.isDigit (f ++ (e ++ rest)) := by
  cases hf with
  | absent =>
    intro c hc
    have := he.stops hrest c hc
    simp_all
  | present h => exact Text.stops_cons (by decide) _

theorem skipSign_sign {sign d : Text} (hsign : sign = [] ∨ sign = ['+'] ∨ sign = ['-'])
    (hd : Digits d) : skipSign (sign ++ (d ++ rest)) = d ++ rest := by
  rcases hsign with rfl | rfl | rfl
  · obtain ⟨c, t, rfl⟩ := List.exists_cons_of_ne_nil hd.ne_nil
    have hc := hd.all c List.mem_cons_self
    rw [List.nil_append, List.cons_append]
    unfold skipSign
    split
    · next heq => cases heq; exact absurd hc (by decide)
    · next heq => cases heq; exact absurd hc (by decide)
    · rfl
  · rfl
  · rfl

theorem skipExponent_exponent (he : Exponent e) (hrest : Text.Stops goesOn rest) :
    skipExponent (e ++ rest) = some rest := by
  cases he with
  | absent =>
    rw [List.nil_append]
    unfold skipExponent
    split
    · next t => exact absurd (hrest 'e' rfl) (by decide)
    · next t => exact absurd (hrest 'E' rfl) (by decide)
    · rfl
  | present he hsign h =>
    have hread := readDigits_digits h (stops_digit hrest)
    rcases he with rfl | rfl <;>
      simp [skipExponent, skipSign_sign hsign h, hread]

theorem skipFraction_fraction (hf : Fraction f) (he : Exponent e)
    (hrest : Text.Stops goesOn rest) : skipFraction (f ++ (e ++ rest)) = some (e ++ rest) := by
  have hstops := he.stops hrest
  cases hf with
  | absent =>
    rw [List.nil_append]
    unfold skipFraction
    split
    · next t heq => exact absurd (hstops '.' (by rw [heq]; rfl)) (by decide)
    · rfl
  | present h =>
    have hdigits : Text.Stops Char.isDigit (e ++ rest) := by
      intro c hc
      have := hstops c hc
      simp_all
    simp [skipFraction, readDigits_digits h hdigits]

theorem readUnsigned_written {w : Text} (negative : Bool) (hw : Whole w) (hf : Fraction f)
    (he : Exponent e) (hrest : Text.Stops goesOn rest) :
    readUnsigned negative (w ++ (f ++ e) ++ rest) =
      some (⟨negative, w, (f ++ e).isEmpty⟩, rest) := by
  have hdigits := readDigits_digits hw.toDigits (hf.stops he hrest)
  have hzero : ¬(1 < w.length ∧ w.head? = some '0') := fun h => hw.head h.1 h.2
  -- Nothing stands behind the digits exactly if the reader stopped right there.
  have hlength : decide (rest.length = (f ++ (e ++ rest)).length) = (f ++ e).isEmpty := by
    cases f <;> cases e <;> simp <;> omega
  rw [List.append_assoc, List.append_assoc, readUnsigned, hdigits]
  simp only [Option.bind_eq_bind, Option.bind_some, if_neg hzero, skipFraction_fraction hf he hrest,
    skipExponent_exponent he hrest, hlength]
  rfl

/-- What a number starts with: a minus sign or a digit. -/
theorem WrittenNumber.head {n : Number} {t : Text} (h : WrittenNumber n t) :
    ∃ c r, t = c :: r ∧ (c = '-' ∨ c.isDigit = true) := by
  have hdigits : ∀ {w s : Text}, Whole w → ∃ c r, w ++ s = c :: r ∧ c.isDigit = true := by
    intro w s hw
    obtain ⟨c, r, rfl⟩ := List.exists_cons_of_ne_nil hw.ne_nil
    exact ⟨c, r ++ s, rfl, hw.all c List.mem_cons_self⟩
  cases h with
  | positive hw hf he =>
    obtain ⟨c, r, heq, hc⟩ := hdigits hw
    exact ⟨c, r, heq, .inr hc⟩
  | negative hw hf he => exact ⟨_, _, rfl, .inl rfl⟩

/-- A number is read as it was written, if nothing follows with which it could go on. -/
theorem readNumber_written {n : Number} {t : Text} (h : WrittenNumber n t)
    (hrest : Text.Stops goesOn rest) : readNumber (t ++ rest) = some (n, rest) := by
  cases h with
  | positive hw hf he =>
    rw [← readUnsigned_written false hw hf he hrest]
    unfold readNumber
    split
    · next r heq =>
      -- The number starts with a digit, not with a sign.
      obtain ⟨c, s, rfl⟩ := List.exists_cons_of_ne_nil hw.ne_nil
      cases heq
      exact absurd (hw.all '-' List.mem_cons_self) (by decide)
    · rfl
  | negative hw hf he => exact readUnsigned_written true hw hf he hrest

end Number

/-! ## Values -/

/-- What a value starts with is no space and closes no array. -/
theorem WrittenValue.head {v : Value} {t : Text} (h : WrittenValue v t) :
    ∃ c r, t = c :: r ∧ isSpace c = false ∧ c ≠ ']' := by
  cases h with
  | null => exact ⟨_, _, rfl, by decide⟩
  | bool b => cases b <;> exact ⟨_, _, rfl, by decide⟩
  | number h =>
    obtain ⟨c, r, rfl, hc⟩ := h.head
    refine ⟨c, r, rfl, ?_⟩
    rcases hc with rfl | hc
    · decide
    · have hdigit := isDigit_iff.mp hc
      constructor
      · rw [Bool.eq_false_iff]
        intro hspace
        have := isSpace_iff.mp hspace
        simp only [List.mem_cons, List.not_mem_nil, or_false] at this
        rcases this with rfl | rfl | rfl | rfl <;> exact absurd hc (by decide)
      · rintro rfl
        exact absurd hc (by decide)
  | string h => exact ⟨_, _, rfl, by decide⟩
  | array h => cases h <;> exact ⟨_, _, rfl, by decide⟩
  | object h => cases h <;> exact ⟨_, _, rfl, by decide⟩

/-- Behind spaces a value ends where a part of a container does. -/
theorem stops_spaces {w : Text} (hw : Spaces w) {c : Char} (hc : goesOn c = false) (t : Text) :
    Text.Stops goesOn (w ++ c :: t) := by
  cases w with
  | nil => exact Text.stops_cons hc t
  | cons d w =>
    have hd := hw d List.mem_cons_self
    refine Text.stops_cons ?_ _
    simp only [List.mem_cons, List.not_mem_nil, or_false] at hd
    rcases hd with rfl | rfl | rfl | rfl <;> decide

theorem readValue_spaces (fuel : Nat) {w : Text} (hw : Spaces w) (t : Text) :
    readValue fuel (w ++ t) = readValue fuel t := by
  cases fuel with
  | zero => rfl
  | succ fuel => rw [readValue, readValue, skipSpace_spaces hw]

/-- A value that starts as no container does is read at once. -/
theorem readValue_scalar (fuel : Nat) {c : Char} (hspace : isSpace c = false) (hbrace : c ≠ '{')
    (hbracket : c ≠ '[') (t : Text) : readValue (fuel + 1) (c :: t) = readScalar (c :: t) := by
  rw [readValue, skipSpace_cons hspace]
  simp [hbrace, hbracket]

theorem readMembers_skipSpace (fuel : Nat) (t : Text) :
    readMembers fuel (skipSpace t) = readMembers fuel t := by
  cases fuel with
  | zero => rfl
  | succ fuel => rw [readMembers, readMembers, skipSpace_skipSpace]

theorem readElements_skipSpace (fuel : Nat) (t : Text) :
    readElements fuel (skipSpace t) = readElements fuel t := by
  have hvalue : ∀ fuel, readValue fuel (skipSpace t) = readValue fuel t := by
    intro fuel
    cases fuel with
    | zero => rfl
    | succ fuel => rw [readValue, readValue, skipSpace_skipSpace]
  cases fuel with
  | zero => rfl
  | succ fuel => rw [readElements, readElements, hvalue]

theorem readScalar_number {n : Number} {t rest : Text} (h : WrittenNumber n t)
    (hrest : Text.Stops goesOn rest) : readScalar (t ++ rest) = some (.number n, rest) := by
  have hread := readNumber_written h hrest
  obtain ⟨c, r, rfl, hc⟩ := h.head
  have hquote : c ≠ '"' := by rintro rfl; exact absurd hc (by decide)
  rw [List.cons_append] at hread ⊢
  rw [readScalar, if_neg hquote, if_pos hc, hread]
  rfl

theorem WrittenElements.skipSpace_ne {vs : List Value} {t : Text} (h : WrittenElements vs t)
    (rest r : Text) : skipSpace (t ++ rest) ≠ ']' :: r := by
  have hvalue : ∀ {v : Value} {before t : Text}, Spaces before → WrittenValue v t → ∀ s,
      skipSpace (before ++ (t ++ s)) ≠ ']' :: r := by
    intro v before t hbefore hv s heq
    obtain ⟨c, u, rfl, hspace, hc⟩ := hv.head
    rw [skipSpace_spaces hbefore, List.cons_append, skipSpace_cons hspace] at heq
    exact hc (List.cons.inj heq).1
  cases h with
  | last hbefore hv hafter => simpa using hvalue hbefore hv _
  | more hbefore hv hafter hs => simpa using hvalue hbefore hv _

theorem WrittenMember.skipSpace_eq {m : List Piece × Value} {t : Text} (h : WrittenMember m t)
    (rest : Text) : ∃ r, skipSpace (t ++ rest) = '"' :: r := by
  cases h with
  | mk h₁ hkey h₂ h₃ hv h₄ =>
    rw [List.append_assoc, skipSpace_spaces h₁, List.cons_append, skipSpace_cons (by decide)]
    exact ⟨_, rfl⟩

theorem WrittenMember.exists_fuel {m : List Piece × Value} {t : Text} (h : WrittenMember m t)
    {fuel : Nat} (hfuel : 3 * t.length ≤ fuel) : ∃ k, fuel = k + 1 := by
  cases h with
  | mk h₁ hkey h₂ h₃ hv h₄ => exact ⟨fuel - 1, by simp at hfuel; omega⟩

theorem WrittenMembers.skipSpace_ne {ms : List (List Piece × Value)} {t : Text}
    (h : WrittenMembers ms t) (rest r : Text) : skipSpace (t ++ rest) ≠ '}' :: r := by
  intro heq
  cases h with
  | last hm =>
    obtain ⟨s, hs⟩ := hm.skipSpace_eq rest
    rw [hs] at heq
    exact absurd (List.cons.inj heq).1 (by decide)
  | more hm hms =>
    rw [List.append_assoc] at heq
    obtain ⟨s, hs⟩ := hm.skipSpace_eq _
    rw [hs] at heq
    exact absurd (List.cons.inj heq).1 (by decide)

mutual

/-- A value is read as it was written, if nothing follows with which it could go on. -/
theorem readValue_written {v : Value} {t : Text} (h : WrittenValue v t) {fuel : Nat}
    (hfuel : 3 * t.length ≤ fuel) {rest : Text} (hrest : Text.Stops goesOn rest) :
    readValue fuel (t ++ rest) = some (v, rest) := by
  -- Three units of fuel for a character are enough: an array, its elements and the value among them
  -- take one each, and the array has its bracket.
  obtain ⟨fuel, rfl⟩ : ∃ k, fuel = k + 1 := by
    obtain ⟨c, r, rfl, -⟩ := h.head
    exact ⟨fuel - 1, by simp at hfuel; omega⟩
  match h with
  | .null => rfl
  | .bool true => rfl
  | .bool false => rfl
  | .number hn =>
    have hscalar := readScalar_number hn hrest
    obtain ⟨c', r', heq, hspace, -⟩ := (WrittenValue.number hn).head
    obtain ⟨c, r, rfl, hc⟩ := hn.head
    rw [← (List.cons.inj heq).1] at hspace
    have hbrace : c ≠ '{' := by rintro rfl; exact absurd hc (by decide)
    have hbracket : c ≠ '[' := by rintro rfl; exact absurd hc (by decide)
    rw [List.cons_append, readValue_scalar fuel hspace hbrace hbracket, ← List.cons_append, hscalar]
  | .string hs =>
    rw [List.cons_append, readValue_scalar fuel (by decide) (by decide) (by decide)]
    simp [readScalar, readPieces_written hs]
  | .array ha =>
    obtain ⟨r, rfl, hread⟩ := readArray_written ha (show _ ≤ fuel + 1 by omega) rest
    rw [List.cons_append, readValue, skipSpace_cons (by decide)]
    simp [hread]
  | .object ho =>
    obtain ⟨r, rfl, hread⟩ := readObject_written ho (show _ ≤ fuel + 1 by omega) rest
    rw [List.cons_append, readValue, skipSpace_cons (by decide)]
    simp [hread]

theorem readArray_written {vs : List Value} {t : Text} (h : WrittenArray vs t) {fuel : Nat}
    (hfuel : 3 * t.length ≤ fuel + 1) (rest : Text) :
    ∃ r, t = '[' :: r ∧ readArray fuel (r ++ rest) = some (vs, rest) := by
  match h with
  | .empty (w := w) hw =>
    refine ⟨_, rfl, ?_⟩
    obtain ⟨fuel, rfl⟩ : ∃ k, fuel = k + 1 := ⟨fuel - 1, by simp at hfuel; omega⟩
    rw [readArray, List.append_assoc, skipSpace_spaces hw, List.singleton_append,
      skipSpace_cons (by decide)]
    rfl
  | .elements (t := t) he =>
    refine ⟨_, rfl, ?_⟩
    obtain ⟨fuel, rfl⟩ : ∃ k, fuel = k + 1 := ⟨fuel - 1, by simp at hfuel; omega⟩
    have hread := readElements_written he (show _ ≤ fuel by simp at hfuel; omega) rest
    rw [readArray, List.append_assoc, List.singleton_append]
    split
    · next r heq => exact absurd heq (he.skipSpace_ne _ r)
    · rw [readElements_skipSpace, hread]

theorem readElements_written {vs : List Value} {t : Text} (h : WrittenElements vs t) {fuel : Nat}
    (hfuel : 3 * t.length + 1 ≤ fuel) (rest : Text) :
    readElements fuel (t ++ ']' :: rest) = some (vs, rest) := by
  match h with
  | .last (t := t) hbefore hv hafter =>
    obtain ⟨fuel, rfl⟩ : ∃ k, fuel = k + 1 := ⟨fuel - 1, by omega⟩
    have hvalue := readValue_written hv (show _ ≤ fuel by simp at hfuel; omega)
      (stops_spaces hafter (c := ']') (by decide) rest)
    simp only [readElements, List.append_assoc, readValue_spaces fuel hbefore, hvalue,
      Option.bind_eq_bind, Option.bind_some, skipSpace_spaces hafter]
    rfl
  | .more (t := t) (r := r) hbefore hv hafter hs =>
    obtain ⟨fuel, rfl⟩ : ∃ k, fuel = k + 1 := ⟨fuel - 1, by omega⟩
    have hvalue := readValue_written hv (show _ ≤ fuel by simp at hfuel; omega)
      (stops_spaces hafter (c := ',') (by decide) (r ++ ']' :: rest))
    have hmore := readElements_written hs (show _ ≤ fuel by simp at hfuel; omega) rest
    simp only [readElements, List.append_assoc, List.cons_append, readValue_spaces fuel hbefore,
      hvalue, Option.bind_eq_bind, Option.bind_some, skipSpace_spaces hafter]
    rw [skipSpace_cons (by decide)]
    simp [hmore]

theorem readObject_written {ms : List (List Piece × Value)} {t : Text} (h : WrittenObject ms t)
    {fuel : Nat} (hfuel : 3 * t.length ≤ fuel + 1) (rest : Text) :
    ∃ r, t = '{' :: r ∧ readObject fuel (r ++ rest) = some (ms, rest) := by
  match h with
  | .empty (w := w) hw =>
    refine ⟨_, rfl, ?_⟩
    obtain ⟨fuel, rfl⟩ : ∃ k, fuel = k + 1 := ⟨fuel - 1, by simp at hfuel; omega⟩
    rw [readObject, List.append_assoc, skipSpace_spaces hw, List.singleton_append,
      skipSpace_cons (by decide)]
    rfl
  | .members (t := t) hm =>
    refine ⟨_, rfl, ?_⟩
    obtain ⟨fuel, rfl⟩ : ∃ k, fuel = k + 1 := ⟨fuel - 1, by simp at hfuel; omega⟩
    have hread := readMembers_written hm (show _ ≤ fuel by simp at hfuel; omega) rest
    rw [readObject, List.append_assoc, List.singleton_append]
    split
    · next r heq => exact absurd heq (hm.skipSpace_ne _ r)
    · rw [readMembers_skipSpace, hread]

theorem readMembers_written {ms : List (List Piece × Value)} {t : Text} (h : WrittenMembers ms t)
    {fuel : Nat} (hfuel : 3 * t.length ≤ fuel) (rest : Text) :
    readMembers fuel (t ++ '}' :: rest) = some (ms, rest) := by
  match h with
  | .last (t := t) hm =>
    obtain ⟨fuel, rfl⟩ := hm.exists_fuel hfuel
    rw [readMember_written hm hfuel (c := '}') (by decide)]
    rfl
  | .more (t := t) (r := r) hm hs =>
    have hlength : 3 * t.length ≤ fuel := by simp at hfuel; omega
    obtain ⟨fuel, rfl⟩ := hm.exists_fuel hlength
    have hmore := readMembers_written hs (show _ ≤ fuel by simp at hfuel; omega) rest
    rw [List.append_assoc, List.cons_append, readMember_written hm hlength (c := ',') (by decide)]
    simp [hmore]

/-- A member is read as it was written, up to the comma or the brace behind it. -/
theorem readMember_written {m : List Piece × Value} {t : Text} (h : WrittenMember m t) {fuel : Nat}
    (hfuel : 3 * t.length ≤ fuel + 1) {c : Char} (hc : c = ',' ∨ c = '}') (rest : Text) :
    readMembers (fuel + 1) (t ++ c :: rest) =
      if c = ',' then (readMembers fuel rest).map fun r => (m :: r.1, r.2)
      else some ([m], rest) := by
  match h with
  | .mk h₁ hkey h₂ h₃ hv h₄ =>
    have hstops : goesOn c = false ∧ isSpace c = false := by rcases hc with rfl | rfl <;> decide
    have hvalue := readValue_written hv (show _ ≤ fuel by simp at hfuel; omega)
      (stops_spaces h₄ hstops.1 rest)
    simp only [readMembers, List.append_assoc, List.cons_append, skipSpace_spaces h₁,
      skipSpace_cons (c := '"') (by decide), Text.after?, if_pos, Option.bind_eq_bind,
      Option.bind_some, readPieces_written hkey, skipSpace_spaces h₂,
      skipSpace_cons (c := ':') (by decide), readValue_spaces fuel h₃, hvalue, skipSpace_spaces h₄,
      skipSpace_cons hstops.2]
    rcases hc with rfl | rfl
    · show (readMembers fuel rest).bind _ = (readMembers fuel rest).map _
      cases readMembers fuel rest <;> rfl
    · rfl

end

/-- A text that is an object is read as its members, in their order. -/
theorem read?_written {ms : List (List Piece × Value)} {t : Text} (h : WrittenText ms t) :
    read? t = some (.object ms) := by
  cases h with
  | @mk before t after hbefore h hafter =>
    have hfuel : 3 * t.length ≤ fuel (before ++ (t ++ after)) + 1 := by simp [fuel]; omega
    obtain ⟨r, rfl, hread⟩ := readObject_written h hfuel after
    rw [List.cons_append] at hread ⊢
    rw [read?, skipSpace_spaces hbefore, skipSpace_cons (by decide)]
    simp [hread, skipSpace_of_spaces hafter]

end Json

end PortReservation
