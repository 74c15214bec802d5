/-!
# Text

A text is the list of its Unicode scalar values: a reader is a recursion on that list, a writer a
concatenation, and the order of keys is the lexicographic order of code points.

* `isBlank`: the characters with the Unicode property White_Space.
* `trimStart`, `trimEnd`, `trim`: a text without the blanks at its ends.
* `head_trimStart_not_blank`: what is left after trimming starts with no blank.
* `after?_eq_some_iff`: what follows a given start of a text.
-/

namespace PortReservation

/-- A sequence of Unicode scalar values. -/
abbrev Text := List Char

/-- The Unicode property White_Space: 25 characters. -/
def isBlank (c : Char) : Bool :=
  let n := c.toNat
  (9 ≤ n && n ≤ 13) || n == 0x20 || n == 0x85 || n == 0xA0 || n == 0x1680 ||
    (0x2000 ≤ n && n ≤ 0x200A) || n == 0x2028 || n == 0x2029 || n == 0x202F || n == 0x205F ||
    n == 0x3000

namespace Text

/-- The text without its leading blanks. -/
def trimStart (t : Text) : Text := t.dropWhile isBlank

/-- The text without its trailing blanks. -/
def trimEnd (t : Text) : Text := (t.reverse.dropWhile isBlank).reverse

/-- The text without the blanks at both ends. -/
def trim (t : Text) : Text := trimEnd (trimStart t)

theorem trimStart_cons_of_blank {c : Char} (h : isBlank c = true) (t : Text) :
    trimStart (c :: t) = trimStart t := by
  simp [trimStart, h]

theorem trimStart_cons_of_not_blank {c : Char} (h : isBlank c = false) (t : Text) :
    trimStart (c :: t) = c :: t := by
  simp [trimStart, h]

/-- A trimmed text starts with no blank. -/
theorem head_trimStart_not_blank {t r : Text} {c : Char} (h : trimStart t = c :: r) :
    isBlank c = false := by
  induction t with
  | nil => simp [trimStart] at h
  | cons d s ih =>
    cases hd : isBlank d with
    | true => exact ih (by rwa [trimStart_cons_of_blank hd] at h)
    | false =>
      rw [trimStart_cons_of_not_blank hd] at h
      injection h with h₁ _
      exact h₁ ▸ hd

/-- What follows a given start of a text. -/
def after? : (start : Text) → Text → Option Text
  | [], t => some t
  | _ :: _, [] => none
  | c :: s, d :: t => if c = d then after? s t else none

/-- Exactly the texts with the given start have something that follows it. -/
theorem after?_eq_some_iff {start t r : Text} : after? start t = some r ↔ t = start ++ r := by
  induction start generalizing t with
  | nil => simp [after?]
  | cons c s ih =>
    cases t with
    | nil => simp [after?]
    | cons d t =>
      rw [after?]
      split
      · next h => simp [ih, h]
      · next h => simp [Ne.symm h]

/-- Puts a character in front of the first of some texts. -/
def consFirst (c : Char) : List Text → List Text
  | [] => [[c]]
  | t :: ts => (c :: t) :: ts

theorem consFirst_ne_nil (c : Char) (ts : List Text) : consFirst c ts ≠ [] := by
  cases ts <;> simp [consFirst]

theorem consFirst_append (c : Char) {ts : List Text} (h : ts ≠ []) (us : List Text) :
    consFirst c (ts ++ us) = consFirst c ts ++ us := by
  cases ts with
  | nil => exact absurd rfl h
  | cons t ts => rfl

end Text

end PortReservation
