import PortReservation.Text.Decimal
import PortReservation.Text.Hex

/-!
# Digits

What a number is written with, and how far a reader of digits gets in a text that starts with some.

* `takeWhile_of_stops`, `dropWhile_of_stops`: a reader of some characters takes them all and stops
  where the text goes on with another one.
* `Decimal.head?_ne_zero`: no number has a zero in front that it does not need.
* `Decimal.readInt?_eq_some_iff`: the texts that are read as an integer, and as which one.
* `Hex.ofDigits_ofNat`: hexadecimal digits read back.
-/

namespace PortReservation

namespace Text

/-- Whether a text does not start with characters of a kind. -/
def Stops (p : Char → Bool) (t : Text) : Prop := ∀ c, t.head? = some c → p c = false

theorem stops_nil (p : Char → Bool) : Stops p [] := fun _ h => nomatch h

theorem stops_cons {p : Char → Bool} {c : Char} (h : p c = false) (t : Text) :
    Stops p (c :: t) := by
  rintro d hd
  cases hd
  exact h

section Taking

variable {p : Char → Bool} {s rest : Text}

theorem takeWhile_of_stops (hs : ∀ c ∈ s, p c = true) (hrest : Stops p rest) :
    (s ++ rest).takeWhile p = s := by
  rw [List.takeWhile_append_of_pos hs]
  cases rest with
  | nil => simp
  | cons c rest => simp [hrest c rfl]

theorem dropWhile_of_stops (hs : ∀ c ∈ s, p c = true) (hrest : Stops p rest) :
    (s ++ rest).dropWhile p = rest := by
  rw [List.dropWhile_append_of_pos hs]
  cases rest with
  | nil => rfl
  | cons c rest => simp [hrest c rfl]

end Taking

end Text

/-! ## Decimal digits -/

theorem isDigit_iff {c : Char} : c.isDigit = true ↔ 48 ≤ c.toNat ∧ c.toNat ≤ 57 := by
  simp only [Char.isDigit, Bool.and_eq_true, decide_eq_true_eq, ge_iff_le,
    UInt32.le_iff_toNat_le]
  rfl

theorem isBlank_of_isDigit {c : Char} (h : c.isDigit = true) : isBlank c = false := by
  obtain ⟨hlow, hhigh⟩ := isDigit_iff.mp h
  simp only [isBlank, Bool.or_eq_false_iff, Bool.and_eq_false_iff, beq_eq_false_iff_ne,
    decide_eq_false_iff_not]
  omega

namespace Decimal

theorem isDigit_of_mem_ofNat {c : Char} {n : Nat} (h : c ∈ ofNat n) : c.isDigit = true :=
  Nat.isDigit_of_mem_toDigits (by decide) (by decide) h

theorem ofNat_injective {m n : Nat} (h : ofNat m = ofNat n) : m = n := by
  have hm := readNat?_ofNat m
  rw [h, readNat?_ofNat] at hm
  exact (Option.some.inj hm).symm

/-- Only zero is written with a zero in front. -/
theorem eq_zero_of_head? {n : Nat} (h : (ofNat n).head? = some '0') : n = 0 := by
  induction n using Nat.strongRecOn with
  | ind n ih =>
    rw [ofNat, Nat.toDigits_eq_if (by decide)] at h
    split at h
    · simpa using h
    · next hn =>
      -- The first digit is that of a number which is not zero.
      obtain ⟨c, t, hfront⟩ :=
        List.exists_cons_of_ne_nil (Nat.toDigits_ne_nil (n := n / 10) (b := 10))
      have hhead : (ofNat (n / 10)).head? = some '0' := by
        rw [hfront, List.cons_append, List.head?_cons] at h
        rw [ofNat, hfront, List.head?_cons, h]
      have hzero := ih (n / 10) (by omega) hhead
      omega

/-- More than one digit are those of a number other than zero. -/
theorem head?_ne_zero {n : Nat} (hlength : 1 < (ofNat n).length) : (ofNat n).head? ≠ some '0' := by
  intro hzero
  rw [eq_zero_of_head? hzero] at hlength
  exact absurd hlength (by decide)

/-! ## Numerals -/

/-- One or more ASCII digits, the highest one first, and the number that they denote. -/
inductive Digits : Text → Nat → Prop where
  | single {d : Nat} (hd : d < 10) : Digits [d.digitChar] d
  | further {t : Text} {n d : Nat} (h : Digits t n) (hd : d < 10) :
      Digits (t ++ [d.digitChar]) (10 * n + d)

/-- One or more ASCII digits, behind a sign or without one, and the integer that they denote. -/
inductive Numeral : Text → Int → Prop where
  | unsigned {t : Text} {n : Nat} (h : Digits t n) : Numeral t n
  | plus {t : Text} {n : Nat} (h : Digits t n) : Numeral ('+' :: t) n
  | minus {t : Text} {n : Nat} (h : Digits t n) : Numeral ('-' :: t) (-n)

theorem isDigit_digitChar {d : Nat} (hd : d < 10) : d.digitChar.isDigit = true := by
  rw [Nat.isDigit_digitChar, decide_eq_true hd]

theorem exists_digitChar {c : Char} (h : c.isDigit = true) : ∃ d < 10, c = d.digitChar := by
  obtain ⟨hlow, hhigh⟩ := isDigit_iff.mp h
  refine ⟨c.toNat - 48, by omega, Char.toNat_inj.mp ?_⟩
  rw [Nat.toNat_digitChar_of_lt_ten (by omega)]
  omega

/-- What a reader finds in the digits of a number. -/
theorem Digits.found {t : Text} {n : Nat} (h : Digits t n) :
    t ≠ [] ∧ (∀ c ∈ t, c.isDigit = true) ∧ Nat.ofDigitChars 10 t 0 = n := by
  induction h with
  | single hd => simp [isDigit_digitChar hd, Nat.ofDigitChars_cons_digitChar_of_lt_ten hd]
  | further h hd ih =>
    obtain ⟨-, hall, hvalue⟩ := ih
    refine ⟨by simp, ?_, ?_⟩
    · simpa [or_imp, forall_and, isDigit_digitChar hd] using hall
    · rw [Nat.ofDigitChars_append, hvalue, Nat.ofDigitChars_cons_digitChar_of_lt_ten hd,
        Nat.ofDigitChars_nil]

/-- Behind some digits a reader goes on with their number. -/
theorem Digits.append {t rest : Text} {n : Nat} (h : Digits t n)
    (hrest : ∀ c ∈ rest, c.isDigit = true) : Digits (t ++ rest) (Nat.ofDigitChars 10 rest n) := by
  induction rest generalizing t n with
  | nil => simpa using h
  | cons c rest ih =>
    obtain ⟨hc, hall⟩ := List.forall_mem_cons.mp hrest
    obtain ⟨d, hd, rfl⟩ := exists_digitChar hc
    have hnext := ih (h.further hd) hall
    rwa [List.append_assoc, ← Nat.ofDigitChars_cons_digitChar_of_lt_ten hd] at hnext

theorem readNat?_eq_some_iff {t : Text} {n : Nat} : readNat? t = some n ↔ Digits t n := by
  have hfound : readNat? t = some n ↔
      t ≠ [] ∧ (∀ c ∈ t, c.isDigit = true) ∧ Nat.ofDigitChars 10 t 0 = n := by
    simp [readNat?, and_assoc]
  rw [hfound]
  refine ⟨?_, Digits.found⟩
  rintro ⟨hne, hall, rfl⟩
  obtain ⟨c, rest, rfl⟩ := List.exists_cons_of_ne_nil hne
  obtain ⟨hc, hrest⟩ := List.forall_mem_cons.mp hall
  obtain ⟨d, hd, rfl⟩ := exists_digitChar hc
  rw [Nat.ofDigitChars_cons_digitChar_of_lt_ten hd]
  simpa using (Digits.single hd).append hrest

/-- The texts that are read as an integer are the numerals, each as what it denotes. -/
theorem readInt?_eq_some_iff {t : Text} {n : Int} : readInt? t = some n ↔ Numeral t n := by
  constructor
  · intro h
    cases t with
    | nil => cases h
    | cons c t =>
      rw [readInt?] at h
      split at h
      · next hc =>
        obtain ⟨k, hk, rfl⟩ := Option.map_eq_some_iff.mp h
        exact hc ▸ .minus (readNat?_eq_some_iff.mp hk)
      split at h
      · next hc =>
        obtain ⟨k, hk, rfl⟩ := Option.map_eq_some_iff.mp h
        exact hc ▸ .plus (readNat?_eq_some_iff.mp hk)
      · obtain ⟨k, hk, rfl⟩ := Option.map_eq_some_iff.mp h
        exact .unsigned (readNat?_eq_some_iff.mp hk)
  · intro h
    cases h with
    | unsigned h =>
      obtain ⟨hne, hall, -⟩ := h.found
      obtain ⟨c, rest, rfl⟩ := List.exists_cons_of_ne_nil hne
      rw [readInt?_of_isDigit (List.forall_mem_cons.mp hall).1, readNat?_eq_some_iff.mpr h]
      rfl
    | plus h =>
      rw [readInt?, if_neg (by decide), if_pos rfl, readNat?_eq_some_iff.mpr h]
      rfl
    | minus h =>
      rw [readInt?, if_pos rfl, readNat?_eq_some_iff.mpr h]
      rfl

end Decimal

/-! ## Hexadecimal digits -/

namespace Hex

theorem isDigit_iff {c : Char} :
    isDigit c = true ↔ (48 ≤ c.toNat ∧ c.toNat ≤ 57) ∨ (97 ≤ c.toNat ∧ c.toNat ≤ 102) ∨
      (65 ≤ c.toNat ∧ c.toNat ≤ 70) := by
  have hrange : ∀ a b : Char, (a ≤ c && c ≤ b) = true ↔ a.toNat ≤ c.toNat ∧ c.toNat ≤ b.toNat := by
    intro a b
    simp only [Char.le_def, UInt32.le_iff_toNat_le, Bool.and_eq_true, decide_eq_true_eq]
    rfl
  simp only [isDigit, digitValue?, hrange]
  split
  · next h => simpa using .inl h
  split
  · next h => simpa using .inr (.inl h)
  split
  · next h => simpa using .inr (.inr h)
  · next h h' h'' => simp_all

theorem isDigit_of_isDigit {c : Char} (h : c.isDigit = true) : isDigit c = true :=
  isDigit_iff.mpr (.inl (PortReservation.isDigit_iff.mp h))

theorem isDigit_of_mem_ofNat {c : Char} {n : Nat} (h : c ∈ ofNat n) : isDigit c = true := by
  induction n using Nat.strongRecOn with
  | ind n ih =>
    have hdigit : ∀ m < 16, isDigit m.digitChar = true := by decide
    rw [ofNat, Nat.toDigits_eq_if (by decide)] at h
    split at h
    · next hn => exact List.mem_singleton.mp h ▸ hdigit n hn
    · next hn =>
      rcases List.mem_append.mp h with h | h
      · exact ih (n / 16) (by omega) h
      · exact List.mem_singleton.mp h ▸ hdigit (n % 16) (Nat.mod_lt _ (by decide))

/-- A number reads back from its hexadecimal digits. -/
theorem ofDigits_ofNat (n : Nat) : ofDigits (ofNat n) = n := by
  induction n using Nat.strongRecOn with
  | ind n ih =>
    rw [ofNat, Nat.toDigits_eq_if (by decide)]
    split
    · next hn => simp [ofDigits, digitValue?_digitChar n hn]
    · next hn =>
      have hlast := digitValue?_digitChar (n % 16) (Nat.mod_lt _ (by decide))
      have hfront : ofDigits (Nat.toDigits 16 (n / 16)) = n / 16 := ih (n / 16) (by omega)
      rw [ofDigits, List.foldl_append, ← ofDigits, hfront]
      simp only [List.foldl_cons, List.foldl_nil, hlast, Option.getD_some]
      omega

end Hex

end PortReservation
