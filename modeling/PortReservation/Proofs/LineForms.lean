import PortReservation.Proofs.RoundTrip

/-!
# The forms of a line

One entry can be written in many forms: behind any blanks, with its key and its value apart by
blanks, by a mark, or by both, and with a backslash before any character of them. What the
characters of key and value stand for is said here without the reader (`Spelled`), and so is where
the parts of a line begin and end (`Line`). The reader meets the parts one by one and finds what
they stand for.

* `splitLine_spelled`, `unescape_eq_iff`: what is read of a key and of a value.
* `splitLine_separator`: what is read behind a key.
* `withoutReturn_separator`: a carriage return that the line end takes away is one blank less.
* `parse_line`: a line yields the entry that its key and its value stand for, and nothing else.
-/

namespace PortReservation

namespace Text

theorem withoutReturn_concat_return (t : Text) : withoutReturn (t ++ ['\r']) = t := by
  induction t with
  | nil => rfl
  | cons c t ih => rw [List.cons_append, withoutReturn, if_neg (by simp), ih]

/-- A line with another last character than a carriage return stays as it is. -/
theorem withoutReturn_of_getLast? {t : Text} (h : t.getLast? ≠ some '\r') :
    withoutReturn t = t := by
  induction t with
  | nil => rfl
  | cons c t ih =>
    cases t with
    | nil =>
      have hc : c ≠ '\r' := by simpa using h
      simp [withoutReturn, hc]
    | cons d t =>
      rw [List.getLast?_cons_cons] at h
      rw [withoutReturn, if_neg (by simp), ih h]

end Text

namespace Entries

/-! ## What characters stand for -/

/-- What a character behind a backslash stands for: four letters stand for blanks, and any other
character for itself. -/
inductive Escape : Char → Char → Prop where
  | tab : Escape 't' '\t'
  | lineFeed : Escape 'n' '\n'
  | carriageReturn : Escape 'r' '\r'
  | formFeed : Escape 'f' '\x0c'
  | itself {c : Char} (hc : c ∉ ['t', 'n', 'r', 'f']) : Escape c c

/-- A written text and what it stands for: a character stands for itself, if it may stand without a
backslash, and a backslash with the character behind it for another one. -/
inductive Spelled (free : Char → Prop) : Text → Text → Prop where
  | nil : Spelled free [] []
  | plain {c : Char} {t r : Text} (hc : free c) (h : Spelled free t r) :
      Spelled free (c :: t) (c :: r)
  | pair {d c : Char} {t r : Text} (hd : Escape d c) (h : Spelled free t r) :
      Spelled free ('\\' :: d :: t) (c :: r)

theorem Spelled.eq_nil {free : Char → Prop} {t r : Text} (h : Spelled free t r) (hr : r = []) :
    t = [] := by
  cases h with
  | nil => rfl
  | _ => cases hr

/-- The characters that a key may hold without a backslash. -/
def FreeInKey (c : Char) : Prop := c ≠ '\\' ∧ c ≠ '=' ∧ c ≠ ':' ∧ isBlank c = false

/-- The characters that a value may hold without a backslash. -/
def FreeInValue (c : Char) : Prop := c ≠ '\\'

/-- A written value and what it stands for; a lone backslash at its end stands for nothing. -/
inductive SpelledValue : Text → Text → Prop where
  | whole {t r : Text} (h : Spelled FreeInValue t r) : SpelledValue t r
  | cut {t r : Text} (h : Spelled FreeInValue t r) : SpelledValue (t ++ ['\\']) r

theorem escape_iff {d c : Char} : Escape d c ↔ unescapeChar d = c := by
  constructor
  · intro h
    cases h with
    | itself hc =>
      simp only [List.mem_cons, List.not_mem_nil, or_false, not_or] at hc
      simp [unescapeChar, hc]
    | _ => rfl
  · rintro rfl
    by_cases hd : d ∈ ['t', 'n', 'r', 'f']
    · simp only [List.mem_cons, List.not_mem_nil, or_false] at hd
      rcases hd with rfl | rfl | rfl | rfl
      · exact .tab
      · exact .lineFeed
      · exact .carriageReturn
      · exact .formFeed
    · have hself : unescapeChar d = d := by
        simp only [List.mem_cons, List.not_mem_nil, or_false, not_or] at hd
        simp [unescapeChar, hd]
      rw [hself]
      exact .itself hd

/-- A written key reads as what it stands for, and the line goes on behind it. -/
theorem splitLine_spelled {t key : Text} (h : Spelled FreeInKey t key) (rest : Text) :
    splitLine (t ++ rest) = (key ++ (splitLine rest).1, (splitLine rest).2) := by
  induction h with
  | nil => rfl
  | @plain c _ _ hc _ ih =>
    obtain ⟨hbs, heq, hcolon, hblank⟩ := hc
    have hmark : isMark c = false := by simp [isMark, heq, hcolon]
    rw [List.cons_append, splitLine_plain hbs hmark hblank, ih]
    rfl
  | pair hd _ ih =>
    rw [List.cons_append, List.cons_append, splitLine_escape, ih, escape_iff.mp hd]
    rfl

theorem unescape_spelled {t value : Text} (h : Spelled FreeInValue t value) (rest : Text) :
    unescape (t ++ rest) = value ++ unescape rest := by
  induction h with
  | nil => rfl
  | plain hc _ ih => rw [List.cons_append, unescape_plain hc, ih, List.cons_append]
  | pair hd _ ih =>
    rw [List.cons_append, List.cons_append, unescape_escape, ih, escape_iff.mp hd, List.cons_append]

namespace SpelledValue

variable {t value : Text}

theorem plain {c : Char} (hc : c ≠ '\\') (h : SpelledValue t value) :
    SpelledValue (c :: t) (c :: value) := by
  cases h with
  | whole h => exact .whole (.plain hc h)
  | cut h => exact .cut (.plain hc h)

theorem pair {d c : Char} (hd : Escape d c) (h : SpelledValue t value) :
    SpelledValue ('\\' :: d :: t) (c :: value) := by
  cases h with
  | whole h => exact .whole (.pair hd h)
  | cut h => exact .cut (.pair hd h)

end SpelledValue

/-- Every text is a written value, and it reads as what it stands for. -/
theorem unescape_eq_iff {t value : Text} : unescape t = value ↔ SpelledValue t value := by
  constructor
  · rintro rfl
    fun_induction unescape t with
    | case1 => exact .whole .nil
    | case2 => exact .cut (t := []) .nil
    | case3 d t ih => exact ih.pair (escape_iff.mpr rfl)
    | case4 c t hc ih => exact ih.plain hc
  · intro h
    cases h with
    | whole h => simpa [unescape] using unescape_spelled h []
    | cut h => simpa [unescape] using unescape_spelled h ['\\']

/-! ## What stands between a key and its value -/

/-- Whether a text is all blanks; the empty one is. -/
def Blank (t : Text) : Prop := ∀ c ∈ t, isBlank c = true

instance (t : Text) : Decidable (Blank t) := decidable_of_iff _ List.all_eq_true

/-- What may stand before a value: a mark with or without blanks around it, or blanks alone if no
mark follows. -/
inductive Separates (value : Text) : Text → Prop where
  | marked {before after : Text} {mark : Char} (hbefore : Blank before)
      (hmark : mark = '=' ∨ mark = ':') (hafter : Blank after) :
      Separates value (before ++ mark :: after)
  | blanks {s : Text} (hne : s ≠ []) (hs : Blank s)
      (hvalue : value.head? ≠ some '=' ∧ value.head? ≠ some ':') : Separates value s

theorem trimStart_blank {w : Text} (hw : Blank w) (t : Text) :
    Text.trimStart (w ++ t) = Text.trimStart t := List.dropWhile_append_of_pos hw

theorem trimStart_eq_self {t : Text} (h : ∀ c, t.head? = some c → isBlank c = false) :
    Text.trimStart t = t := by
  cases t with
  | nil => rfl
  | cons c t => exact Text.trimStart_cons_of_not_blank (h c rfl) t

theorem valueAfterMark_blank {w : Text} (hw : Blank w) {value : Text}
    (hvalue : ∀ c, value.head? = some c → isBlank c = false) :
    valueAfterMark (w ++ value) = unescape value := by
  rw [valueAfterMark, trimStart_blank hw, trimStart_eq_self hvalue]

theorem isMark_iff {c : Char} : isMark c = true ↔ c = '=' ∨ c = ':' := by
  simp [isMark]

theorem isMark_of_isBlank {c : Char} (h : isBlank c = true) : isMark c = false := by
  rw [Bool.eq_false_iff]
  intro hm
  rcases isMark_iff.mp hm with rfl | rfl <;> exact absurd h (by decide)

/-- Behind a key, a separator and a value read as the value, whatever the separator is. -/
theorem splitLine_separator {s value : Text} (hs : Separates value s)
    (hvalue : ∀ c, value.head? = some c → isBlank c = false) :
    splitLine (s ++ value) = ([], unescape value) := by
  cases hs with
  | @marked before after mark hbefore hmark hafter =>
    have hm := isMark_iff.mpr hmark
    cases before with
    | nil =>
      rw [List.nil_append, List.cons_append, splitLine_mark hm, valueAfterMark_blank hafter hvalue]
    | cons c before =>
      obtain ⟨hc, hrest⟩ := List.forall_mem_cons.mp hbefore
      have hblank : isBlank mark = false := by rcases hmark with rfl | rfl <;> decide
      -- The key ends at the first blank; the mark is found behind the other ones.
      have hread : valueAfterBlank (before ++ mark :: after ++ value) = unescape value := by
        rw [valueAfterBlank, List.append_assoc, trimStart_blank hrest, List.cons_append,
          Text.trimStart_cons_of_not_blank hblank, dropMark, if_pos hm,
          valueAfterMark_blank hafter hvalue]
      rw [List.cons_append, List.cons_append, splitLine_blank (isMark_of_isBlank hc) hc, hread]
  | blanks hne hblank hnomark =>
    obtain ⟨c, s, rfl⟩ := List.exists_cons_of_ne_nil hne
    obtain ⟨hc, hrest⟩ := List.forall_mem_cons.mp hblank
    have hdrop : dropMark value = value := by
      cases value with
      | nil => rfl
      | cons d value =>
        have hd : isMark d = false := by simpa [isMark] using hnomark
        simp [dropMark, hd]
    have hread : valueAfterBlank (s ++ value) = unescape value := by
      rw [valueAfterBlank, trimStart_blank hrest, trimStart_eq_self hvalue, hdrop, valueAfterMark,
        trimStart_eq_self hvalue]
    rw [List.cons_append, splitLine_blank (isMark_of_isBlank hc) hc, hread]

/-- A line that ends in a value without a carriage return at its end: what the line end takes away
is a blank behind the key, and what is left there separates still, or nothing is left to
separate. -/
theorem withoutReturn_separator {s value : Text} (hs : Separates value s)
    (hlast : value.getLast? ≠ some '\r') (t : Text) :
    ∃ s', Text.withoutReturn (t ++ s ++ value) = t ++ s' ++ value ∧
      (Separates value s' ∨ s' = [] ∧ value = []) := by
  by_cases hreturn : (t ++ s ++ value).getLast? = some '\r'
  · -- The value does not end in a carriage return, so it is empty.
    have hempty : value = [] := by
      by_contra hne
      rw [List.getLast?_append_of_ne_nil _ hne] at hreturn
      exact hlast hreturn
    subst hempty
    -- The carriage return is the last character of the separator.
    have hlost : ∀ s', s = s' ++ ['\r'] → Text.withoutReturn (t ++ s ++ []) = t ++ s' ++ [] := by
      rintro s' rfl
      rw [List.append_nil, List.append_nil, ← List.append_assoc, Text.withoutReturn_concat_return]
    rw [List.append_nil] at hreturn
    cases hs with
    | @marked before after mark hbefore hmark hafter =>
      rcases List.eq_nil_or_concat' after with rfl | ⟨after', c, rfl⟩
      · have hc : mark = '\r' := by simpa using hreturn
        rcases hmark with rfl | rfl <;> exact absurd hc (by decide)
      · have hc : c = '\r' := by simpa [List.getLast?_cons] using hreturn
        subst hc
        refine ⟨before ++ mark :: after', hlost _ (by simp), .inl (.marked hbefore hmark ?_)⟩
        exact fun d hd => hafter d (List.mem_append_left _ hd)
    | blanks hne hblank hnomark =>
      obtain ⟨s', c, rfl⟩ := (List.eq_nil_or_concat' s).resolve_left hne
      have hc : c = '\r' := by simpa using hreturn
      subst hc
      refine ⟨s', hlost s' rfl, ?_⟩
      by_cases hnil : s' = []
      · exact .inr ⟨hnil, rfl⟩
      · exact .inl (.blanks hnil (fun d hd => hblank d (List.mem_append_left _ hd)) hnomark)
  · exact ⟨s, Text.withoutReturn_of_getLast? hreturn, .inl hs⟩

/-! ## Whole lines -/

/-- The parts of a line that has an entry. -/
structure Line where
  indent : Text
  key : Text
  separator : Text
  value : Text
  indent_blank : Blank indent
  key_ne_nil : key ≠ []
  /-- The key is made of characters that it may hold without a backslash and of pairs of a backslash
  and any character. -/
  key_spelled : ∃ k, Spelled FreeInKey key k
  key_no_comment : key.head? ≠ some '#' ∧ key.head? ≠ some '!'
  separates : Separates value separator
  value_head : ∀ c, value.head? = some c → isBlank c = false
  value_last : value.getLast? ≠ some '\r'
  no_line_feed : '\n' ∉ indent ++ key ++ separator ++ value

namespace Line

variable {l : Line} {e : Text × Text}

/-- The line with its line feed. -/
def text (l : Line) : Text := l.indent ++ l.key ++ l.separator ++ l.value ++ ['\n']

/-- What the key and the value of a line stand for. -/
structure Spells (l : Line) (e : Text × Text) : Prop where
  key : Spelled FreeInKey l.key e.1
  value : SpelledValue l.value e.2

theorem exists_spells (l : Line) : ∃ e, l.Spells e := by
  obtain ⟨k, hk⟩ := l.key_spelled
  exact ⟨(k, unescape l.value), hk, unescape_eq_iff.mp rfl⟩

/-- The parts of a line stand for one entry only. -/
theorem Spells.unique {e' : Text × Text} (h : l.Spells e) (h' : l.Spells e') : e' = e := by
  have hkey := (splitLine_spelled h.key []).symm.trans (splitLine_spelled h'.key [])
  have hvalue := (unescape_eq_iff.mpr h.value).symm.trans (unescape_eq_iff.mpr h'.value)
  exact Prod.ext (by simpa [splitLine] using hkey.symm) hvalue.symm

/-- A written key is behind the blanks before it, and no comment. -/
theorem trimStart_key (l : Line) (rest : Text) :
    Text.trimStart (l.indent ++ (l.key ++ rest)) = l.key ++ rest ∧
      isComment (l.key ++ rest) = false := by
  obtain ⟨c, t, hkey⟩ := List.exists_cons_of_ne_nil l.key_ne_nil
  obtain ⟨k, hk⟩ := l.key_spelled
  obtain ⟨hnum, hbang⟩ := l.key_no_comment
  rw [hkey] at hk hnum hbang ⊢
  have hblank : isBlank c = false := by
    cases hk with
    | plain hc _ => exact hc.2.2.2
    | pair _ _ => decide
  rw [trimStart_blank l.indent_blank, List.cons_append, Text.trimStart_cons_of_not_blank hblank]
  refine ⟨rfl, ?_⟩
  simp only [List.head?_cons, ne_eq, Option.some.injEq] at hnum hbang
  simp [isComment, hnum, hbang]

/-- A line reads as the entry that its key and its value stand for. -/
theorem readLine_eq (h : l.Spells e) :
    readLine (Text.withoutReturn (l.indent ++ l.key ++ l.separator ++ l.value)) = some e := by
  obtain ⟨s, hline, hs⟩ := withoutReturn_separator l.separates l.value_last (l.indent ++ l.key)
  have hrest : splitLine (s ++ l.value) = ([], unescape l.value) := by
    rcases hs with hs | ⟨rfl, hvalue⟩
    · exact splitLine_separator hs l.value_head
    · rw [hvalue]
      rfl
  have hsplit : splitLine (l.key ++ (s ++ l.value)) = e := by
    rw [splitLine_spelled h.key, hrest, List.append_nil, unescape_eq_iff.mpr h.value]
  have hkey : e.1 ≠ [] := fun hnil => l.key_ne_nil (h.key.eq_nil hnil)
  obtain ⟨htrim, hcomment⟩ := l.trimStart_key (s ++ l.value)
  rw [hline, List.append_assoc, List.append_assoc, readLine, htrim]
  simp [hcomment, hsplit, hkey]

/-- The text of a line has the entry that its key and its value stand for. -/
theorem parse_text (h : l.Spells e) : parse l.text = OrderedMap.ofList [e] := by
  rw [parse, text, Text.lines_append_line_feed l.no_line_feed, Text.lines, List.filterMap_cons,
    readLine_eq h]
  rfl

end Line

/-- Exactly one entry is read from a line: the one that its key and its value stand for, each
character behind a backslash for itself or for one of four blanks, and a last lone backslash of the
value for nothing. So it makes no difference how far the line is indented, nor which separator
stands in it. -/
theorem parse_line (l : Line) :
    ∃ e, (∀ e', l.Spells e' ↔ e' = e) ∧ (parse l.text).toList = [e] ∧
      ∀ m : Line, m.key = l.key → m.value = l.value → parse m.text = parse l.text := by
  obtain ⟨e, he⟩ := l.exists_spells
  refine ⟨e, fun e' => ⟨he.unique, ?_⟩, ?_, fun m hkey hvalue => ?_⟩
  · rintro rfl
    exact he
  · rw [Line.parse_text he]
    rfl
  · have hm : m.Spells e := ⟨hkey ▸ he.key, hvalue ▸ he.value⟩
    rw [Line.parse_text hm, Line.parse_text he]

theorem spelled_oddKey : Spelled FreeInKey "\\#a\\ \\t".toList "#a \t".toList :=
  .pair (.itself (by decide))
    (.plain ⟨by decide, by decide, by decide, by decide⟩
      (.pair (.itself (by decide)) (.pair .tab .nil)))

/-- An indented line with blanks around a mark, and with a value that ends in a lone backslash. -/
def oddLine : Line where
  indent := "\u2003\t".toList
  key := "\\#a\\ \\t".toList
  separator := " \t:\x0c".toList
  value := "v\\n = \\".toList
  indent_blank := by decide
  key_ne_nil := by decide
  key_spelled := ⟨_, spelled_oddKey⟩
  key_no_comment := by decide
  separates := @Separates.marked _ " \t".toList "\x0c".toList ':' (by decide) (.inr rfl) (by decide)
  value_head c hc := by
    obtain rfl : 'v' = c := Option.some.inj hc
    decide
  value_last := by decide
  no_line_feed := by decide

/-- The same key and value with blanks between them. -/
def spacedLine : Line :=
  { oddLine with
    indent := []
    separator := "\r\x85".toList
    indent_blank := by decide
    separates := .blanks (by decide) (by decide) (by decide)
    no_line_feed := by decide }

/-- Both lines have the entry that their key and their value stand for. -/
theorem parse_line_oddLine :
    (parse oddLine.text).toList = [("#a \t".toList, "v\n = ".toList)] ∧
      (∃ e, (∀ e', oddLine.Spells e' ↔ e' = e) ∧ (parse oddLine.text).toList = [e]) ∧
      parse spacedLine.text = parse oddLine.text := by
  obtain ⟨e, hspells, hread, hsame⟩ := parse_line oddLine
  exact ⟨by decide +kernel, ⟨e, hspells, hread⟩, hsame spacedLine rfl rfl⟩

end Entries

end PortReservation
