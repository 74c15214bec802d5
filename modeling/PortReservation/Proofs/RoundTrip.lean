import Mathlib.Data.List.Basic
import PortReservation.Entries.Reader
import PortReservation.Entries.Writer
import PortReservation.Proofs.OrderedMap

/-!
# What a rewrite keeps

A written file has a line for each entry, in which every backslash stands before a character that
the writer escapes (`Escaped`). Reading such a line gives the entry back exactly where the entry is
*lasting*: its key has a character, no blank that is written as it is stands in the key, and none
stands at the start of the value. Of every other entry the line reads as a lasting one or as none.

* `parse_render`: entries that last read back as they were written.
* `lasting_of_mem_parse_render`: whatever was written, what reads back lasts.
* `parse_render_eq_self_iff`: which entries read back as they were written.
-/

namespace PortReservation

namespace Text

/-! ## Lines of a written text -/

/-- A line without a carriage return at its end. -/
def withoutReturn : Text → Text
  | [] => []
  | c :: t => if c = '\r' ∧ t = [] then [] else c :: withoutReturn t

theorem withoutReturn_of_not_mem {t : Text} (h : '\r' ∉ t) : withoutReturn t = t := by
  induction t with
  | nil => rfl
  | cons c t ih =>
    have hc : ¬(c = '\r' ∧ t = []) := fun hc => h (hc.1 ▸ List.mem_cons_self)
    rw [withoutReturn, if_neg hc, ih fun hm => h (List.mem_cons_of_mem _ hm)]

/-- A text without line feed is a line if a line feed follows it. -/
theorem lines_append_line_feed {a : Text} (h : '\n' ∉ a) (b : Text) :
    lines (a ++ '\n' :: b) = withoutReturn a :: lines b := by
  induction a with
  | nil => exact lines_line_feed b
  | cons c a ih =>
    have hc : c ≠ '\n' := fun hc => h (hc ▸ List.mem_cons_self)
    have ha : '\n' ∉ a := fun hm => h (List.mem_cons_of_mem _ hm)
    rw [withoutReturn]
    split
    · next hcr =>
      obtain ⟨rfl, rfl⟩ := hcr
      simp [lines]
    · next hcr =>
      have hhead : c = '\r' → (a ++ '\n' :: b).head? ≠ some '\n' := by
        intro hr
        cases a with
        | nil => exact absurd ⟨hr, rfl⟩ hcr
        | cons d a => simpa using fun hd : d = '\n' => ha (hd ▸ List.mem_cons_self)
      rw [List.cons_append, lines_cons hc hhead, ih ha]
      rfl

end Text

namespace Entries

/-! ## Characters -/

/-- Whether a character is a blank that is written without a backslash before it. -/
def isBareBlank (c : Char) : Bool :=
  isBlank c && !(c == ' ' || c == '\t' || c == '\n' || c == '\r')

/-- The characters that the writer puts behind a backslash. -/
def escapeLetters : Text := ['\\', 't', 'n', 'r', '=', ':', '#', '!', ' ']

theorem unescapeChar_not_bareBlank :
    ∀ d ∈ escapeLetters, isBareBlank (unescapeChar d) = false := by
  intro d hd
  simp only [escapeLetters, List.mem_cons, List.not_mem_nil, or_false] at hd
  rcases hd with rfl | rfl | rfl | rfl | rfl | rfl | rfl | rfl | rfl <;> rfl

/-- A blank that is not bare is one of the four that are written behind a backslash. -/
theorem eq_of_isBlank {c : Char} (hb : isBlank c = true) (h : isBareBlank c = false) :
    c = ' ' ∨ c = '\t' ∨ c = '\n' ∨ c = '\r' := by
  simp only [isBareBlank, hb, Bool.true_and, Bool.not_eq_false', Bool.or_eq_true,
    beq_iff_eq, or_assoc] at h
  exact h

theorem splitLine_escape (d : Char) (t : Text) :
    splitLine ('\\' :: d :: t) = (unescapeChar d :: (splitLine t).1, (splitLine t).2) := rfl

theorem splitLine_mark {c : Char} (h : isMark c = true) (t : Text) :
    splitLine (c :: t) = ([], valueAfterMark t) := by
  have hc : c ≠ '\\' := by rintro rfl; exact absurd h (by decide)
  rw [splitLine.eq_def]
  simp [hc, h]

theorem splitLine_blank {c : Char} (hm : isMark c = false) (h : isBlank c = true) (t : Text) :
    splitLine (c :: t) = ([], valueAfterBlank t) := by
  have hc : c ≠ '\\' := by rintro rfl; exact absurd h (by decide)
  rw [splitLine.eq_def]
  simp [hc, hm, h]

theorem splitLine_plain {c : Char} (hc : c ≠ '\\') (hm : isMark c = false)
    (hb : isBlank c = false) (t : Text) :
    splitLine (c :: t) = (c :: (splitLine t).1, (splitLine t).2) := by
  rw [splitLine.eq_def]
  simp [hc, hm, hb]

theorem unescape_escape (d : Char) (t : Text) :
    unescape ('\\' :: d :: t) = unescapeChar d :: unescape t := rfl

theorem unescape_plain {c : Char} (hc : c ≠ '\\') (t : Text) :
    unescape (c :: t) = c :: unescape t := by
  rw [unescape.eq_def]
  simp [hc]

/-- The characters that are never written as they are; a space is, but not everywhere. -/
def escapedChars : Text := ['\\', '\t', '\n', '\r', '=', ':', '#', '!']

/-- A character is written behind a backslash, so that it reads back, or as it is. -/
theorem escapeChar_cases (c : Char) :
    (∃ d ∈ escapeLetters, unescapeChar d = c ∧ escapeChar c = ['\\', d]) ∨
      c ∉ escapedChars ∧ escapeChar c = [c] := by
  by_cases hc : c ∈ escapedChars
  · refine .inl ?_
    simp only [escapedChars, List.mem_cons, List.not_mem_nil, or_false] at hc
    rcases hc with rfl | rfl | rfl | rfl | rfl | rfl | rfl | rfl
    · exact ⟨'\\', by decide, rfl, rfl⟩
    · exact ⟨'t', by decide, rfl, rfl⟩
    · exact ⟨'n', by decide, rfl, rfl⟩
    · exact ⟨'r', by decide, rfl, rfl⟩
    · exact ⟨'=', by decide, rfl, rfl⟩
    · exact ⟨':', by decide, rfl, rfl⟩
    · exact ⟨'#', by decide, rfl, rfl⟩
    · exact ⟨'!', by decide, rfl, rfl⟩
  · refine .inr ⟨hc, ?_⟩
    simp only [escapedChars, List.mem_cons, List.not_mem_nil, or_false, not_or] at hc
    simp [escapeChar, hc]

/-- The same of a character of a key, a space included. -/
theorem escapeSpace_cases (c : Char) :
    (∃ d ∈ escapeLetters, unescapeChar d = c ∧ escapeSpace c = ['\\', d]) ∨
      c ≠ ' ' ∧ c ∉ escapedChars ∧ escapeSpace c = [c] := by
  by_cases hc : c = ' '
  · subst hc
    exact .inl ⟨' ', by decide, rfl, rfl⟩
  · rw [escapeSpace, if_neg hc]
    exact (escapeChar_cases c).imp_right fun h => ⟨hc, h⟩

/-- A character that is written as it is in a key is no mark, and a blank only if it is bare. -/
theorem plain_of_not_escaped {c : Char} (hspace : c ≠ ' ') (hc : c ∉ escapedChars) :
    c ≠ '\\' ∧ isMark c = false ∧ (isBareBlank c = false → isBlank c = false) := by
  simp only [escapedChars, List.mem_cons, List.not_mem_nil, or_false, not_or] at hc
  obtain ⟨hbs, htab, hlf, hcr, heq, hcolon, -⟩ := hc
  refine ⟨hbs, by simp [isMark, heq, hcolon], fun hbare => ?_⟩
  rw [Bool.eq_false_iff]
  intro hb
  rcases eq_of_isBlank hb hbare with h | h | h | h
  · exact hspace h
  · exact htab h
  · exact hlf h
  · exact hcr h

/-! ## Keys and values -/

/-- A written character of a key reads as the character. -/
theorem splitLine_escapeSpace {c : Char} (h : isBareBlank c = false) (t : Text) :
    splitLine (escapeSpace c ++ t) = (c :: (splitLine t).1, (splitLine t).2) := by
  rcases escapeSpace_cases c with ⟨d, -, hd, he⟩ | ⟨hspace, hc, he⟩
  · rw [he, ← hd]
    exact splitLine_escape d t
  · obtain ⟨hbs, hm, hb⟩ := plain_of_not_escaped hspace hc
    rw [he]
    exact splitLine_plain hbs hm (hb h) t

/-- A written key reads as the key where no bare blank is in it. -/
theorem splitLine_escapeKey {key : Text} (h : ∀ c ∈ key, isBareBlank c = false) (t : Text) :
    splitLine (escapeKey key ++ '=' :: t) = (key, valueAfterMark t) := by
  induction key with
  | nil => exact splitLine_mark rfl t
  | cons c key ih =>
    have hkey := ih fun d hd => h d (List.mem_cons_of_mem _ hd)
    rw [escapeKey, List.flatMap_cons, List.append_assoc,
      splitLine_escapeSpace (h c List.mem_cons_self), ← escapeKey, hkey]

theorem unescape_escapeChar (c : Char) (t : Text) :
    unescape (escapeChar c ++ t) = c :: unescape t := by
  rcases escapeChar_cases c with ⟨d, -, hd, he⟩ | ⟨hc, he⟩
  · rw [he, ← hd]
    exact unescape_escape d t
  · rw [he]
    exact unescape_plain (fun hbs => hc (by simp [hbs, escapedChars])) t

theorem unescape_escapeSpace (c : Char) (t : Text) :
    unescape (escapeSpace c ++ t) = c :: unescape t := by
  rw [escapeSpace]
  split
  · next hc => subst hc; rfl
  · exact unescape_escapeChar c t

theorem unescape_flatMap_escapeChar (t : Text) : unescape (t.flatMap escapeChar) = t := by
  induction t with
  | nil => rfl
  | cons c t ih => rw [List.flatMap_cons, unescape_escapeChar, ih]

/-- What a key or a value starts with: a backslash, or a character that is its own written form. -/
theorem escapeSpace_eq_cons (c : Char) :
    ∃ d t, escapeSpace c = d :: t ∧ d ≠ '#' ∧ d ≠ '!' ∧
      (isBareBlank c = false → isBlank d = false) := by
  rcases escapeSpace_cases c with ⟨d, -, -, he⟩ | ⟨hspace, hc, he⟩
  · exact ⟨'\\', [d], he, by decide, by decide, fun _ => by decide⟩
  · exact ⟨c, [], he, fun h => hc (by simp [h, escapedChars]),
      fun h => hc (by simp [h, escapedChars]), (plain_of_not_escaped hspace hc).2.2⟩

/-- A written value reads as the value where it does not start with a bare blank. -/
theorem valueAfterMark_escapeValue {value : Text}
    (h : ∀ c, value.head? = some c → isBareBlank c = false) :
    valueAfterMark (escapeValue value) = value := by
  cases value with
  | nil => rfl
  | cons c t =>
    obtain ⟨d, r, hd, -, -, hblank⟩ := escapeSpace_eq_cons c
    have htrim : Text.trimStart (escapeSpace c ++ t.flatMap escapeChar) =
        escapeSpace c ++ t.flatMap escapeChar := by
      rw [hd]
      exact Text.trimStart_cons_of_not_blank (hblank (h c rfl)) _
    rw [escapeValue, valueAfterMark, htrim, unescape_escapeSpace, unescape_flatMap_escapeChar]

/-! ## Lasting entries -/

/-- An entry that reads back as it was written. -/
structure Lasting (e : Text × Text) : Prop where
  key_ne_nil : e.1 ≠ []
  key_plain : ∀ c ∈ e.1, isBareBlank c = false
  value_head : ∀ c, e.2.head? = some c → isBareBlank c = false

/-- The line of an entry, without its line feed. -/
def lineOf (e : Text × Text) : Text := escapeKey e.1 ++ '=' :: escapeValue e.2

/-- The line of a lasting entry reads as the entry. -/
theorem readLine_lineOf {e : Text × Text} (h : Lasting e) : readLine (lineOf e) = some e := by
  obtain ⟨key, value⟩ := e
  obtain ⟨c, t, rfl⟩ := List.exists_cons_of_ne_nil h.key_ne_nil
  obtain ⟨d, r, hd, hnum, hbang, hblank⟩ := escapeSpace_eq_cons c
  have hline : lineOf (c :: t, value) = d :: (r ++ escapeKey t ++ '=' :: escapeValue value) := by
    simp [lineOf, escapeKey, hd]
  have hsplit : splitLine (lineOf (c :: t, value)) = (c :: t, value) := by
    rw [lineOf, splitLine_escapeKey h.key_plain, valueAfterMark_escapeValue h.value_head]
  have htrim : Text.trimStart (lineOf (c :: t, value)) = lineOf (c :: t, value) := by
    rw [hline]
    exact Text.trimStart_cons_of_not_blank (hblank (h.key_plain c List.mem_cons_self)) _
  have hcomment : isComment (lineOf (c :: t, value)) = false := by
    rw [hline]
    simp [isComment, hnum, hbang]
  simp [readLine, htrim, hsplit, hcomment]

/-! ## Written text -/

/-- A text in which a backslash stands only before a character that the writer escapes, and in which
no line ends. -/
inductive Escaped : Text → Prop where
  | nil : Escaped []
  | plain {c : Char} {t : Text} (hbs : c ≠ '\\') (hlf : c ≠ '\n') (hcr : c ≠ '\r') (h : Escaped t) :
      Escaped (c :: t)
  | pair {d : Char} {t : Text} (hd : d ∈ escapeLetters) (h : Escaped t) : Escaped ('\\' :: d :: t)

theorem Escaped.append {s t : Text} (hs : Escaped s) (ht : Escaped t) : Escaped (s ++ t) := by
  induction hs with
  | nil => exact ht
  | plain hbs hlf hcr _ ih => exact .plain hbs hlf hcr ih
  | pair hd _ ih => exact .pair hd ih

theorem Escaped.no_line_end {t : Text} (h : Escaped t) : '\n' ∉ t ∧ '\r' ∉ t := by
  induction h with
  | nil => simp
  | plain hbs hlf hcr _ ih => simp [ih, hlf.symm, hcr.symm]
  | @pair d t hd _ ih =>
    have hlf : '\n' ≠ d := by rintro rfl; exact absurd hd (by decide)
    have hcr : '\r' ≠ d := by rintro rfl; exact absurd hd (by decide)
    simp [ih, hlf, hcr]

theorem escaped_escapeChar (c : Char) : Escaped (escapeChar c) := by
  rcases escapeChar_cases c with ⟨d, hd, -, he⟩ | ⟨hc, he⟩
  · exact he ▸ .pair hd .nil
  · simp only [escapedChars, List.mem_cons, List.not_mem_nil, or_false, not_or] at hc
    exact he ▸ .plain hc.1 hc.2.2.1 hc.2.2.2.1 .nil

theorem escaped_escapeSpace (c : Char) : Escaped (escapeSpace c) := by
  rw [escapeSpace]
  split
  · exact .pair (by decide) .nil
  · exact escaped_escapeChar c

theorem Escaped.flatMap {f : Char → Text} (hf : ∀ c, Escaped (f c)) (t : Text) :
    Escaped (t.flatMap f) := by
  induction t with
  | nil => exact .nil
  | cons c t ih => exact (hf c).append ih

theorem escaped_lineOf (e : Text × Text) : Escaped (lineOf e) := by
  have hvalue : Escaped (escapeValue e.2) := by
    cases e.2 with
    | nil => exact .nil
    | cons c t => exact (escaped_escapeSpace c).append (.flatMap escaped_escapeChar t)
  exact (Escaped.flatMap escaped_escapeSpace e.1).append
    (.plain (by decide) (by decide) (by decide) hvalue)

theorem Escaped.trimStart {t : Text} (h : Escaped t) : Escaped (Text.trimStart t) := by
  induction h with
  | nil => exact .nil
  | @plain c t hbs hlf hcr h ih =>
    cases hb : isBlank c with
    | true => rwa [Text.trimStart_cons_of_blank hb]
    | false =>
      rw [Text.trimStart_cons_of_not_blank hb]
      exact .plain hbs hlf hcr h
  | pair hd h _ =>
    rw [Text.trimStart_cons_of_not_blank (by decide)]
    exact .pair hd h

theorem Escaped.dropMark {t : Text} (h : Escaped t) : Escaped (dropMark t) := by
  cases h with
  | nil => exact .nil
  | plain hbs hlf hcr h =>
    rw [Entries.dropMark]
    split
    · exact h
    · exact .plain hbs hlf hcr h
  | pair hd h => exact .pair hd h

/-- A value that is read from written text starts with no bare blank. -/
theorem Escaped.head_valueAfterMark {t : Text} (h : Escaped t) {c : Char}
    (hc : (valueAfterMark t).head? = some c) : isBareBlank c = false := by
  rw [valueAfterMark] at hc
  cases ht : Text.trimStart t with
  | nil =>
    rw [ht] at hc
    cases hc
  | cons d s =>
    have hd := Text.head_trimStart_not_blank ht
    have hs := h.trimStart
    rw [ht] at hs hc
    cases hs with
    | plain hbs _ _ _ =>
      rw [unescape_plain hbs, List.head?_cons, Option.some.injEq] at hc
      simp [isBareBlank, ← hc, hd]
    | pair hletter _ =>
      rw [unescape_escape, List.head?_cons, Option.some.injEq] at hc
      exact hc ▸ unescapeChar_not_bareBlank _ hletter

/-- No bare blank is in a key, and none at the start of a value, that is read from written text. -/
theorem Escaped.splitLine {t : Text} (h : Escaped t) :
    (∀ c ∈ (splitLine t).1, isBareBlank c = false) ∧
      ∀ c, (splitLine t).2.head? = some c → isBareBlank c = false := by
  induction h with
  | nil => exact ⟨by simp [Entries.splitLine], by simp [Entries.splitLine]⟩
  | @plain c t hbs hlf hcr h ih =>
    by_cases hm : isMark c = true
    · rw [splitLine_mark hm]
      exact ⟨by simp, fun _ => h.head_valueAfterMark⟩
    rw [Bool.not_eq_true] at hm
    by_cases hb : isBlank c = true
    · rw [splitLine_blank hm hb]
      exact ⟨by simp, fun _ => h.trimStart.dropMark.head_valueAfterMark⟩
    rw [Bool.not_eq_true] at hb
    rw [splitLine_plain hbs hm hb]
    exact ⟨List.forall_mem_cons.mpr ⟨by simp [isBareBlank, hb], ih.1⟩, ih.2⟩
  | @pair d t hd h ih =>
    rw [splitLine_escape]
    exact ⟨List.forall_mem_cons.mpr ⟨unescapeChar_not_bareBlank d hd, ih.1⟩, ih.2⟩

/-- What is read from a written line lasts. -/
theorem Escaped.lasting {line : Text} (h : Escaped line) {e : Text × Text}
    (he : readLine line = some e) : Lasting e := by
  obtain ⟨hkey, hvalue⟩ := h.trimStart.splitLine
  simp only [readLine] at he
  split at he
  · cases he
  · next hne =>
    cases he
    simp only [Bool.or_eq_true, not_or, Bool.not_eq_true, List.isEmpty_eq_false_iff] at hne
    exact ⟨hne.2, hkey, hvalue⟩

/-! ## Whole files -/

theorem lines_flatMap_renderEntry (l : List (Text × Text)) :
    Text.lines (l.flatMap renderEntry) = l.map lineOf := by
  induction l with
  | nil => rfl
  | cons e l ih =>
    have hend := (escaped_lineOf e).no_line_end
    have happend : (e :: l).flatMap renderEntry = lineOf e ++ '\n' :: l.flatMap renderEntry := by
      simp [renderEntry, lineOf]
    rw [happend, Text.lines_append_line_feed hend.1, Text.withoutReturn_of_not_mem hend.2, ih,
      List.map_cons]

/-- A line that starts with a number sign has no entry. -/
theorem readLine_comment (t : Text) : readLine (Text.withoutReturn ('#' :: t)) = none := by
  rw [Text.withoutReturn, if_neg (fun h => absurd h.1 (by decide)), readLine,
    Text.trimStart_cons_of_not_blank (by decide)]
  rfl

/-- The entries of a written file are those of the lines of the entries written. -/
theorem parse_render_eq {header stamp : Text} (hheader : '\n' ∉ header) (hstamp : '\n' ∉ stamp)
    (m : Entries) :
    parse (render header stamp m) =
      OrderedMap.ofList (m.toList.filterMap fun e => readLine (lineOf e)) := by
  have hlines : Text.lines (render header stamp m) =
      Text.withoutReturn ('#' :: header) :: Text.withoutReturn ('#' :: stamp) ::
        m.toList.map lineOf := by
    have hrender : render header stamp m =
        ('#' :: header) ++ '\n' :: (('#' :: stamp) ++ '\n' :: m.toList.flatMap renderEntry) := by
      simp [render]
    rw [hrender, Text.lines_append_line_feed (by simpa using hheader),
      Text.lines_append_line_feed (by simpa using hstamp), lines_flatMap_renderEntry]
  rw [parse, hlines, List.filterMap_cons_none (readLine_comment header),
    List.filterMap_cons_none (readLine_comment stamp), List.filterMap_map]
  rfl

/-- Entries that last read back as they were written. -/
theorem parse_render {header stamp : Text} (hheader : '\n' ∉ header) (hstamp : '\n' ∉ stamp)
    {m : Entries} (h : ∀ e ∈ m.toList, Lasting e) : parse (render header stamp m) = m := by
  have hread : m.toList.filterMap (fun e => readLine (lineOf e)) = m.toList.filterMap some :=
    List.filterMap_congr fun e he => readLine_lineOf (h e he)
  rw [parse_render_eq hheader hstamp, hread, List.filterMap_some, OrderedMap.ofList_toList]

/-- Whatever was written, what reads back lasts. -/
theorem lasting_of_mem_parse_render {header stamp : Text} (hheader : '\n' ∉ header)
    (hstamp : '\n' ∉ stamp) {m : Entries} {e : Text × Text}
    (he : e ∈ (parse (render header stamp m)).toList) : Lasting e := by
  rw [parse_render_eq hheader hstamp] at he
  obtain ⟨d, -, hd⟩ := List.mem_filterMap.mp (OrderedMap.mem_of_mem_ofList he)
  exact (escaped_lineOf d).lasting hd

/-- A character is no bare blank exactly if it is one of the four blanks that the writer escapes, or
no blank at all. -/
theorem isBareBlank_eq_false_iff {c : Char} :
    isBareBlank c = false ↔ (isBlank c = true → c = ' ' ∨ c = '\t' ∨ c = '\n' ∨ c = '\r') := by
  constructor
  · intro h hb
    exact eq_of_isBlank hb h
  · intro h
    cases hb : isBlank c with
    | false => simp [isBareBlank, hb]
    | true => rcases h hb with rfl | rfl | rfl | rfl <;> rfl

/-- Entries read back as they were written exactly if every key has a character and no blank but
those that the writer escapes, and no value starts with such a blank. Any other character may stand
anywhere. -/
theorem parse_render_eq_self_iff {header stamp : Text} (hheader : '\n' ∉ header)
    (hstamp : '\n' ∉ stamp) (m : Entries) :
    parse (render header stamp m) = m ↔
      ∀ e ∈ m.toList, e.1 ≠ [] ∧
        (∀ c ∈ e.1, isBlank c = true → c = ' ' ∨ c = '\t' ∨ c = '\n' ∨ c = '\r') ∧
        ∀ c, e.2.head? = some c →
          isBlank c = true → c = ' ' ∨ c = '\t' ∨ c = '\n' ∨ c = '\r' := by
  simp only [← isBareBlank_eq_false_iff]
  constructor
  · intro heq e he
    rw [← heq] at he
    obtain ⟨hne, hkey, hvalue⟩ := lasting_of_mem_parse_render hheader hstamp he
    exact ⟨hne, hkey, hvalue⟩
  · intro h
    refine parse_render hheader hstamp fun e he => ?_
    obtain ⟨hne, hkey, hvalue⟩ := h e he
    exact ⟨hne, hkey, hvalue⟩

/-- Keys and values with every kind of character that the writer escapes, with blanks that it does
not escape inside a value, and with a value that starts with a space. -/
def oddEntries : Entries :=
  OrderedMap.ofList
    [("# a=b:!\t\n\r\\\x00".toList, " v\x0c\u2003 ".toList), ("\\t".toList, []),
      ("ключ".toList, "=:#!\x85".toList)]

/-- They read back as they were written. -/
theorem parse_render_eq_self_iff_oddEntries :
    '\n' ∉ header ∧ '\n' ∉ "now\r".toList ∧
      parse (render header "now\r".toList oddEntries) = oddEntries ∧
      (parse (render header "now\r".toList oddEntries) = oddEntries ↔
        ∀ e ∈ oddEntries.toList, e.1 ≠ [] ∧
          (∀ c ∈ e.1, isBlank c = true → c = ' ' ∨ c = '\t' ∨ c = '\n' ∨ c = '\r') ∧
          ∀ c, e.2.head? = some c →
            isBlank c = true → c = ' ' ∨ c = '\t' ∨ c = '\n' ∨ c = '\r') := by
  have hheader : '\n' ∉ header := by decide
  have hstamp : '\n' ∉ "now\r".toList := by decide
  have hiff := parse_render_eq_self_iff hheader hstamp oddEntries
  have hread : parse (render header "now\r".toList oddEntries) = oddEntries :=
    OrderedMap.ext (by decide +kernel)
  exact ⟨hheader, hstamp, hread, hiff⟩

/-- No key that is read is empty. -/
theorem key_ne_nil_of_mem_parse {t : Text} {e : Text × Text} (he : e ∈ (parse t).toList) :
    e.1 ≠ [] := by
  obtain ⟨line, -, hline⟩ := List.mem_filterMap.mp (OrderedMap.mem_of_mem_ofList he)
  simp only [readLine] at hline
  split at hline
  · cases hline
  · next hne =>
    cases hline
    simp only [Bool.or_eq_true, not_or, Bool.not_eq_true, List.isEmpty_eq_false_iff] at hne
    exact hne.2

end Entries

end PortReservation
