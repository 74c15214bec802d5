import PortReservation.Proofs.RoundTrip
import PortReservation.Text.Utf8

/-!
# Lines of a ledger file

A line of a file ends behind a line feed; octets behind the last line feed are a line too. A line
feed is an ASCII octet, so what is no UTF-8 reads as replacements within its line, and no carriage
return, backslash or comment reaches beyond it. Each line reads as if it were a file of its own.

* `octetLines`: the lines of a file; `flatten_octetLines`, `line_feed_not_mem_dropLast`: no octet is
  lost, and line feeds stand at the end only.
* `get?_ofOctets_append`: a file cut between two lines.
* `size_ofOctets_line`: a line yields one entry at most.
* `ofOctets_linewise`: the entry of a key is that of the last line that yields the key, and other
  lines do not matter.
-/

namespace PortReservation

/-! ## Octets in lines -/

/-- The lines of some octets, each with its line feed; the last one may have none. -/
def octetLines : List UInt8 → List (List UInt8)
  | [] => []
  | b :: r =>
    if b = 0x0A then [b] :: octetLines r
    else
      match octetLines r with
      | [] => [[b]]
      | line :: rest => (b :: line) :: rest

/-- Octets without a line feed are in one line with what follows them. -/
theorem octetLines_append_line_feed {a : List UInt8} (ha : 0x0A ∉ a) (r : List UInt8) :
    octetLines (a ++ 0x0A :: r) = (a ++ [0x0A]) :: octetLines r := by
  induction a with
  | nil => rfl
  | cons b a ih =>
    have hb : b ≠ 0x0A := fun hb => ha (hb ▸ List.mem_cons_self)
    rw [List.cons_append, octetLines, if_neg hb, ih fun hm => ha (List.mem_cons_of_mem _ hm)]
    rfl

theorem octetLines_of_not_mem {a : List UInt8} (ha : 0x0A ∉ a) (hne : a ≠ []) :
    octetLines a = [a] := by
  induction a with
  | nil => exact absurd rfl hne
  | cons b a ih =>
    have hb : b ≠ 0x0A := fun hb => ha (hb ▸ List.mem_cons_self)
    rw [octetLines, if_neg hb]
    cases a with
    | nil => rfl
    | cons c a => rw [ih (fun hm => ha (List.mem_cons_of_mem _ hm)) (List.cons_ne_nil c a)]

/-- Octets have a line feed that comes first, or none. -/
theorem split_line_feed (f : List UInt8) :
    0x0A ∉ f ∨ ∃ a r, 0x0A ∉ a ∧ f = a ++ 0x0A :: r := by
  by_cases hf : (0x0A : UInt8) ∈ f
  · obtain ⟨a, r, heq, ha⟩ := List.eq_append_cons_of_mem hf
    exact .inr ⟨a, r, ha, heq⟩
  · exact .inl hf

/-- Octets line by line: by induction, the first line is taken off as long as there is a line
feed. -/
theorem lines_induction {motive : List UInt8 → Prop} (nil : motive [])
    (last : ∀ a, 0x0A ∉ a → a ≠ [] → motive a)
    (line : ∀ a r, 0x0A ∉ a → motive r → motive (a ++ 0x0A :: r)) (f : List UInt8) : motive f := by
  induction hn : f.length using Nat.strongRecOn generalizing f with
  | ind n ih =>
    by_cases hnil : f = []
    · exact hnil ▸ nil
    rcases split_line_feed f with hf | ⟨a, r, ha, rfl⟩
    · exact last f hf hnil
    · refine line a r ha (ih r.length ?_ r rfl)
      rw [List.length_append, List.length_cons] at hn
      omega

/-- The lines of some octets in order are the octets. -/
theorem flatten_octetLines (f : List UInt8) : (octetLines f).flatten = f := by
  induction f using lines_induction with
  | nil => rfl
  | last a ha hne => rw [octetLines_of_not_mem ha hne, List.flatten_singleton]
  | line a r ha ih => simp [octetLines_append_line_feed ha, ih]

/-- A line feed stands at the end of a line only. -/
theorem line_feed_not_mem_dropLast {f line : List UInt8} (h : line ∈ octetLines f) :
    0x0A ∉ line.dropLast := by
  induction f using lines_induction with
  | nil => cases h
  | last a ha hne =>
    rw [octetLines_of_not_mem ha hne] at h
    cases List.mem_singleton.mp h
    exact fun hm => ha (List.dropLast_subset line hm)
  | line a r ha ih =>
    rw [octetLines_append_line_feed ha] at h
    rcases List.mem_cons.mp h with rfl | h
    · rwa [List.dropLast_concat]
    · exact ih h

/-! ## Texts in lines -/

namespace Text

/-- A text without line feed is one line. -/
theorem lines_of_not_mem {t : Text} (h : '\n' ∉ t) (hne : t ≠ []) : lines t = [t] := by
  induction t with
  | nil => exact absurd rfl hne
  | cons c t ih =>
    have hc : c ≠ '\n' := fun hc => h (hc ▸ List.mem_cons_self)
    have ht : '\n' ∉ t := fun hm => h (List.mem_cons_of_mem _ hm)
    have hhead : t.head? ≠ some '\n' := fun hd => ht (List.mem_of_head? hd)
    rw [lines_cons hc fun _ => hhead]
    cases t with
    | nil => rfl
    | cons d t => rw [ih ht (List.cons_ne_nil d t), consFirst]

end Text

namespace Utf8

/-- Whether every character that ends from here is none of ASCII: the range of the next octet leaves
out forms that are longer than needed. Each octet to come adds six bits. -/
def State.Long : State → Prop
  | .start => True
  | .inside bits more next => 0x80 ≤ (bits * 64 + (next.low.toNat - 0x80)) <<< (6 * more)

instance : DecidablePred State.Long
  | .start => inferInstanceAs (Decidable True)
  | .inside _ _ _ => inferInstanceAs (Decidable (_ ≤ _))

/-- The first octet of a character of several leads to where no short form is possible, and only a
line feed reads as one. -/
theorem first_long (b : UInt8) :
    (first b).2.Long ∧ (b ≠ 0x0A → '\n' ∉ (first b).1) := by
  have hall : ∀ n < 256, (first (UInt8.ofNat n)).2.Long ∧
      (UInt8.ofNat n ≠ 0x0A → '\n' ∉ (first (UInt8.ofNat n)).1) := by decide +kernel
  have hb := hall b.toNat b.toNat_lt
  rwa [UInt8.ofNat_toNat] at hb

theorem ofNat_ne_line_feed {n : Nat} (h : 0x80 ≤ n) : '\n' ≠ Char.ofNat n := by
  intro heq
  have hn : 10 = (Char.ofNat n).toNat := congrArg Char.toNat heq
  by_cases hvalid : n.isValidChar
  · rw [Char.ofNat, dif_pos hvalid] at hn
    have h10 : 10 = n := hn
    omega
  · rw [Char.ofNat, dif_neg hvalid] at hn
    exact absurd hn (by decide)

theorem continued_long {bits more : Nat} (h : 0x80 ≤ bits <<< (6 * more)) :
    (continued bits more).2.Long ∧ '\n' ∉ (continued bits more).1 := by
  cases more with
  | zero =>
    refine ⟨trivial, fun hm => ?_⟩
    exact ofNat_ne_line_feed h (List.mem_singleton.mp hm)
  | succ more =>
    refine ⟨?_, by simp [continued]⟩
    have hshift : bits <<< (6 * (more + 1)) = (bits * 64) <<< (6 * more) := by
      rw [Nat.mul_succ, Nat.add_comm, Nat.shiftLeft_add, Nat.shiftLeft_eq bits 6]
    rw [hshift] at h
    exact h

/-- No octet but a line feed reads as one. -/
theorem step_long {s : State} (hs : s.Long) (b : UInt8) :
    (step s b).2.Long ∧ (b ≠ 0x0A → '\n' ∉ (step s b).1) := by
  cases s with
  | start => exact first_long b
  | inside bits more next =>
    rw [step]
    split
    · next hacc =>
      simp only [Tail.accepts, Bool.and_eq_true, decide_eq_true_eq, UInt8.le_iff_toNat_le] at hacc
      have hmono : (bits * 64 + (next.low.toNat - 0x80)) <<< (6 * more) ≤
          (bits * 64 + (b.toNat - 0x80)) <<< (6 * more) := by
        rw [Nat.shiftLeft_eq, Nat.shiftLeft_eq]
        exact Nat.mul_le_mul_right _ (by omega)
      exact (continued_long (Nat.le_trans hs hmono)).imp_right fun h _ => h
    · -- The character is cut off: its replacement is no line feed, and the octet is read anew.
      refine (first_long b).imp_right fun h hb hm => ?_
      rcases List.mem_cons.mp hm with hm | hm
      · exact absurd hm (by decide)
      · exact h hb hm

/-- Octets without a line feed read as a text without one. -/
theorem line_feed_not_mem_decodeFrom {s : State} (hs : s.Long) {a : List UInt8} (ha : 0x0A ∉ a) :
    '\n' ∉ decodeFrom s a := by
  induction a generalizing s with
  | nil => cases s <;> simp [decodeFrom, replacement]
  | cons b a ih =>
    have hb : b ≠ 0x0A := fun hb => ha (hb ▸ List.mem_cons_self)
    obtain ⟨hlong, hnot⟩ := step_long hs b
    rw [decodeFrom_cons, List.mem_append, not_or]
    exact ⟨hnot hb, ih hlong fun hm => ha (List.mem_cons_of_mem _ hm)⟩

/-- Octets cut at a line feed read as the two parts with a line feed between them, whatever the
first part ends in the middle of. -/
theorem decode_line_feed (a r : List UInt8) :
    decode (a ++ 0x0A :: r) = decode a ++ '\n' :: decode r := by
  -- A line feed ends what is unfinished before it, so it can be read with the first part.
  have hend : ∀ s : State, decodeFrom s (a ++ [0x0A]) = decodeFrom s a ++ ['\n'] := by
    induction a with
    | nil =>
      intro s
      rw [List.nil_append, decodeFrom_cons, step_ascii s (by decide)]
      exact List.append_nil _
    | cons b a ih =>
      intro s
      rw [List.cons_append, decodeFrom_cons, ih, decodeFrom_cons, List.append_assoc]
  rw [decode, decodeFrom_append_ascii .start a (by decide) r, hend, List.append_assoc]
  rfl

end Utf8

namespace Entries

/-! ## Entries in lines -/

/-- The entries that are read from the octets of a file. -/
def ofOctets (octets : List UInt8) : Entries := parse (Utf8.decode octets)

theorem get?_parse (t k : Text) :
    (parse t).get? k = OrderedMap.lookup k ((Text.lines t).filterMap readLine).reverse := by
  rw [parse, OrderedMap.ofList, OrderedMap.get?_insertAll, OrderedMap.get?_empty, Option.or_none]

/-- Of a file cut between two lines, the second part overrides the first one key by key. -/
theorem get?_ofOctets_append {a : List UInt8} (ha : a = [] ∨ a.getLast? = some 0x0A)
    (b : List UInt8) (k : Text) :
    (ofOctets (a ++ b)).get? k = ((ofOctets b).get? k).or ((ofOctets a).get? k) := by
  rcases ha with rfl | hlast
  · exact (Option.or_none).symm
  · obtain ⟨a, rfl⟩ := List.getLast?_eq_some_iff.mp hlast
    have hparts : ofOctets (a ++ [0x0A] ++ b) = parse (Utf8.decode a ++ '\n' :: Utf8.decode b) := by
      rw [ofOctets, List.append_assoc, List.singleton_append, Utf8.decode_line_feed]
    have hfirst : ofOctets (a ++ [0x0A]) = parse (Utf8.decode a ++ ['\n']) := by
      rw [ofOctets, Utf8.decode_line_feed]
      rfl
    rw [hparts, hfirst, parse_append, OrderedMap.get?_insertAll, ofOctets,
      get?_parse (Utf8.decode b)]

theorem size_ofList_le_one {l : List (Text × Text)} (h : l.length ≤ 1) :
    (OrderedMap.ofList l).size ≤ 1 := by
  match l, h with
  | [], _ => exact Nat.zero_le 1
  | [e], _ => exact Nat.le_refl 1

/-- A line yields one entry at most. -/
theorem size_ofOctets_line {f line : List UInt8} (h : line ∈ octetLines f) :
    (ofOctets line).size ≤ 1 := by
  have htext : ∀ t : Text, (Text.lines t).length ≤ 1 → (parse t).size ≤ 1 := fun t ht =>
    size_ofList_le_one (Nat.le_trans (List.length_filterMap_le _ _) ht)
  have hnot : ∀ a : List UInt8, 0x0A ∉ a → '\n' ∉ Utf8.decode a := fun a ha =>
    Utf8.line_feed_not_mem_decodeFrom (s := .start) trivial ha
  induction f using lines_induction with
  | nil => cases h
  | last a ha hne =>
    rw [octetLines_of_not_mem ha hne] at h
    cases List.mem_singleton.mp h
    refine htext _ ?_
    by_cases hempty : Utf8.decode line = []
    · rw [hempty]
      exact Nat.zero_le 1
    · rw [Text.lines_of_not_mem (hnot line ha) hempty]
      exact Nat.le_refl 1
  | line a r ha ih =>
    rw [octetLines_append_line_feed ha] at h
    rcases List.mem_cons.mp h with rfl | h
    · refine htext _ ?_
      rw [Utf8.decode_line_feed, Text.lines_append_line_feed (hnot a ha)]
      exact Nat.le_refl 1
    · exact ih h

/-- The value of a key is the one that the last line yields that has one for the key. -/
theorem get?_ofOctets_lines (f : List UInt8) (k : Text) :
    (ofOctets f).get? k =
      (octetLines f).reverse.findSome? fun line => (ofOctets line).get? k := by
  induction f using lines_induction with
  | nil => rfl
  | last a ha hne => simp [octetLines_of_not_mem ha hne]
  | line a r ha ih =>
    have hlast : (a ++ [0x0A]).getLast? = some 0x0A := List.getLast?_concat
    have hcut := get?_ofOctets_append (.inr hlast) r k
    rw [List.append_assoc, List.singleton_append] at hcut
    rw [hcut, octetLines_append_line_feed ha, List.reverse_cons, List.findSome?_append, ih]
    simp

/-- Nothing on one line of a file changes what another line yields. A file cut between two lines has
the entries of its first part, overridden by those of its second part. A line that yields nothing
for a key can be put in or taken out: a comment, one without a key, one with a broken escape or with
octets that are no UTF-8. So in every file the entry of a key is that of the last line that yields
one. -/
theorem ofOctets_linewise {a : List UInt8} (ha : a = [] ∨ a.getLast? = some 0x0A)
    (b : List UInt8) :
    (∀ k, (ofOctets (a ++ b)).get? k = ((ofOctets b).get? k).or ((ofOctets a).get? k)) ∧
      (∀ line k, line.getLast? = some 0x0A → (ofOctets line).get? k = none →
        (ofOctets (a ++ line ++ b)).get? k = (ofOctets (a ++ b)).get? k) ∧
      ∀ f, (octetLines f).flatten = f ∧
        (∀ line ∈ octetLines f, 0x0A ∉ line.dropLast ∧ (ofOctets line).size ≤ 1) ∧
        ∀ k, (ofOctets f).get? k =
          (octetLines f).reverse.findSome? fun line => (ofOctets line).get? k := by
  refine ⟨get?_ofOctets_append ha b, fun line k hline hnone => ?_, fun f => ⟨flatten_octetLines f,
    fun line hline => ⟨line_feed_not_mem_dropLast hline, size_ofOctets_line hline⟩,
    get?_ofOctets_lines f⟩⟩
  have hafter : (ofOctets (line ++ b)).get? k = (ofOctets b).get? k := by
    rw [get?_ofOctets_append (.inr hline), hnone, Option.or_none]
  rw [List.append_assoc, get?_ofOctets_append ha, hafter, get?_ofOctets_append ha]

/-- A line whose value is cut off inside a character and inside an escape. -/
def cutOffLine : List UInt8 := [0x6B, 0x3D, 0xE2, 0x82, 0x5C, 0x0A]

/-- A line without a line feed that ends in a carriage return. -/
def openLine : List UInt8 := [0x71, 0x20, 0x31, 0x0D]

/-- Each of them yields what it yields alone, and a comment between them changes nothing. -/
theorem ofOctets_linewise_cutOffLine :
    cutOffLine.getLast? = some 0x0A ∧
      (ofOctets (cutOffLine ++ openLine)).toList =
        [(['k'], [Utf8.replacement]), (['q'], ['1', '\r'])] ∧
      (∀ k, (ofOctets (cutOffLine ++ openLine)).get? k =
        ((ofOctets openLine).get? k).or ((ofOctets cutOffLine).get? k)) ∧
      (ofOctets (cutOffLine ++ [0x23, 0x5C, 0x0A] ++ openLine)).get? ['k'] =
        (ofOctets (cutOffLine ++ openLine)).get? ['k'] ∧
      octetLines (cutOffLine ++ openLine) = [cutOffLine, openLine] ∧
      ∀ k, (ofOctets (cutOffLine ++ openLine)).get? k =
        (octetLines (cutOffLine ++ openLine)).reverse.findSome? fun line =>
          (ofOctets line).get? k := by
  have hlast : cutOffLine.getLast? = some 0x0A := rfl
  have hread : (ofOctets (cutOffLine ++ openLine)).toList =
      [(['k'], [Utf8.replacement]), (['q'], ['1', '\r'])] := by decide +kernel
  obtain ⟨happend, hline, hfile⟩ := ofOctets_linewise (.inr hlast) openLine
  exact ⟨hlast, hread, happend, hline _ ['k'] rfl rfl, rfl, (hfile _).2.2⟩

end Entries

end PortReservation
