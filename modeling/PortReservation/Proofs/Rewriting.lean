import PortReservation.Proofs.Booking

/-!
# Rewriting a file again and again

A rewrite of a file reads its entries and writes them, with a header and the time. Entries that do
not last change by that: a key is cut at a bare blank and may meet another one, a value loses the
bare blanks at its start, and an empty key is dropped. What reads back lasts, so this happens once.

* `lasting_rewrite`, `rewrite_of_lasting`: a rewrite leaves entries that last, and those it keeps.
* `rewrite_congr`: header and time do not matter.
* `rewrite_settles`: after one rewrite no other one changes the entries.
-/

namespace PortReservation

namespace Entries

/-- What a rewrite puts above the entries. -/
structure Heading where
  header : Text
  time : Millis

/-- The entries that read back after they were written under a heading. -/
def rewrite (m : Entries) (w : Heading) : Entries :=
  parse (render w.header (Timestamp.render w.time) m)

variable {m : Entries} {w v : Heading}

/-- A rewrite leaves entries that last, whatever was written. -/
theorem lasting_rewrite (hw : '\n' ∉ w.header) : ∀ e ∈ (m.rewrite w).toList, Lasting e :=
  fun _ he => lasting_of_mem_parse_render hw (Timestamp.line_feed_not_mem_render w.time) he

/-- A rewrite keeps entries that last. -/
theorem rewrite_of_lasting (hw : '\n' ∉ w.header) (h : ∀ e ∈ m.toList, Lasting e) :
    m.rewrite w = m :=
  parse_render hw (Timestamp.line_feed_not_mem_render w.time) h

/-- The heading of a rewrite does not matter. -/
theorem rewrite_congr (hw : '\n' ∉ w.header) (hv : '\n' ∉ v.header) (m : Entries) :
    m.rewrite w = m.rewrite v := by
  rw [rewrite, rewrite, parse_render_eq hw (Timestamp.line_feed_not_mem_render w.time),
    parse_render_eq hv (Timestamp.line_feed_not_mem_render v.time)]

/-- After one rewrite the entries stay as they are, however often and by whomever they are written
again: by induction on the rewrites that follow, as each of them meets entries that last. Which
rewrite comes first makes no difference. -/
theorem rewrite_settles {later : List Heading} (hw : '\n' ∉ w.header)
    (hlater : ∀ v ∈ later, '\n' ∉ v.header) (m : Entries) :
    (m.rewrite w).rewrite w = m.rewrite w ∧
      later.foldl rewrite (m.rewrite w) = m.rewrite w ∧
      ∀ v ∈ later, m.rewrite v = m.rewrite w := by
  have hlasting := lasting_rewrite (m := m) hw
  refine ⟨rewrite_of_lasting hw hlasting, ?_, fun v hv => rewrite_congr (hlater v hv) hw m⟩
  induction later with
  | nil => rfl
  | cons v later ih =>
    obtain ⟨hv, hrest⟩ := List.forall_mem_cons.mp hlater
    rw [List.foldl_cons, rewrite_of_lasting hv hlasting]
    exact ih hrest

/-- Entries with an empty key, with a key that is cut to another one at a form feed, and with a
value that starts with a form feed. -/
def brittleEntries : Entries :=
  OrderedMap.ofList
    [([], ['x']), ("a".toList, "2".toList), ("a\x0cb".toList, "1".toList),
      ("k".toList, "\x0cv".toList)]

/-- The first rewrite changes them, and no other one does. -/
theorem rewrite_settles_brittleEntries :
    '\n' ∉ header ∧ '\n' ∉ "another\r".toList ∧
      (brittleEntries.rewrite ⟨header, 1000⟩).toList =
        [("a".toList, "b=1".toList), ("k".toList, "v".toList)] ∧
      (brittleEntries.rewrite ⟨header, 1000⟩).rewrite ⟨header, 1000⟩ =
        brittleEntries.rewrite ⟨header, 1000⟩ ∧
      [⟨"another\r".toList, -1⟩, ⟨header, 2000⟩].foldl rewrite
          (brittleEntries.rewrite ⟨header, 1000⟩) =
        brittleEntries.rewrite ⟨header, 1000⟩ ∧
      ∀ v ∈ [⟨"another\r".toList, -1⟩, ⟨header, 2000⟩],
        brittleEntries.rewrite v = brittleEntries.rewrite ⟨header, 1000⟩ := by
  have hheader : '\n' ∉ header := by decide
  have hother : '\n' ∉ "another\r".toList := by decide
  have hlater : ∀ v ∈ [⟨"another\r".toList, -1⟩, (⟨header, 2000⟩ : Heading)], '\n' ∉ v.header := by
    simp [hheader]
  have hread : (brittleEntries.rewrite ⟨header, 1000⟩).toList =
      [("a".toList, "b=1".toList), ("k".toList, "v".toList)] := by decide +kernel
  exact ⟨hheader, hother, hread,
    rewrite_settles (w := ⟨header, 1000⟩) hheader hlater brittleEntries⟩

end Entries

end PortReservation
