import PortReservation.Text.Basic

/-!
# Lines

A line ends at a line feed; one carriage return directly before that line feed belongs to the line
end and not to the line. What follows the last line feed is a line of its own unless it is empty,
and keeps a carriage return at its end.

* `lines_append`: a text cut behind a line feed has the lines of its two parts.
-/

namespace PortReservation

namespace Text

/-- The lines of a text, without their line ends. -/
def lines : Text → List Text
  | [] => []
  | '\n' :: t => [] :: lines t
  | '\r' :: '\n' :: t => [] :: lines t
  | c :: t => consFirst c (lines t)

/-- A line feed ends an empty line. -/
theorem lines_line_feed (t : Text) : lines ('\n' :: t) = [] :: lines t := by
  simp [lines]

/-- A character that takes no part in a line end belongs to the first line. -/
theorem lines_cons {c : Char} {t : Text} (hlf : c ≠ '\n')
    (hcr : c = '\r' → t.head? ≠ some '\n') : lines (c :: t) = consFirst c (lines t) := by
  rw [lines]
  · exact hlf
  · rintro s hc rfl
    exact hcr hc rfl

theorem lines_ne_nil {t : Text} (h : t ≠ []) : lines t ≠ [] := by
  rw [lines.eq_def]
  split <;> simp_all [consFirst_ne_nil]

/-- A text cut behind a line feed has the lines of its two parts. -/
theorem lines_append (a b : Text) :
    lines (a ++ '\n' :: b) = lines (a ++ ['\n']) ++ lines b := by
  fun_induction lines a with
  | case1 => simp [lines]
  | case2 t ih => simpa [lines] using ih
  | case3 t ih => simpa [lines] using ih
  | case4 c t hlf hcrlf ih =>
    by_cases h : c = '\r' ∧ t = []
    · obtain ⟨rfl, rfl⟩ := h
      simp [lines]
    · have hcr : ∀ s : Text, c = '\r' → (t ++ '\n' :: s).head? ≠ some '\n' := by
        intro s hc
        cases t with
        | nil => exact absurd ⟨hc, rfl⟩ h
        | cons d u =>
          rintro hd
          simp only [List.cons_append, List.head?_cons, Option.some.injEq] at hd
          exact hcrlf u hc (by rw [hd])
      have hne : lines (t ++ ['\n']) ≠ [] := lines_ne_nil (by simp)
      rw [List.cons_append, List.cons_append, lines_cons hlf (hcr b), lines_cons hlf (hcr []), ih,
        consFirst_append c hne]

end Text

end PortReservation
