import Mathlib.Data.List.Basic

/-!
# Histories

What happened so far is a list that grows at its end. What is said of an event often depends on what
came after it.

* `Since`: something happened, and everything that came after it has a property.
* `since_concat`: what one more event does to that.
-/

namespace PortReservation

variable {α : Type} {xs : List α} {x y : α} {p : α → Prop}

/-- Whether something happened and everything that came after it has a property. -/
def Since (xs : List α) (x : α) (p : α → Prop) : Prop :=
  ∃ before after, xs = before ++ x :: after ∧ ∀ y ∈ after, p y

theorem not_since_nil : ¬Since [] x p := by
  rintro ⟨before, after, heq, -⟩
  cases before <;> cases heq

theorem Since.mem (hs : Since xs x p) : x ∈ xs := by
  obtain ⟨before, after, rfl, -⟩ := hs
  exact List.mem_append_right _ List.mem_cons_self

/-- One more event is the one in question, or it comes after that. -/
theorem since_concat : Since (xs ++ [y]) x p ↔ x = y ∨ Since xs x p ∧ p y := by
  constructor
  · rintro ⟨before, after, heq, hafter⟩
    rcases List.eq_nil_or_concat after with rfl | ⟨after', last, rfl⟩
    · obtain ⟨-, hlast⟩ := List.append_inj' heq rfl
      cases hlast
      exact .inl rfl
    · rw [List.concat_eq_append] at heq hafter
      rw [← List.cons_append, ← List.append_assoc] at heq
      obtain ⟨rfl, hlast⟩ := List.append_inj' heq rfl
      cases hlast
      refine .inr ⟨⟨before, after', rfl, fun z hz => hafter z (List.mem_append_left _ hz)⟩, ?_⟩
      exact hafter y (List.mem_append_right _ List.mem_cons_self)
  · rintro (rfl | ⟨⟨before, after, rfl, hafter⟩, hy⟩)
    · exact ⟨xs, [], rfl, by simp⟩
    · refine ⟨before, after ++ [y], by simp, fun z hz => ?_⟩
      rcases List.mem_append.mp hz with hz | hz
      · exact hafter z hz
      · cases List.mem_singleton.mp hz
        exact hy

end PortReservation
