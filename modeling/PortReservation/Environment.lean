import PortReservation.OrderedMap
import PortReservation.Text.Basic

/-!
# Environments

The environment of a process is a text `NAME=VALUE` for each of its variables. No name of a variable
holds `=`, but a look-up compares whole texts, so a name that holds `=` can have a value too.

* `value?_eq_get?`: the value for the name of a variable is that of the variable.
-/

namespace PortReservation

/-- Environment variables with their values. -/
abbrev Environment := OrderedMap Text Text

namespace Environment

/-- What follows a name and `=` in a text of the environment. A name that holds `=` goes on into the
value of the variable that its part before the first `=` names. An empty name and one that holds NUL
have no value. -/
def value? (e : Environment) (name : Text) : Option Text :=
  if name.isEmpty || name.contains '\x00' then none
  else
    match name.dropWhile (· != '=') with
    | [] => e.get? name
    | _ :: rest => (e.get? (name.takeWhile (· != '='))).bind (Text.after? (rest ++ ['=']))

/-- The value for a name that a variable can have is that of the variable. -/
theorem value?_eq_get? {name : Text} (hne : name ≠ []) (heq : '=' ∉ name) (hnul : '\x00' ∉ name)
    (e : Environment) : e.value? name = e.get? name := by
  have hdrop : name.dropWhile (· != '=') = [] := by
    have hall : (name ++ []).dropWhile (· != '=') = [].dropWhile (· != '=') :=
      List.dropWhile_append_of_pos fun c hc => bne_iff_ne.mpr fun h : c = '=' => heq (h ▸ hc)
    rwa [List.append_nil] at hall
  rw [value?, hdrop]
  simp [hne, hnul]

end Environment

end PortReservation
