import PortReservation.OrderedMap

/-!
# Maps built from lists

A map built from a list holds, at each key, the last entry of the list with that key, so building a
map from its own entries gives the map back.

* `get?_insertAll`: a look-up after many insertions.
* `ofList_toList`: a map is the map of its entries.
* `toList_filter`, `mem_toList_insert`: the entries after a filter and after an insertion.
-/

namespace PortReservation

namespace OrderedMap

variable {κ ν : Type} [Ord κ]

theorem lookup_append (k : κ) (l r : List (κ × ν)) :
    lookup k (l ++ r) = (lookup k l).or (lookup k r) := by
  induction l with
  | nil => simp [lookup]
  | cons e l ih =>
    rw [List.cons_append, lookup, lookup, ih]
    split <;> rfl

@[simp] theorem toList_filter (m : OrderedMap κ ν) (p : κ → ν → Bool) :
    (m.filter p).toList = m.toList.filter fun e => p e.1 e.2 := rfl

section

variable [Std.LawfulEqOrd κ]

theorem lookup_isSome_of_mem {l : List (κ × ν)} {e : κ × ν} (h : e ∈ l) :
    (lookup e.1 l).isSome = true := by
  induction l with
  | nil => cases h
  | cons d l ih =>
    rw [lookup]
    split
    · rfl
    · next hne =>
      rcases List.mem_cons.mp h with rfl | h
      · exact absurd Std.ReflCmp.compare_self hne
      · exact ih h

/-- Of an ascending list the last entry with a key is the first one, as there is only one. -/
theorem lookup_reverse {l : List (κ × ν)} (h : l.Pairwise fun a b => compare a.1 b.1 = .lt)
    (k : κ) : lookup k l.reverse = lookup k l := by
  have hmem : ∀ v, lookup k l.reverse = some v → lookup k l = some v := fun v hv =>
    lookup_eq_some_of_mem h (List.mem_reverse.mp (mem_of_lookup_eq_some hv))
  cases hr : lookup k l.reverse with
  | some v => exact (hmem v hr).symm
  | none =>
    cases hl : lookup k l with
    | none => rfl
    | some v =>
      have hsome := lookup_isSome_of_mem (List.mem_reverse.mpr (mem_of_lookup_eq_some hl))
      rw [hr] at hsome
      cases hsome

variable [Std.TransOrd κ]

/-- A look-up after many insertions finds the last one at the key. -/
theorem get?_insertAll (m : OrderedMap κ ν) (l : List (κ × ν)) (k : κ) :
    (m.insertAll l).get? k = (lookup k l.reverse).or (m.get? k) := by
  induction l generalizing m with
  | nil => rfl
  | cons e l ih =>
    have hinsert : m.insertAll (e :: l) = (m.insert e.1 e.2).insertAll l := rfl
    rw [hinsert, ih, get?_insert, List.reverse_cons, lookup_append, Option.or_assoc]
    congr 1
    rw [lookup, lookup]
    split <;> rfl

/-- What is built from a list holds entries of the list only. -/
theorem mem_of_mem_ofList {l : List (κ × ν)} {e : κ × ν} (h : e ∈ (ofList l).toList) : e ∈ l := by
  have hget : (ofList l).get? e.1 = some e.2 := get?_eq_some_iff.mpr h
  rw [ofList, get?_insertAll, get?_empty, Option.or_none] at hget
  exact List.mem_reverse.mp (mem_of_lookup_eq_some hget)

/-- A map is the map of its entries. -/
theorem ofList_toList (m : OrderedMap κ ν) : ofList m.toList = m := by
  apply ext_get?
  intro k
  rw [ofList, get?_insertAll, get?_empty, Option.or_none, lookup_reverse m.ascending]
  rfl

/-- The entries after an insertion: the new one, and those with other keys. -/
theorem mem_toList_insert {m : OrderedMap κ ν} {k : κ} {v : ν} {e : κ × ν} :
    e ∈ (m.insert k v).toList ↔ e = (k, v) ∨ e.1 ≠ k ∧ e ∈ m.toList := by
  obtain ⟨k', v'⟩ := e
  rw [← get?_eq_some_iff, get?_insert, ← get?_eq_some_iff]
  by_cases hk : k' = k
  · simp [hk, eq_comm]
  · have hne : ¬compare k' k = .eq := fun h => hk (Std.LawfulEqCmp.eq_of_compare h)
    simp [hk, hne]

end

end OrderedMap

end PortReservation
