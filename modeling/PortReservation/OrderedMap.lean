/-!
# Ordered maps

A finite map as the list of its entries in strictly ascending order of keys, so two maps with the
same entries are equal, and listing, printing and counting need no sorting.

* `get?_insert`: a look-up after an insertion.
* `get?_filter`: a look-up after a filter.
* `ext_get?`: maps with the same look-ups are equal.
-/

namespace PortReservation

/-- A finite map from `κ` to `ν`, its keys in strictly ascending order. -/
structure OrderedMap (κ : Type) (ν : Type) [Ord κ] where
  toList : List (κ × ν)
  ascending : toList.Pairwise (fun a b => compare a.1 b.1 = .lt)

namespace OrderedMap

variable {κ ν : Type} [Ord κ]

@[ext] theorem ext {m n : OrderedMap κ ν} (h : m.toList = n.toList) : m = n := by
  cases m; cases n; cases h; rfl

instance [DecidableEq κ] [DecidableEq ν] : DecidableEq (OrderedMap κ ν) := fun _ _ =>
  decidable_of_iff _ OrderedMap.ext_iff.symm

/-- The map without entries. -/
def empty : OrderedMap κ ν := ⟨[], .nil⟩

instance : Inhabited (OrderedMap κ ν) := ⟨empty⟩

/-- The number of entries. -/
def size (m : OrderedMap κ ν) : Nat := m.toList.length

def isEmpty (m : OrderedMap κ ν) : Bool := m.toList.isEmpty

/-- The keys, ascending. -/
def keys (m : OrderedMap κ ν) : List κ := m.toList.map (·.1)

/-- The value at the first entry of a list whose key is `k`. -/
def lookup (k : κ) : List (κ × ν) → Option ν
  | [] => none
  | e :: r => if compare k e.1 = .eq then some e.2 else lookup k r

/-- The value at a key. -/
def get? (m : OrderedMap κ ν) (k : κ) : Option ν := lookup k m.toList

def contains (m : OrderedMap κ ν) (k : κ) : Bool := (m.get? k).isSome

/-- The entries that meet a condition. -/
def filter (p : κ → ν → Bool) (m : OrderedMap κ ν) : OrderedMap κ ν :=
  ⟨m.toList.filter fun e => p e.1 e.2, m.ascending.filter _⟩

/-- Puts an entry into an ascending list, in place of one with the same key. -/
def insertSorted (k : κ) (v : ν) : List (κ × ν) → List (κ × ν)
  | [] => [(k, v)]
  | e :: r =>
    match compare k e.1 with
    | .lt => (k, v) :: e :: r
    | .eq => (k, v) :: r
    | .gt => e :: insertSorted k v r

theorem mem_insertSorted {k : κ} {v : ν} {l : List (κ × ν)} {e : κ × ν}
    (h : e ∈ insertSorted k v l) : e = (k, v) ∨ e ∈ l := by
  induction l with
  | nil => simpa [insertSorted] using h
  | cons d r ih =>
    rw [insertSorted] at h
    split at h
    · simpa using h
    · rcases List.mem_cons.mp h with h | h
      · exact .inl h
      · exact .inr (List.mem_cons_of_mem _ h)
    · rcases List.mem_cons.mp h with h | h
      · exact .inr (h ▸ List.mem_cons_self)
      · exact (ih h).imp_right (List.mem_cons_of_mem _)

@[simp] theorem get?_empty (k : κ) : (empty : OrderedMap κ ν).get? k = none := rfl

/-- The map without the key `k`. -/
def erase (m : OrderedMap κ ν) (k : κ) : OrderedMap κ ν :=
  m.filter fun k' _ => compare k k' != .eq

/-! ## Look-ups -/

section Lookup

variable [Std.LawfulEqOrd κ]

theorem lookup_eq_some_of_mem {l : List (κ × ν)} {e : κ × ν}
    (h : l.Pairwise fun a b => compare a.1 b.1 = .lt) (he : e ∈ l) :
    lookup e.1 l = some e.2 := by
  induction l with
  | nil => simp at he
  | cons d r ih =>
    obtain ⟨hd, hr⟩ := List.pairwise_cons.mp h
    rcases List.mem_cons.mp he with rfl | he'
    · simp [lookup]
    · have hne : compare e.1 d.1 ≠ .eq := by
        intro heq
        have hk : e.1 = d.1 := Std.LawfulEqCmp.eq_of_compare heq
        have hlt := hd e he'
        simp [hk] at hlt
      simp [lookup, hne, ih hr he']

theorem mem_of_lookup_eq_some {l : List (κ × ν)} {k : κ} {v : ν} (h : lookup k l = some v) :
    (k, v) ∈ l := by
  induction l with
  | nil => simp [lookup] at h
  | cons d r ih =>
    rw [lookup] at h
    split at h
    · next heq =>
      have hk : k = d.1 := Std.LawfulEqCmp.eq_of_compare heq
      have hv : d.2 = v := by simpa using h
      subst hk hv
      exact List.mem_cons_self
    · exact List.mem_cons_of_mem _ (ih h)

/-- A look-up finds exactly the entries of the map. -/
theorem get?_eq_some_iff {m : OrderedMap κ ν} {k : κ} {v : ν} :
    m.get? k = some v ↔ (k, v) ∈ m.toList :=
  ⟨mem_of_lookup_eq_some, fun h => lookup_eq_some_of_mem (e := (k, v)) m.ascending h⟩

/-- A look-up after a filter. -/
theorem get?_filter (m : OrderedMap κ ν) (p : κ → ν → Bool) (k : κ) :
    (m.filter p).get? k = (m.get? k).filter (p k) := by
  apply Option.ext
  intro v
  rw [get?_eq_some_iff, Option.filter_eq_some_iff, get?_eq_some_iff]
  simp [filter]

theorem lookup_insertSorted (k k' : κ) (v : ν) (l : List (κ × ν)) :
    lookup k' (insertSorted k v l) = if compare k' k = .eq then some v else lookup k' l := by
  induction l with
  | nil => simp [insertSorted, lookup]
  | cons d r ih =>
    rw [insertSorted]
    split
    · simp [lookup]
    · next heq =>
      have hk : k = d.1 := Std.LawfulEqCmp.eq_of_compare heq
      subst hk
      by_cases hk' : compare k' d.1 = .eq <;> simp [lookup, hk']
    · next hgt =>
      rw [lookup, ih, lookup]
      by_cases hk' : compare k' d.1 = .eq
      · have he : k' = d.1 := Std.LawfulEqCmp.eq_of_compare hk'
        have hne : ¬ compare d.1 k = .eq := by
          intro h
          have hd : d.1 = k := Std.LawfulEqCmp.eq_of_compare h
          simp [hd] at hgt
        subst he
        simp [hne]
      · simp [hk']

end Lookup

/-! ## Insertion -/

section Insertion

variable [Std.TransOrd κ] [Std.LawfulEqOrd κ]

theorem insertSorted_ascending (k : κ) (v : ν) {l : List (κ × ν)}
    (h : l.Pairwise fun a b => compare a.1 b.1 = .lt) :
    (insertSorted k v l).Pairwise fun a b => compare a.1 b.1 = .lt := by
  induction l with
  | nil => simp [insertSorted]
  | cons d r ih =>
    obtain ⟨hd, hr⟩ := List.pairwise_cons.mp h
    rw [insertSorted]
    split
    · next hlt =>
      refine List.pairwise_cons.mpr ⟨fun e he => ?_, h⟩
      rcases List.mem_cons.mp he with rfl | he
      · exact hlt
      · exact Std.TransCmp.lt_trans hlt (hd e he)
    · next heq =>
      have hk : k = d.1 := Std.LawfulEqCmp.eq_of_compare heq
      exact List.pairwise_cons.mpr ⟨fun e he => by simpa [hk] using hd e he, hr⟩
    · next hgt =>
      refine List.pairwise_cons.mpr ⟨fun e he => ?_, ih hr⟩
      rcases mem_insertSorted he with rfl | he
      · exact Std.OrientedCmp.lt_of_gt hgt
      · exact hd e he

/-- The map with the value `v` at `k`. -/
def insert (m : OrderedMap κ ν) (k : κ) (v : ν) : OrderedMap κ ν :=
  ⟨insertSorted k v m.toList, insertSorted_ascending k v m.ascending⟩

/-- The map with further entries, a later one in place of an earlier one with the same key. -/
def insertAll (m : OrderedMap κ ν) (l : List (κ × ν)) : OrderedMap κ ν :=
  l.foldl (fun m e => m.insert e.1 e.2) m

/-- The map of the entries of a list, a later one in place of an earlier one with the same key. -/
def ofList (l : List (κ × ν)) : OrderedMap κ ν := empty.insertAll l

/-- A look-up after an insertion. -/
theorem get?_insert (m : OrderedMap κ ν) (k k' : κ) (v : ν) :
    (m.insert k v).get? k' = if compare k' k = .eq then some v else m.get? k' :=
  lookup_insertSorted k k' v m.toList

end Insertion

/-! ## Equality -/

section Equality

variable [Std.TransOrd κ] [Std.LawfulEqOrd κ]

omit [Std.LawfulEqOrd κ] in
theorem eq_of_mem_iff {l₁ l₂ : List (κ × ν)}
    (h₁ : l₁.Pairwise fun a b => compare a.1 b.1 = .lt)
    (h₂ : l₂.Pairwise fun a b => compare a.1 b.1 = .lt)
    (h : ∀ e, e ∈ l₁ ↔ e ∈ l₂) : l₁ = l₂ := by
  induction l₁ generalizing l₂ with
  | nil =>
    cases l₂ with
    | nil => rfl
    | cons b r => exact absurd ((h b).mpr List.mem_cons_self) (by simp)
  | cons a r₁ ih =>
    cases l₂ with
    | nil => exact absurd ((h a).mp List.mem_cons_self) (by simp)
    | cons b r₂ =>
      obtain ⟨ha, hr₁⟩ := List.pairwise_cons.mp h₁
      obtain ⟨hb, hr₂⟩ := List.pairwise_cons.mp h₂
      have hab : a = b := by
        rcases List.mem_cons.mp ((h a).mp List.mem_cons_self) with hab | hab
        · exact hab
        rcases List.mem_cons.mp ((h b).mpr List.mem_cons_self) with hba | hba
        · exact hba.symm
        exact absurd (hb a hab) (Std.OrientedCmp.not_lt_of_lt (ha b hba))
      subst hab
      have hlt : ∀ e, compare a.1 e.1 = .lt → e ≠ a := by
        rintro e he rfl
        simp at he
      congr 1
      refine ih hr₁ hr₂ fun e => ⟨fun he => ?_, fun he => ?_⟩
      · exact (List.mem_cons.mp ((h e).mp (List.mem_cons_of_mem _ he))).resolve_left
          (hlt e (ha e he))
      · exact (List.mem_cons.mp ((h e).mpr (List.mem_cons_of_mem _ he))).resolve_left
          (hlt e (hb e he))

/-- Maps with the same look-ups are equal. -/
theorem ext_get? {m n : OrderedMap κ ν} (h : ∀ k, m.get? k = n.get? k) : m = n := by
  apply OrderedMap.ext
  apply eq_of_mem_iff m.ascending n.ascending
  intro e
  rw [← get?_eq_some_iff, ← get?_eq_some_iff, h]

end Equality

end OrderedMap

end PortReservation
