import PortReservation.Port

/-!
# Requests

A request asks for a port of a range, some ports excluded.

* `mem_candidates`: the candidates are exactly the ports that the request allows.
* `candidates_ascending`: they come in strictly ascending order.
* `clip?_of_reached`, `clip?_eq_none_iff`: integer bounds make a request exactly if they reach a
  port.
-/

namespace PortReservation

/-- A request for a port from `min` to `max` outside `excluded`. -/
structure Request where
  min : Port := Port.lowest
  max : Port := Port.highest
  excluded : PortSet := OrderedMap.empty
  deriving DecidableEq

namespace Request

/-- Every port that is handed out at all. -/
def fullRange : Request := {}

/-- The request with further ports excluded. -/
def excluding (r : Request) (ports : List Port) : Request :=
  { r with excluded := r.excluded.insertAll ports }

/-- Whether a port may be handed out for the request. -/
def allows (r : Request) (port : Port) : Bool :=
  Port.lowest ≤ port && r.min ≤ port && port ≤ r.max && !r.excluded.contains port

/-- The ports of the range. -/
def range (r : Request) : List Port :=
  (List.range' r.min.toNat (r.max.toNat + 1 - r.min.toNat)).map UInt16.ofNat

/-- The ports that the request allows, ascending. -/
def candidates (r : Request) : List Port := r.range.filter r.allows

/-- The request for integer bounds and exclusions: the range is cut to the ports that are handed
out, and exclusions that are no ports do not count. Bounds that leave nothing make no request, and
neither would bounds that are no ports after the cut. -/
def clip? (min max : Int) (excluded : List Int) : Option Request :=
  let low := Max.max min Port.lowest.toNat
  let high := Min.min max Port.highest.toNat
  if high < low then none
  else
    match Port.ofInteger? low, Port.ofInteger? high with
    | some min, some max =>
      some (Request.excluding { min, max } (excluded.filterMap Port.ofInteger?))
    | _, _ => none

theorem mem_range {r : Request} {port : Port} :
    port ∈ r.range ↔ r.min ≤ port ∧ port ≤ r.max := by
  simp only [range, List.mem_map, List.mem_range'_1, UInt16.le_iff_toNat_le]
  constructor
  · rintro ⟨n, hn, rfl⟩
    have hmax := r.max.toNat_lt
    rw [UInt16.toNat_ofNat', Nat.mod_eq_of_lt (by omega)]
    omega
  · intro h
    exact ⟨port.toNat, by omega, UInt16.ofNat_toNat⟩

/-- The candidates are exactly the ports that the request allows. -/
theorem mem_candidates {r : Request} {port : Port} :
    port ∈ r.candidates ↔ r.allows port = true := by
  rw [candidates, List.mem_filter, mem_range]
  constructor
  · exact fun h => h.2
  · intro h
    refine ⟨?_, h⟩
    simp only [allows, Bool.and_eq_true, decide_eq_true_eq] at h
    exact ⟨h.1.1.2, h.1.2⟩

/-- The candidates come in strictly ascending order. -/
theorem candidates_ascending (r : Request) : r.candidates.Pairwise (· < ·) := by
  refine List.Pairwise.filter _ ?_
  rw [range, List.pairwise_map]
  have hmax := r.max.toNat_lt
  refine List.Pairwise.imp_of_mem ?_ List.pairwise_lt_range'
  intro a b ha hb hab
  rw [List.mem_range'_1] at ha hb
  rw [UInt16.lt_iff_toNat_lt, UInt16.toNat_ofNat', UInt16.toNat_ofNat',
    Nat.mod_eq_of_lt (by omega), Nat.mod_eq_of_lt (by omega)]
  exact hab

/-- Integer bounds that reach a port that is handed out make a request, and no bound is lost. -/
theorem clip?_of_reached {min max : Int} {excluded : List Int}
    (h : ∃ p : Int, min ≤ p ∧ p ≤ max ∧ 1024 ≤ p ∧ p ≤ 65535) :
    ∃ low high : Port, (low.toNat : Int) = Max.max min 1024 ∧
      (high.toNat : Int) = Min.min max 65535 ∧
      clip? min max excluded =
        some (Request.excluding { min := low, max := high }
          (excluded.filterMap Port.ofInteger?)) := by
  obtain ⟨p, hmin, hmax, hlow, hhigh⟩ := h
  obtain ⟨low, hl⟩ := Port.exists_toNat_eq (n := Max.max min 1024) (by omega) (by omega)
  obtain ⟨high, hh⟩ := Port.exists_toNat_eq (n := Min.min max 65535) (by omega) (by omega)
  refine ⟨low, high, hl, hh, ?_⟩
  have hlowest : (Port.lowest.toNat : Int) = 1024 := rfl
  have hhighest : (Port.highest.toNat : Int) = 65535 := rfl
  simp only [clip?, hlowest, hhighest]
  rw [if_neg (by omega), Port.ofInteger?_eq_some_iff.mpr hl, Port.ofInteger?_eq_some_iff.mpr hh]

/-- Integer bounds make no request exactly if they reach no port that is handed out. -/
theorem clip?_eq_none_iff {min max : Int} {excluded : List Int} :
    clip? min max excluded = none ↔ ¬∃ p : Int, min ≤ p ∧ p ≤ max ∧ 1024 ≤ p ∧ p ≤ 65535 := by
  constructor
  · intro hnone hreached
    obtain ⟨low, high, -, -, hsome⟩ := clip?_of_reached hreached
    rw [hsome] at hnone
    cases hnone
  · intro hreached
    refine if_pos ?_
    have hlowest : (Port.lowest.toNat : Int) = 1024 := rfl
    have hhighest : (Port.highest.toNat : Int) = 65535 := rfl
    rw [hlowest, hhighest]
    refine Decidable.byContradiction fun hle => ?_
    exact hreached ⟨Max.max min 1024, by omega, by omega, by omega, by omega⟩

end Request

end PortReservation
