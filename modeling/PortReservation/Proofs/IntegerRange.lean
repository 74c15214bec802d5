import PortReservation.Proofs.FirstFit
import PortReservation.Shared

/-!
# Integer bounds

A look-up between integer bounds searches exactly the ports that lie between them, are handed out at
all and are not excluded, from the lowest one on, until one is taken. No bound or exclusion wraps
around where it is made a port, so whatever a look-up finds is a port of that set.

* `Within`, `Clips`: which integers are meant by bounds and exclusions, and what a request for them
  holds; `clips`: it holds just that.
* `search_append`, `Takes`, `search_eq_some_iff`: a search in order, until a candidate is taken.
* `mem_candidates_of_allocate`: what is found for a request is one of its candidates.
* `nextIn_within`: look-ups between integer bounds, and those for a request or between ports.
-/

namespace PortReservation

/-- The ports of a set to which some were added. -/
theorem PortSet.contains_insertAll (s : PortSet) (ports : List Port) (port : Port) :
    (s.insertAll ports).contains port = true ↔ port ∈ ports ∨ s.contains port = true := by
  have hlookup : (OrderedMap.lookup port (ports.map fun p => (p, ())).reverse).isSome = true ↔
      port ∈ ports := by
    constructor
    · intro h
      obtain ⟨v, hv⟩ := Option.isSome_iff_exists.mp h
      simpa using OrderedMap.mem_of_lookup_eq_some hv
    · intro h
      exact OrderedMap.lookup_isSome_of_mem (e := (port, ())) (by simpa using h)
  rw [OrderedMap.contains, PortSet.insertAll, OrderedMap.get?_insertAll, Option.isSome_or,
    Bool.or_eq_true, hlookup]
  rfl

namespace Request

/-! ## What bounds and exclusions mean -/

/-- Whether an integer is a port that may be handed out for some bounds and exclusions. -/
def Within (min max : Int) (excluded : List Int) (p : Int) : Prop :=
  1024 ≤ p ∧ p ≤ 65535 ∧ min ≤ p ∧ p ≤ max ∧ p ∉ excluded

/-- The candidates as integers. -/
def integers (r : Request) : List Int := r.candidates.map fun port => (port.toNat : Int)

theorem integers_ascending (r : Request) : r.integers.Pairwise (· < ·) := by
  refine List.pairwise_map.mpr (r.candidates_ascending.imp fun hlt => ?_)
  exact Int.ofNat_lt.mpr (UInt16.lt_iff_toNat_lt.mp hlt)

/-- A request holds what was made of integer bounds and exclusions. -/
structure Clips (min max : Int) (excluded : List Int) (r : Request) : Prop where
  min_eq : (r.min.toNat : Int) = Max.max min 1024
  max_eq : (r.max.toNat : Int) = Min.min max 65535
  contains_iff (port : Port) : r.excluded.contains port = true ↔ (port.toNat : Int) ∈ excluded
  ascending : r.integers.Pairwise (· < ·)
  mem_iff (p : Int) : p ∈ r.integers ↔ Within min max excluded p

theorem allows_iff {r : Request} {port : Port} :
    r.allows port = true ↔
      Port.lowest ≤ port ∧ r.min ≤ port ∧ port ≤ r.max ∧ r.excluded.contains port = false := by
  simp [allows, and_assoc]

theorem contains_excluding (r : Request) (ports : List Port) (port : Port) :
    (r.excluding ports).excluded.contains port = true ↔
      port ∈ ports ∨ r.excluded.contains port = true :=
  PortSet.contains_insertAll r.excluded ports port

/-- The ports among some integers. -/
theorem mem_filterMap_ofInteger? {ns : List Int} {port : Port} :
    port ∈ ns.filterMap Port.ofInteger? ↔ (port.toNat : Int) ∈ ns := by
  simp only [List.mem_filterMap, Port.ofInteger?_eq_some_iff]
  exact ⟨fun ⟨n, hn, heq⟩ => heq ▸ hn, fun h => ⟨_, h, rfl⟩⟩

/-- The request for integer bounds and exclusions means them. -/
theorem clips {min max : Int} {excluded : List Int} {r : Request}
    (hr : clip? min max excluded = some r) : Clips min max excluded r := by
  -- A request was made, so there is a port between the bounds.
  have hreached : ∃ p : Int, min ≤ p ∧ p ≤ max ∧ 1024 ≤ p ∧ p ≤ 65535 := by
    by_contra hnot
    rw [clip?_eq_none_iff.mpr hnot] at hr
    cases hr
  obtain ⟨low, high, hlow, hhigh, hsome⟩ := @clip?_of_reached min max excluded hreached
  rw [hr, Option.some.injEq] at hsome
  subst hsome
  have hexcluded : ∀ port : Port,
      (Request.excluding { min := low, max := high }
        (excluded.filterMap Port.ofInteger?)).excluded.contains port = true ↔
        (port.toNat : Int) ∈ excluded := by
    intro port
    rw [contains_excluding, mem_filterMap_ofInteger?]
    exact or_iff_left (by simp [OrderedMap.contains])
  refine ⟨hlow, hhigh, hexcluded, integers_ascending _, fun p => ?_⟩
  rw [integers, List.mem_map]
  constructor
  · rintro ⟨port, hport, rfl⟩
    obtain ⟨hlowest, hmin, hmax, hout⟩ := allows_iff.mp (mem_candidates.mp hport)
    have hin := mt (hexcluded port).mpr (by rw [hout]; exact Bool.false_ne_true)
    have hlt := port.toNat_lt
    have h1024 : (1024 : Nat) ≤ port.toNat := UInt16.le_iff_toNat_le.mp hlowest
    have hlow' : low.toNat ≤ port.toNat := UInt16.le_iff_toNat_le.mp hmin
    have hhigh' : port.toNat ≤ high.toNat := UInt16.le_iff_toNat_le.mp hmax
    exact ⟨by omega, by omega, by omega, by omega, hin⟩
  · rintro ⟨hlowest, hhighest, hmin, hmax, hout⟩
    obtain ⟨port, rfl⟩ := Port.exists_toNat_eq (n := p) (by omega) (by omega)
    refine ⟨port, mem_candidates.mpr (allows_iff.mpr ⟨?_, ?_, ?_, ?_⟩), rfl⟩
    · exact UInt16.le_iff_toNat_le.mpr (Int.ofNat_le.mp hlowest)
    · show low ≤ port
      rw [UInt16.le_iff_toNat_le]
      omega
    · show port ≤ high
      rw [UInt16.le_iff_toNat_le]
      omega
    · rw [Bool.eq_false_iff]
      exact mt (hexcluded port).mp hout

example : (clip? 65534 70000 [-1, 131070]).map integers = some [65534, 65535] := by decide +kernel

end Request

namespace Allocator

variable {a : Allocator} {h : Host} {candidate port : Port} {candidates : List Port}

/-! ## Searching in order -/

/-- A candidate other than 0 that passes the screening stands for itself. -/
theorem screen_candidate (hc : candidate ≠ 0) (hs : (a.screen candidate h).1 = some port) :
    port = candidate := by
  unfold screen at hs
  split at hs
  · cases hs
  · split at hs
    · cases hs
    · next p h' hp =>
      split at hs
      · cases hs
      · cases hs
        exact probe_eq_candidate hc hp

/-- A candidate other than 0 is taken as itself. -/
theorem tryPort_candidate (hc : candidate ≠ 0) (htry : (a.tryPort candidate h).1 = some port) :
    port = candidate := by
  unfold tryPort at htry
  split at htry
  · cases htry
  · next p h' hs =>
    have hp := screen_candidate hc (congrArg Prod.fst hs)
    obtain ⟨locator, -, ⟨hnone, -⟩ | ⟨hsome, -⟩⟩ := a.confirm_cases p h'
    · rw [hnone] at htry
      cases htry
    · rw [hsome] at htry
      cases htry
      exact hp

/-- A candidate that is tried in vain leaves the rest to be searched in the state that it led to. -/
theorem search_of_none {a' : Allocator} {h' : Host}
    (htry : a.tryPort candidate h = (none, a', h')) (rest : List Port) :
    a.search h (candidate :: rest) = a'.search h' rest := by
  rw [search_cons, htry]

/-- So do many. -/
theorem search_append {before : List Port} (hvain : (a.search h before).1 = none)
    (after : List Port) :
    a.search h (before ++ after) =
      (a.search h before).2.1.search (a.search h before).2.2 after := by
  induction before generalizing a h with
  | nil => rfl
  | cons candidate before ih =>
    cases htry : a.tryPort candidate h with
    | mk found left =>
      cases found with
      | some p =>
        rw [search_cons, htry] at hvain
        cases hvain
      | none =>
        rw [search_of_none htry] at hvain
        rw [List.cons_append, search_of_none htry, search_of_none htry]
        exact ih hvain

/-- A search takes a candidate: those before it were tried in vain, and it was tried in the state
that they led to. -/
def Takes (a : Allocator) (h : Host) (candidates : List Port) (port : Port) : Prop :=
  ∃ before after, candidates = before ++ port :: after ∧ (a.search h before).1 = none ∧
    ((a.search h before).2.1.tryPort port (a.search h before).2.2).1 = some port

/-- A search finds the candidate that it takes. -/
theorem search_eq_some_iff (hzero : 0 ∉ candidates) :
    (a.search h candidates).1 = some port ↔ a.Takes h candidates port := by
  constructor
  · intro hfound
    induction candidates generalizing a h with
    | nil => cases hfound
    | cons candidate rest ih =>
      obtain ⟨hc, hrest⟩ := not_or.mp (mt List.mem_cons.mpr hzero)
      cases htry : a.tryPort candidate h with
      | mk found left =>
        cases found with
        | some p =>
          rw [search_cons, htry] at hfound
          cases hfound
          cases tryPort_candidate (Ne.symm hc) (congrArg Prod.fst htry)
          exact ⟨[], rest, rfl, rfl, congrArg Prod.fst htry⟩
        | none =>
          rw [search_of_none htry] at hfound
          obtain ⟨before, after, rfl, hvain, htaken⟩ := ih hrest hfound
          refine ⟨candidate :: before, after, rfl, ?_, ?_⟩
          · rw [search_of_none htry]
            exact hvain
          · rw [search_of_none htry]
            exact htaken
  · rintro ⟨before, after, rfl, hvain, htaken⟩
    rw [search_append hvain, search_cons]
    split
    · next heq =>
      rw [heq] at htaken
      exact htaken
    · next heq =>
      rw [heq] at htaken
      cases htaken

/-! ## What is found -/

/-- A look-up searches its candidates after the purge. -/
theorem nextFrom_of_purge {a' : Allocator} (hpurge : a.purge h = .ok a') (candidates : List Port) :
    (a.nextFrom candidates h).1 = .ok (a'.search h candidates).1 := by
  rw [nextFrom, hpurge, ← a'.findPort_toOption]

/-- What is found for a request is one of its candidates. -/
theorem mem_candidates_of_allocate {r : Request} (hfound : (a.allocate r h).1 = .ok (some port)) :
    port ∈ r.candidates := by
  rw [allocate] at hfound
  cases hpurge : a.purge h with
  | error o =>
    rw [nextFrom, hpurge] at hfound
    cases hfound
  | ok a' =>
    rw [nextFrom_of_purge hpurge, Except.ok.injEq,
      search_eq_some_iff (zero_not_mem_candidates r)] at hfound
    obtain ⟨before, after, heq, -⟩ := hfound
    rw [heq]
    exact List.mem_append_right _ List.mem_cons_self

/-- What is found for a request is allowed by it. -/
theorem bounds_of_allocate {r : Request} (hfound : (a.allocate r h).1 = .ok (some port)) :
    Port.lowest ≤ port ∧ r.min ≤ port ∧ port ≤ r.max ∧ r.excluded.contains port = false :=
  Request.allows_iff.mp (Request.mem_candidates.mp (mem_candidates_of_allocate hfound))

/-- What is found between ports is between them and not excluded. -/
theorem bounds_of_nextIn {low high : Port} {ports : List Port}
    (hfound : (a.nextIn low high ports h).1 = .ok (some port)) :
    Port.lowest ≤ port ∧ low ≤ port ∧ port ≤ high ∧ port ∉ ports := by
  obtain ⟨hlowest, hlow, hhigh, hout⟩ := bounds_of_allocate hfound
  refine ⟨hlowest, hlow, hhigh, fun hmem => ?_⟩
  rw [(Request.contains_excluding _ ports port).mpr (.inl hmem)] at hout
  cases hout

end Allocator

namespace Shared

variable {s : Shared} {h : Host} {min max : Int} {excluded : List Int} {r : Request} {i : Int}

/-- A look-up between integer bounds that make a request is one for the request. -/
theorem nextIn_of_clip? (hr : Request.clip? min max excluded = some r) :
    (s.nextIn min max excluded h).1 = (s.get.allocate r h).1.map Port.toInteger := by
  rw [nextIn, hr]
  rfl

/-- The answer of a look-up between integer bounds is the candidate that is taken, or stands for
none if none is. -/
theorem nextIn_eq_ok_iff {a : Allocator} (hr : Request.clip? min max excluded = some r)
    (hpurge : s.get.purge h = .ok a) :
    (s.nextIn min max excluded h).1 = .ok i ↔
      (∃ port, a.Takes h r.candidates port ∧ i = port.toNat) ∨
        i = Port.missing ∧ ∀ port, ¬a.Takes h r.candidates port := by
  simp only [nextIn_of_clip? hr, Allocator.allocate, Allocator.nextFrom_of_purge hpurge,
    ← Allocator.search_eq_some_iff (Allocator.zero_not_mem_candidates r), Except.map,
    Except.ok.injEq]
  cases (a.search h r.candidates).1 with
  | none => simp [Port.toInteger, eq_comm]
  | some port => simp [Port.toInteger, eq_comm]

/-- What a look-up between integer bounds answers is meant by them, or stands for none. -/
theorem within_of_nextIn (hi : (s.nextIn min max excluded h).1 = .ok i) :
    i = Port.missing ∨ Request.Within min max excluded i := by
  cases hr : Request.clip? min max excluded with
  | none =>
    rw [nextIn, hr] at hi
    cases hi
    exact .inl rfl
  | some r =>
    rw [nextIn_of_clip? hr] at hi
    cases hfound : (s.get.allocate r h).1 with
    | error o =>
      rw [hfound] at hi
      cases hi
    | ok found =>
      rw [hfound] at hi
      cases hi
      cases found with
      | none => exact .inl rfl
      | some port =>
        refine .inr (((Request.clips hr).mem_iff _).mp ?_)
        exact List.mem_map_of_mem (Allocator.mem_candidates_of_allocate hfound)

/-- Integer bounds make no request exactly if they reach no port that is handed out. A request that
they make holds them as they are after the cut, and its candidates are, in ascending order, just the
ports that are handed out, lie between the bounds and are not excluded; they are tried in order
until one is taken. So whatever a look-up finds, between integer bounds, for a request or between
ports, is a port that was asked for. -/
theorem nextIn_within (min max : Int) (excluded : List Int) :
    (Request.clip? min max excluded = none ↔
        ¬∃ p : Int, (min ≤ p ∧ p ≤ max) ∧ 1024 ≤ p ∧ p ≤ 65535) ∧
      (∀ r, Request.clip? min max excluded = some r → Request.Clips min max excluded r ∧
        ∀ (s : Shared) h a, s.get.purge h = .ok a → ∀ i,
          ((s.nextIn min max excluded h).1 = .ok i ↔
            (∃ port, a.Takes h r.candidates port ∧ i = port.toNat) ∨
              i = Port.missing ∧ ∀ port, ¬a.Takes h r.candidates port)) ∧
      (∀ (s : Shared) h i, (s.nextIn min max excluded h).1 = .ok i →
        i = Port.missing ∨ Request.Within min max excluded i) ∧
      (∀ (a : Allocator) (r : Request) h port, (a.allocate r h).1 = .ok (some port) →
        Port.lowest ≤ port ∧ r.min ≤ port ∧ port ≤ r.max ∧
          r.excluded.contains port = false) ∧
      ∀ (a : Allocator) low high ports h port,
        (a.nextIn low high ports h).1 = .ok (some port) →
          Port.lowest ≤ port ∧ low ≤ port ∧ port ≤ high ∧ port ∉ ports := by
  refine ⟨?_, fun r hr => ⟨Request.clips hr, fun s h a hpurge i => nextIn_eq_ok_iff hr hpurge⟩,
    fun s h i hi => within_of_nextIn hi, fun a r h port hfound => a.bounds_of_allocate hfound,
    fun a low high ports h port hfound => a.bounds_of_nextIn hfound⟩
  simp only [Request.clip?_eq_none_iff, and_assoc]

/-- The request for the bounds -5 and 1026 without -1, 1024 and 70000. -/
def wideRequest : Request := Request.excluding { min := 1024, max := 1026 } [1024]

/-- Of the bounds -5 and 1026 without 1024 the first port is 1025. -/
theorem nextIn_within_wideRequest :
    Request.clip? (-5) 1026 [-1, 1024, 70000] = some wideRequest ∧
      Request.Clips (-5) 1026 [-1, 1024, 70000] wideRequest ∧
      (nextIn none (-5) 1026 [-1, 1024, 70000] (Host.bare 0)).1 = .ok 1025 ∧
      (get none).Takes (Host.bare 0) wideRequest.candidates 1025 ∧
      Request.Within (-5) 1026 [-1, 1024, 70000] 1025 ∧
      ((get none).allocate wideRequest (Host.bare 0)).1 = .ok (some 1025) ∧
      wideRequest.excluded.contains 1025 = false ∧
      ((get none).nextIn 1000 1026 [1024] (Host.bare 0)).1 = .ok (some 1025) ∧
      (1025 : Port) ∉ [(1024 : Port)] := by
  have hr : Request.clip? (-5) 1026 [-1, 1024, 70000] = some wideRequest := by decide +kernel
  have hpurge : (get none).purge (Host.bare 0) = .ok (get none) := by cbv
  have hfound : (nextIn none (-5) 1026 [-1, 1024, 70000] (Host.bare 0)).1 = .ok 1025 := by cbv
  have hallocated : ((get none).allocate wideRequest (Host.bare 0)).1 = .ok (some 1025) := by cbv
  have hbetween : ((get none).nextIn 1000 1026 [1024] (Host.bare 0)).1 = .ok (some 1025) := by cbv
  obtain ⟨-, hclips, hwithin, hallocate, hnextIn⟩ := nextIn_within (-5) 1026 [-1, 1024, 70000]
  obtain ⟨hclips, hanswer⟩ := hclips wideRequest hr
  have htakes : (get none).Takes (Host.bare 0) wideRequest.candidates 1025 := by
    rcases (hanswer none (Host.bare 0) _ hpurge 1025).mp hfound with
      ⟨port, htakes, hport⟩ | ⟨hmissing, -⟩
    · obtain rfl : 1025 = port := UInt16.toNat_inj.mp (Int.ofNat_inj.mp hport)
      exact htakes
    · cases hmissing
  have hin : Request.Within (-5) 1026 [-1, 1024, 70000] 1025 :=
    (hwithin none (Host.bare 0) 1025 hfound).resolve_left (by decide)
  exact ⟨hr, hclips, hfound, htakes, hin, hallocated,
    (hallocate _ wideRequest _ _ hallocated).2.2.2, hbetween,
    (hnextIn _ 1000 1026 [1024] _ _ hbetween).2.2.2⟩

end Shared

end PortReservation
