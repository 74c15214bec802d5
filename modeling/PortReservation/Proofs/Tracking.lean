import PortReservation.Debounce
import PortReservation.Proofs.OrderedMap

/-!
# What is debounced

Of some hand-outs, the debounced ports are those that were handed out less than a window ago. Ports
that are old enough are dropped late, so a tracked port can be older than that between two purges.

* `purge_ok`: which ports a purge leaves; `purge_eq_error_iff`: when it has no answer.
* `Tracks`: what is tracked of some hand-outs at a time.
* `Tracks.purge`: a purge has an answer, and leaves exactly the recent hand-outs.
* `Tracks.record`: a port that is not tracked after a purge can be handed out.
-/

namespace PortReservation

namespace Debounce

/-- Whether a port was handed out less than a window before a time. -/
def Recent (log : List HandOut) (window now : Millis) (port : Port) : Prop :=
  ∃ e ∈ log, e.port = port ∧ now.toInt - e.time.toInt < window.toInt

/-- What is tracked was handed out, and what was handed out less than a window ago is tracked. -/
structure Tracks (log : List HandOut) (window now : Millis) (d : Debounce) : Prop where
  window_eq : d.window = window
  sound : ∀ port time, d.handedOut.get? port = some time → ⟨port, time⟩ ∈ log
  complete : ∀ e ∈ log, now.toInt - e.time.toInt < window.toInt →
    d.handedOut.get? e.port = some e.time

/-- Whether a port is recent is a comparison over the integers, where its age fits. -/
theorem isRecent_iff {window now time : Millis} (h : Millis.Fits (now.toInt - time.toInt)) :
    isRecent window now time = true ↔ now.toInt - time.toInt < window.toInt := by
  unfold isRecent
  cases ha : Millis.age? now time with
  | none =>
    rw [Millis.age?, Millis.ofInt?, if_pos h] at ha
    cases ha
  | some age =>
    rw [← Millis.age?_eq_some_iff.mp ha]
    exact decide_eq_true_iff.trans Int64.lt_iff_toInt_lt

/-- A port is tracked exactly if it has a time. -/
theorem contains_eq_true_iff {d : Debounce} {port : Port} :
    d.contains port = true ↔ ∃ time, d.handedOut.get? port = some time := by
  rw [contains, OrderedMap.contains, Option.isSome_iff_exists]

/-- The tracked ports are listed in strictly ascending order. -/
theorem ports_ascending (d : Debounce) : d.ports.Pairwise (· < ·) := by
  refine List.pairwise_map.mpr (d.handedOut.ascending.imp ?_)
  intro a b hab
  exact Std.compare_eq_lt.mp hab

theorem mem_ports {d : Debounce} {port : Port} : port ∈ d.ports ↔ d.contains port = true := by
  rw [contains_eq_true_iff, ports, OrderedMap.keys, List.mem_map]
  constructor
  · rintro ⟨⟨p, time⟩, hmem, rfl⟩
    exact ⟨time, OrderedMap.get?_eq_some_iff.mpr hmem⟩
  · rintro ⟨time, hget⟩
    exact ⟨(port, time), OrderedMap.get?_eq_some_iff.mp hget, rfl⟩

/-- Where the age of every tracked port fits, a purge has an answer. It leaves the ports that are
less than a window old, with their times. -/
theorem purge_ok {d : Debounce} {now : Millis}
    (hfits : ∀ port time, d.handedOut.get? port = some time →
      Millis.Fits (now.toInt - time.toInt)) :
    ∃ d', d.purge now = .ok d' ∧ d'.window = d.window ∧
      ∀ port time, d'.handedOut.get? port = some time ↔
        d.handedOut.get? port = some time ∧ now.toInt - time.toInt < d.window.toInt := by
  have hall : (d.handedOut.toList.all fun e => (Millis.age? now e.2).isSome) = true := by
    rw [List.all_eq_true]
    rintro ⟨port, time⟩ he
    rw [Millis.age?, Millis.ofInt?, if_pos (hfits port time (OrderedMap.get?_eq_some_iff.mpr he))]
    rfl
  refine ⟨_, if_pos hall, rfl, fun port time => ?_⟩
  rw [OrderedMap.get?_filter, Option.filter_eq_some_iff]
  exact and_congr_right fun hp => isRecent_iff (hfits port time hp)

/-- A purge has no answer exactly if the age of a tracked port does not fit. -/
theorem purge_eq_error_iff {d : Debounce} {now : Millis} {o : Overflow} :
    d.purge now = .error o ↔ o = .subtract ∧
      ∃ port time, d.handedOut.get? port = some time ∧
        ¬Millis.Fits (now.toInt - time.toInt) := by
  by_cases hfits : ∀ port time, d.handedOut.get? port = some time →
      Millis.Fits (now.toInt - time.toInt)
  · obtain ⟨d', hpurge, -⟩ := purge_ok hfits
    rw [hpurge]
    constructor
    · intro h
      cases h
    · rintro ⟨-, port, time, hget, hno⟩
      exact absurd (hfits port time hget) hno
  · simp only [Classical.not_forall] at hfits
    obtain ⟨port, time, hget, hno⟩ := hfits
    have hall : ¬(d.handedOut.toList.all fun e => (Millis.age? now e.2).isSome) = true := by
      intro hall
      have hsome := List.all_eq_true.mp hall _ (OrderedMap.get?_eq_some_iff.mp hget)
      rw [Millis.age?, Millis.ofInt?, if_neg hno] at hsome
      cases hsome
    rw [purge, if_neg hall]
    constructor
    · rintro ⟨⟩
      exact ⟨rfl, port, time, hget, hno⟩
    · rintro ⟨rfl, -⟩
      rfl

/-- A purge that has an answer leaves the ports that are less than a window old. -/
theorem get?_of_purge {d d' : Debounce} {now : Millis} (hpurge : d.purge now = .ok d') :
    d'.window = d.window ∧ ∀ port time, d'.handedOut.get? port = some time ↔
      d.handedOut.get? port = some time ∧ now.toInt - time.toInt < d.window.toInt := by
  have hfits : ∀ port time, d.handedOut.get? port = some time →
      Millis.Fits (now.toInt - time.toInt) := by
    intro port time hget
    refine Classical.byContradiction fun hno => ?_
    rw [purge_eq_error_iff.mpr ⟨rfl, port, time, hget, hno⟩] at hpurge
    cases hpurge
  obtain ⟨d'', hok, hrest⟩ := purge_ok hfits
  rw [hok] at hpurge
  cases hpurge
  exact hrest

theorem window_record (d : Debounce) (port : Port) (now : Millis) :
    (d.record port now).window = d.window := by
  unfold record
  split <;> rfl

/-- A port that is not tracked has no time. -/
theorem get?_eq_none {d : Debounce} {port : Port} (hnew : d.contains port = false) :
    d.handedOut.get? port = none := by
  rw [contains, OrderedMap.contains, Option.isSome_eq_false_iff] at hnew
  exact Option.isNone_iff_eq_none.mp hnew

/-- Recording a port that is not tracked. -/
theorem get?_record_of_new {d : Debounce} {port : Port} (hnew : d.contains port = false)
    (now : Millis) (other : Port) :
    (d.record port now).handedOut.get? other =
      if other = port then some now else d.handedOut.get? other := by
  rw [get?_record, get?_eq_none hnew, Option.none_or]

variable {log : List HandOut} {window now : Millis} {d : Debounce}

/-- Nothing is tracked before the first hand-out. -/
theorem tracks_new (window now : Millis) : Tracks [] window now (new window) where
  window_eq := rfl
  sound _ _ h := nomatch h
  complete _ h := nomatch h

namespace Tracks

/-- Time passes. -/
theorem later (ht : Tracks log window now d) {later : Millis} (hle : now.toInt ≤ later.toInt) :
    Tracks log window later d where
  window_eq := ht.window_eq
  sound := ht.sound
  complete e he hage := ht.complete e he (by omega)

/-- Where every age fits, a purge has an answer. It leaves exactly the recent hand-outs. -/
theorem purge (ht : Tracks log window now d)
    (hfits : ∀ e ∈ log, Millis.Fits (now.toInt - e.time.toInt)) :
    ∃ d', d.purge now = .ok d' ∧ Tracks log window now d' ∧
      ∀ port, d'.contains port = true ↔ Recent log window now port := by
  -- Every tracked time is that of a hand-out, so its age fits.
  obtain ⟨d', hpurge, hwindow, hget⟩ :=
    purge_ok fun port time hp => hfits ⟨port, time⟩ (ht.sound port time hp)
  rw [ht.window_eq] at hwindow hget
  refine ⟨d', hpurge, ⟨hwindow, ?_, ?_⟩, ?_⟩
  · intro port time hp
    exact ht.sound port time ((hget port time).mp hp).1
  · intro e he hage
    exact (hget e.port e.time).mpr ⟨ht.complete e he hage, hage⟩
  · intro port
    rw [contains_eq_true_iff]
    constructor
    · rintro ⟨time, hp⟩
      obtain ⟨hp, hage⟩ := (hget port time).mp hp
      exact ⟨⟨port, time⟩, ht.sound port time hp, rfl, hage⟩
    · rintro ⟨e, he, rfl, hage⟩
      exact ⟨e.time, (hget e.port e.time).mpr ⟨ht.complete e he hage, hage⟩⟩

/-- A port that is not tracked is handed out. -/
theorem record (ht : Tracks log window now d) {port : Port} (hnew : d.contains port = false) :
    Tracks (log ++ [⟨port, now⟩]) window now (d.record port now) := by
  have hnone := get?_eq_none hnew
  refine ⟨(window_record d port now).trans ht.window_eq, ?_, ?_⟩
  · intro other time hp
    rw [get?_record_of_new hnew] at hp
    split at hp
    · next heq =>
      cases hp
      subst heq
      exact List.mem_append_right _ List.mem_cons_self
    · exact List.mem_append_left _ (ht.sound other time hp)
  · intro e he hage
    rw [get?_record_of_new hnew]
    rcases List.mem_append.mp he with he | he
    · have hold := ht.complete e he hage
      have hne : e.port ≠ port := by
        rintro rfl
        rw [hnone] at hold
        cases hold
      rw [if_neg hne, hold]
    · cases List.mem_singleton.mp he
      rw [if_pos rfl]

end Tracks

end Debounce

end PortReservation
