import Mathlib.Algebra.Ring.Int.Defs
import PortReservation.Proofs.Booking

/-!
# Purging

Whoever opens a ledger first removes the stale entries, by its own clock and its own time to live.
The times are words of 64 bits, and so are their ages where they fit; what is kept can still be said
over the integers, for every time and every time to live. On clocks that do not go back and show -1
at least, a stale entry stays stale, so processes with longer times to live never remove what one
with a shorter one still keeps.

* `isLive_iff_numeral`: which texts are live, over the integers.
* `Purges`, `purges`: what a purge keeps and counts.
* `live_live`, `live_foldl_sweep`: an earlier purge changes nothing, and neither do many.
* `purge_exact`: all of this for every purge.
-/

namespace PortReservation

namespace Decimal

/-- A numeral denotes one integer. -/
theorem Numeral.unique {t : Text} {m n : Int} (hm : Numeral t m) (hn : Numeral t n) : m = n := by
  rw [← readInt?_eq_some_iff] at hm hn
  exact Option.some.inj (hm.symm.trans hn)

end Decimal

namespace Millis

/-- What is read as a time is the numeral of one. -/
theorem read?_eq_some_iff {t : Text} {m : Millis} :
    read? t = some m ↔ Decimal.Numeral t m.toInt := by
  simp only [read?, Option.bind_eq_some_iff, Decimal.readInt?_eq_some_iff, ofInt?_eq_some_iff]
  exact exists_eq_right'

theorem exists_toInt_eq {n : Int} (h : Fits n) : ∃ m : Millis, m.toInt = n := by
  refine ⟨Int64.ofInt n, ofInt?_eq_some_iff.mp ?_⟩
  rw [ofInt?, if_pos h]

end Millis

namespace Entries

/-! ## One purge -/

/-- The live texts are the numerals of times that are at most a time to live old, and so far ahead
at most that the age fits. -/
theorem isLive_iff_numeral {now ttl : Millis} {value : Text} :
    isLive now ttl value = true ↔
      ∃ r, Decimal.Numeral value r ∧ (-2 ^ 63 ≤ r ∧ r < 2 ^ 63) ∧
        -2 ^ 63 ≤ now.toInt - r ∧ now.toInt - r ≤ ttl.toInt := by
  rw [isLive_iff]
  have httl := Millis.fits_toInt ttl
  unfold Millis.Fits at httl
  constructor
  · rintro ⟨stamp, hread, hfits, hage⟩
    have hstamp := Millis.fits_toInt stamp
    unfold Millis.Fits at hfits hstamp
    exact ⟨stamp.toInt, Millis.read?_eq_some_iff.mp hread, by omega, by omega, hage⟩
  · rintro ⟨r, hr, hrange, hahead, hage⟩
    obtain ⟨stamp, rfl⟩ := Millis.exists_toInt_eq (n := r) (by unfold Millis.Fits; omega)
    -- The age is no larger than the time to live, which is a word itself.
    have hfits : Millis.Fits (now.toInt - stamp.toInt) := by unfold Millis.Fits; omega
    exact ⟨stamp, Millis.read?_eq_some_iff.mpr hr, hfits, hage⟩

/-- The outcome of a purge of entries, for a time and a time to live as integers. -/
structure Purges (m : Entries) (now ttl : Int) (outcome : Purge) : Prop where
  /-- An entry is kept exactly if its value is the numeral of a time of 64 bits that is at most a
  time to live old, with an age that 64 bits can hold. -/
  mem_kept_iff (e : Text × Text) : e ∈ outcome.kept.toList ↔
    e ∈ m.toList ∧ ∃ r, Decimal.Numeral e.2 r ∧ (-2 ^ 63 ≤ r ∧ r < 2 ^ 63) ∧
      -2 ^ 63 ≤ now - r ∧ now - r ≤ ttl
  /-- What is not kept is removed, and counted. -/
  removed_eq : outcome.removed = (m.toList.filter fun e => e ∉ outcome.kept.toList).length
  /-- No age overflows: one that does not fit, on whichever side, makes its entry stale. -/
  not_mem_of_overflow {e : Text × Text} {r : Int} (hr : Decimal.Numeral e.2 r)
    (h : ¬Millis.Fits (now - r)) : e ∉ outcome.kept.toList

/-- Every purge has that outcome. -/
theorem purges (m : Entries) (now ttl : Millis) :
    Purges m now.toInt ttl.toInt (m.purge now ttl) where
  mem_kept_iff e := by rw [kept_purge, mem_live, isLive_iff_numeral]
  removed_eq := by
    rw [removed_purge, List.countP_eq_length_filter]
    refine congrArg List.length (List.filter_congr fun e he => ?_)
    simp [mem_live, he]
  not_mem_of_overflow {e r} hr h := by
    rw [kept_purge, mem_live]
    rintro ⟨-, hlive⟩
    obtain ⟨stamp, hread, hfits, -⟩ := isLive_iff.mp hlive
    have hstamp : r = stamp.toInt := hr.unique (Millis.read?_eq_some_iff.mp hread)
    exact h (hstamp ▸ hfits)

/-! ## Earlier purges -/

/-- What is live late was live early, so it passed an early purge. -/
theorem live_live (m : Entries) {early late ttl ttl' : Millis} (hstart : -1 ≤ early.toInt)
    (horder : early.toInt ≤ late.toInt) (httl : ttl'.toInt ≤ ttl.toInt) :
    (m.live early ttl).live late ttl' = m.live late ttl' := by
  apply OrderedMap.ext_get?
  intro k
  rw [get?_live, get?_live, get?_live, Option.filter_filter]
  congr 1
  funext value
  -- Of the two conditions on a value the late one is the stronger.
  have hearly : isLive late ttl' value = true → isLive early ttl value = true :=
    isLive_anti hstart horder httl
  cases hlate : isLive late ttl' value <;> simp_all

/-- The entry with the last time. -/
def farStamp : Entries := OrderedMap.ofList [("a".toList, "9223372036854775807".toList)]

-- Before -1 the age of the last time does not fit, so an early purge removes what is live later.
example : (farStamp.live (-2) 0).live 0 0 ≠ farStamp.live 0 0 := by decide +kernel

/-- A purge by some process: when it is made, and by which time to live. -/
structure Sweep where
  now : Millis
  ttl : Millis

/-- What a process leaves that purges. -/
def sweep (m : Entries) (s : Sweep) : Entries := (m.purge s.now s.ttl).kept

/-- A process sweeps before a purge, and by no shorter time to live. -/
structure Sweep.Precedes (s : Sweep) (late ttl : Millis) : Prop where
  start : -1 ≤ s.now.toInt
  order : s.now.toInt ≤ late.toInt
  longer : ttl.toInt ≤ s.ttl.toInt

/-- Earlier purges change nothing that is kept later: by induction on them, from the first one on,
as each leaves entries that the others meet. -/
theorem live_foldl_sweep (m : Entries) {earlier : List Sweep} {late ttl : Millis}
    (h : ∀ s ∈ earlier, s.Precedes late ttl) :
    (earlier.foldl sweep m).live late ttl = m.live late ttl := by
  induction earlier generalizing m with
  | nil => rfl
  | cons s earlier ih =>
    obtain ⟨hs, hrest⟩ := List.forall_mem_cons.mp h
    rw [List.foldl_cons, ih _ hrest, sweep, kept_purge, live_live m hs.start hs.order hs.longer]

/-- A purge keeps the entries with the numeral of a time that is at most a time to live old, for
every time and every time to live of 64 bits, and removes and counts all others; no age overflows. A
purge after an earlier one, or after many, keeps what it would keep alone. -/
theorem purge_exact (m : Entries) :
    (∀ now ttl : Millis, Purges m now.toInt ttl.toInt (m.purge now ttl)) ∧
      (∀ early late ttl ttl' : Millis, -1 ≤ early.toInt → early.toInt ≤ late.toInt →
        ttl'.toInt ≤ ttl.toInt →
          ((m.purge early ttl).kept.purge late ttl').kept = (m.purge late ttl').kept) ∧
      ∀ (earlier : List Sweep) (late ttl : Millis), (∀ s ∈ earlier, s.Precedes late ttl) →
        ((earlier.foldl sweep m).purge late ttl).kept = (m.purge late ttl).kept := by
  refine ⟨purges m, ?_, ?_⟩
  · intro early late ttl ttl' hstart horder httl
    exact live_live m hstart horder httl
  · intro earlier late ttl h
    exact live_foldl_sweep m h

/-- Entries with a sign or zeros in front of a time, with the first and the last time, and with
texts that are no times: one with a blank behind it, one that does not fit, one in other digits. -/
def oddStamps : Entries :=
  OrderedMap.ofList
    [("a".toList, "+5".toList), ("b".toList, "-0".toList), ("c".toList, "007".toList),
      ("d".toList, "9223372036854775807".toList), ("e".toList, "-9223372036854775808".toList),
      ("f".toList, "9223372036854775808".toList), ("g".toList, "9 ".toList),
      ("h".toList, "٩".toList)]

/-- At 10, three of them are at most five milliseconds old, and earlier purges from -1 on keep
these. -/
theorem purge_exact_oddStamps :
    (oddStamps.purge 10 5).kept.toList =
        [("a".toList, "+5".toList), ("c".toList, "007".toList),
          ("d".toList, "9223372036854775807".toList)] ∧
      (oddStamps.purge 10 5).removed = 5 ∧
      (∀ s ∈ [⟨-1, 9⟩, (⟨4, 5⟩ : Sweep)], s.Precedes 10 5) ∧
      Purges oddStamps (10 : Int64).toInt (5 : Int64).toInt (oddStamps.purge 10 5) ∧
      ((oddStamps.purge (-1) 9).kept.purge 10 5).kept = (oddStamps.purge 10 5).kept ∧
      (([⟨-1, 9⟩, ⟨4, 5⟩].foldl sweep oddStamps).purge 10 5).kept =
        (oddStamps.purge 10 5).kept := by
  have hkept : (oddStamps.purge 10 5).kept.toList =
      [("a".toList, "+5".toList), ("c".toList, "007".toList),
        ("d".toList, "9223372036854775807".toList)] := by decide +kernel
  have hremoved : (oddStamps.purge 10 5).removed = 5 := by decide +kernel
  have hearlier : ∀ s ∈ [⟨-1, 9⟩, (⟨4, 5⟩ : Sweep)], s.Precedes 10 5 := by
    simp only [List.forall_mem_cons, List.not_mem_nil, IsEmpty.forall_iff, implies_true, and_true]
    exact ⟨⟨by decide, by decide, by decide⟩, ⟨by decide, by decide, by decide⟩⟩
  obtain ⟨houtcome, hone, hmany⟩ := purge_exact oddStamps
  exact ⟨hkept, hremoved, hearlier, houtcome 10 5,
    hone (-1) 10 9 5 (by decide) (by decide) (by decide), hmany _ 10 5 hearlier⟩

end Entries

end PortReservation
