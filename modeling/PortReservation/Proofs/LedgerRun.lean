import PortReservation.Proofs.LedgerCycle

/-!
# Runs of ledgers on one file

Any number of ledgers with one time to live reserve ports in the file at a place, one call after the
other, while everything else on the host changes as it likes. What a port's attempts are answered
depends on the entry that the file had for the port before the run and on the earlier successes for
that port, and on nothing else: an entry that is dropped early could not have refused the port
later, and an entry that is rewritten reads back as it was.

* `blocked_afterBooking`: which ports are taken at a later time, after a booking.
* `Run.inv`: after every run the file takes exactly the ports that it took before the run and those
  that were granted in it, each for its time to live.
* `Run.granted_iff`: which attempts of a run are granted.
-/

namespace PortReservation

namespace Entries

/-- Whether a live entry keeps a port from being reserved at a time. -/
def Blocked (m : Entries) (port : Port) (now ttl : Millis) : Prop :=
  ∃ value, (portKey port, value) ∈ m.toList ∧ isLive now ttl value = true

/-- A booking grants exactly the ports that are not taken. -/
theorem granted_iff_not_blocked (m : Entries) (port : Port) (now ttl : Millis) :
    (m.book port now ttl).granted = true ↔ ¬m.Blocked port now ttl := by
  rw [book_granted_iff, Bool.not_eq_true', ← Bool.not_eq_true, not_congr]
  rw [OrderedMap.contains, Option.isSome_iff_exists]
  simp only [OrderedMap.get?_eq_some_iff, mem_live]
  rfl

/-- A booking takes its port for a time to live where it is granted, and changes nothing for any
other port and any later time. -/
theorem blocked_afterBooking {m : Entries} {booked port : Port} {now later ttl : Millis}
    (h0 : 0 ≤ now.toInt) (hlater : now.toInt ≤ later.toInt) :
    (m.afterBooking booked now ttl).Blocked port later ttl ↔
      m.Blocked port later ttl ∨
        (m.book booked now ttl).granted = true ∧ booked = port ∧
          later.toInt - now.toInt ≤ ttl.toInt := by
  simp only [Blocked, mem_afterBooking]
  constructor
  · rintro ⟨value, ⟨hmem, -⟩ | ⟨hgranted, heq⟩, hlive⟩
    · exact .inl ⟨value, hmem, hlive⟩
    · rw [Prod.mk.injEq] at heq
      obtain ⟨hkey, rfl⟩ := heq
      exact .inr ⟨hgranted, (portKey_injective hkey).symm, (isLive_render hlater).mp hlive⟩
  · rintro (⟨value, hmem, hlive⟩ | ⟨hgranted, rfl, hage⟩)
    · exact ⟨value, .inl ⟨hmem, isLive_anti (by omega) hlater (Int.le_refl _) hlive⟩, hlive⟩
    · exact ⟨now.render, .inr ⟨hgranted, rfl⟩, (isLive_render hlater).mpr hage⟩

end Entries

namespace Ledger

/-- A call to reserve a port: the time that the clock of its ledger showed, and the answer. -/
structure Attempt where
  port : Port
  time : Millis
  answer : Except Error Bool

/-- Whether an attempt reserved its port. -/
def Attempt.Succeeded (a : Attempt) : Prop := a.answer = .ok true

/-- Runs of attempts in the file at a place, by ledgers with one time to live, from a host on. The
clock readings of the attempts are not negative and do not go back. -/
inductive Run (place : Place) (ttl : Millis) (start : Host) : List Attempt → Host → Prop where
  | start : Run place ttl start [] start
  /-- Anything else happens that does not write the file. -/
  | elsewhere {as : List Attempt} {h h' : Host} (run : Run place ttl start as h)
      (hfile : h'.files.octetsAt place = h.files.octetsAt place) : Run place ttl start as h'
  /-- A ledger whose path names the file tries to reserve a port. -/
  | attempt {as : List Attempt} {h : Host} (run : Run place ttl start as h) (l : Ledger)
      (port : Port) (httl : l.ttl = ttl) (hplace : h.files.slot? l.path = some place)
      (hnow : 0 ≤ h.now l.clock) (hclock : ∀ a ∈ as, a.time ≤ h.now l.clock) :
      Run place ttl start (as ++ [⟨port, h.now l.clock, (l.tryReserve port h).1⟩])
        (l.tryReserve port h).2

/-- The ports that a file takes after some attempts are those that it took before them and those
that they reserved. -/
structure RunInv (initial : Entries) (ttl : Millis) (as : List Attempt) (m : Entries) : Prop where
  plain : m.Plain
  blocked : ∀ port time, 0 ≤ Int64.toInt time → (∀ a ∈ as, a.time.toInt ≤ time.toInt) →
    (m.Blocked port time ttl ↔
      initial.Blocked port time ttl ∨
        ∃ a ∈ as, a.Succeeded ∧ a.port = port ∧ time.toInt - a.time.toInt ≤ ttl.toInt)

variable {initial m : Entries} {ttl : Millis} {as : List Attempt}

theorem RunInv.start (h : m.Plain) : RunInv m ttl [] m where
  plain := h
  blocked := by simp

/-- An attempt that fails changes nothing. -/
theorem RunInv.failed (hi : RunInv initial ttl as m) {a : Attempt} (ha : ¬a.Succeeded) :
    RunInv initial ttl (as ++ [a]) m where
  plain := hi.plain
  blocked port time h0 htime := by
    rw [hi.blocked port time h0 fun b hb => htime b (List.mem_append_left _ hb)]
    simp [or_and_right, exists_or, ha]

/-- A booking keeps the invariant. -/
theorem RunInv.booked (hi : RunInv initial ttl as m) {port : Port} {now : Millis}
    (h0 : 0 ≤ now.toInt) :
    RunInv initial ttl (as ++ [⟨port, now, .ok (m.book port now ttl).granted⟩])
      (m.afterBooking port now ttl) where
  plain := hi.plain.afterBooking port now ttl
  blocked other time htime0 htime := by
    have hlater : now.toInt ≤ time.toInt :=
      htime ⟨port, now, .ok (m.book port now ttl).granted⟩
        (List.mem_append_right _ List.mem_cons_self)
    rw [Entries.blocked_afterBooking h0 hlater,
      hi.blocked other time htime0 fun b hb => htime b (List.mem_append_left _ hb)]
    simp [Attempt.Succeeded, or_and_right, exists_or, or_assoc]

/-- Every run keeps the invariant: by induction on the run, a call being a booking or nothing. -/
theorem Run.inv {place : Place} {start h : Host} (run : Run place ttl start as h)
    (hplain : (start.entriesAt place).Plain) :
    RunInv (start.entriesAt place) ttl as (h.entriesAt place) := by
  induction run with
  | start => exact .start hplain
  | @elsewhere as h h' run hfile ih =>
    have hentries : h'.entriesAt place = h.entriesAt place := by
      rw [Host.entriesAt, Host.textAt, hfile, Host.entriesAt, Host.textAt]
    rw [hentries]
    exact ih
  | @attempt as h run l port httl hplace hnow hclock ih =>
    subst httl
    cases hr : l.tryReserve port h with
    | mk answer h' =>
      cases answer with
      | error e =>
        -- An error leaves the entries alone, and an answer leaves those of the booking.
        rw [(tryReserve_error hr).entriesAt place]
        exact ih.failed (by simp [Attempt.Succeeded])
      | ok granted =>
        have hafter := (entriesAt_tryReserve_iff hr hplace).mpr
          (.inr fun e he _ => ih.plain e he)
        obtain ⟨place', hlock, -, hgranted, -⟩ := tryReserve_ok hr
        cases hplace.symm.trans hlock.1
        rw [hafter, hgranted]
        exact ih.booked (Int64.le_iff_toInt_le.mp hnow)

/-- What the file says against a port at a time that is not negative. -/
theorem not_blocked_iff {port : Port} {time : Millis} (h0 : 0 ≤ time.toInt) :
    ¬m.Blocked port time ttl ↔
      ∀ value stamp, m.get? (Entries.portKey port) = some value →
        Millis.read? value = some stamp → ttl.toInt < time.toInt - stamp.toInt := by
  simp only [Entries.Blocked, OrderedMap.get?_eq_some_iff,
    Entries.isLive_iff_of_neg_one_le (Int.le_trans (by decide) h0)]
  constructor
  · intro h value stamp hmem hread
    exact Int.not_le.mp fun hle => h ⟨value, hmem, stamp, hread, hle⟩
  · rintro h ⟨value, hmem, stamp, hread, hle⟩
    exact Int.not_le.mpr (h value stamp hmem hread) hle

/-- An attempt of a run that does not fail is granted exactly if the entry that the file had for its
port before the run is missing, holds no time or is past its time to live, and every earlier success
for the port is past its time to live. -/
theorem Run.granted_iff {place : Place} {start h : Host} {before after : List Attempt}
    {a : Attempt} {granted : Bool} (run : Run place ttl start as h)
    (hplain : (start.entriesAt place).Plain)
    (has : as = before ++ a :: after) (ha : a.answer = .ok granted) :
    granted = true ↔
      (∀ value stamp, (start.entriesAt place).get? (Entries.portKey a.port) = some value →
        Millis.read? value = some stamp → ttl.toInt < a.time.toInt - stamp.toInt) ∧
      ∀ b ∈ before, b.port = a.port → b.answer = .ok true →
        ttl.toInt < a.time.toInt - b.time.toInt := by
  induction run generalizing after with
  | start => simp at has
  | elsewhere run hfile ih => exact ih has
  | @attempt as h run l port httl hplace hnow hclock ih =>
    rcases List.eq_nil_or_concat after with rfl | ⟨after', last, rfl⟩
    · -- The attempt is the last one, so the invariant of the run before it decides.
      obtain ⟨rfl, heq⟩ := List.append_inj' has rfl
      cases heq
      subst httl
      have hinv := run.inv hplain
      have h0 : 0 ≤ (h.now l.clock).toInt := Int64.le_iff_toInt_le.mp hnow
      have hr : l.tryReserve port h = (.ok granted, (l.tryReserve port h).2) := Prod.ext ha rfl
      obtain ⟨place', hlock, -, hgranted, -⟩ := tryReserve_ok hr
      cases hplace.symm.trans hlock.1
      rw [hgranted, Entries.granted_iff_not_blocked,
        hinv.blocked port _ h0 fun b hb => Int64.le_iff_toInt_le.mp (hclock b hb), not_or,
        not_blocked_iff h0]
      refine and_congr_right fun _ => ?_
      constructor
      · intro hno b hb hport hsuccess
        exact Int.not_le.mp fun hle => hno ⟨b, hb, hsuccess, hport, hle⟩
      · rintro hall ⟨b, hb, hsuccess, hport, hle⟩
        exact Int.not_le.mpr (hall b hb hport hsuccess) hle
    · rw [List.concat_eq_append, ← List.cons_append, ← List.append_assoc] at has
      obtain ⟨has, -⟩ := List.append_inj' has rfl
      exact ih has

/-- A ledger whose reservations live for five milliseconds. -/
def briefLedger : Ledger := { path := ['p'], ttl := 5 }

/-- What it answers for a port at 7. -/
def briefFirst : Except Error Bool × Host := briefLedger.tryReserve 4000 (Host.bare 7)

/-- What it answers for the port again, three milliseconds later. -/
def briefSecond : Except Error Bool × Host :=
  briefLedger.tryReserve 4000 { briefFirst.2 with systemTime := 10 }

/-- The second answer is a refusal, since the first success is not past its time to live. -/
theorem Run.granted_iff_briefSecond :
    briefFirst.1 = .ok true ∧ briefSecond.1 = .ok false ∧
      (false = true ↔
        (∀ value stamp,
          ((Host.bare 7).entriesAt [['p']]).get? (Entries.portKey 4000) = some value →
            Millis.read? value = some stamp →
              (5 : Int64).toInt < (10 : Int64).toInt - stamp.toInt) ∧
        ∀ b ∈ [Attempt.mk 4000 7 briefFirst.1], b.port = 4000 → b.answer = .ok true →
          (5 : Int64).toInt < (10 : Int64).toInt - b.time.toInt) := by
  have hfirst : briefFirst.1 = .ok true := by cbv
  have hsecond : briefSecond.1 = .ok false := by cbv
  have hstart : Run [['p']] 5 (Host.bare 7) [] (Host.bare 7) := .start
  have hrun : Run [['p']] 5 (Host.bare 7) [⟨4000, 7, briefFirst.1⟩] briefFirst.2 :=
    hstart.attempt briefLedger 4000 rfl (by cbv) (by decide) (by simp)
  have hlater : Run [['p']] 5 (Host.bare 7) [⟨4000, 7, briefFirst.1⟩]
      { briefFirst.2 with systemTime := 10 } := hrun.elsewhere rfl
  have hboth : Run [['p']] 5 (Host.bare 7)
      ([⟨4000, 7, briefFirst.1⟩] ++ [⟨4000, 10, briefSecond.1⟩]) briefSecond.2 :=
    hlater.attempt briefLedger 4000 rfl (by cbv) (by decide) (by simp; decide)
  have hplain : ((Host.bare 7).entriesAt [['p']]).Plain := by
    have hempty : ((Host.bare 7).entriesAt [['p']]).toList = [] := by cbv
    simp [Entries.Plain, hempty]
  have hiff := hboth.granted_iff hplain rfl hsecond
  exact ⟨hfirst, hsecond, hiff⟩

end Ledger

end PortReservation
