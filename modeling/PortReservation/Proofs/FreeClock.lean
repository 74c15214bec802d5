import PortReservation.Proofs.History
import PortReservation.Proofs.Operation
import PortReservation.Proofs.Tracking

/-!
# Runs by a clock that moves at will

The clock of an allocator is set forward and back, between its operations and during them, and
everything else on the host changes too. A purge compares the time with that of each tracked port,
and has no answer if a difference does not fit; nothing else that an allocator does can be without
one, as a ledger takes a stamp whose age does not fit for a stale one. What is tracked then depends
on every time at which there was a purge.

* `Trial`, `Search`, `Course`: trying candidates and whole runs on a changing host.
* `Lasts`: the hand-outs of a run that no purge dropped.
* `Course.tracked`: those are what is tracked.
* `Course.unanswered_iff`: when the next operation of a run has no answer.
-/

namespace PortReservation

namespace Allocator

/-! ## Calls on a changing host -/

/-- Trying a candidate while the host changes from one access to the next. What the ledger answers
is open. A port that is handed out gets the time that the clock shows then. -/
inductive Trial (a : Allocator) (candidate : Port) : Option HandOut → Allocator → Prop where
  | screened {h : Host} (hs : (a.screen candidate h).1 = none) : Trial a candidate none a
  | refused {h h₁ : Host} {port : Port} (hs : (a.screen candidate h).1 = some port)
      (hledger : (a.locator.resolve h₁).1 ≠ none) :
      Trial a candidate none { a with locator := (a.locator.resolve h₁).2.1 }
  | granted {h h₁ h₂ : Host} {port : Port} (hs : (a.screen candidate h).1 = some port) :
      Trial a candidate (some ⟨port, h₂.now a.clock⟩)
        ({ a with locator := (a.locator.resolve h₁).2.1 }.handOut port h₂)

/-- Candidates are tried in order until one is handed out. -/
inductive Search : Allocator → List Port → Option HandOut → Allocator → Prop where
  | exhausted (a : Allocator) : Search a [] none a
  | taken {a a' : Allocator} {candidate : Port} {rest : List Port} {e : HandOut}
      (ht : Trial a candidate (some e) a') : Search a (candidate :: rest) (some e) a'
  | skipped {a a' a'' : Allocator} {candidate : Port} {rest : List Port} {out : Option HandOut}
      (ht : Trial a candidate none a') (hs : Search a' rest out a'') :
      Search a (candidate :: rest) out a''

/-- What a run does to the debounced ports: those that are old enough at a time are dropped, or a
port is handed out. -/
inductive Moment where
  | purged (time : Millis)
  | handedOut (e : HandOut)

/-- Runs of a new allocator in which every operation had an answer. -/
inductive Course (config : Config) : List Moment → Allocator → Prop where
  | new (clock : ClockSource) : Course config [] (Allocator.new config clock)
  | look {ms : List Moment} {a a₁ a₂ : Allocator} {h : Host} {out : Option HandOut}
      (course : Course config ms a) (q : Inquiry) (hpurge : a.purge h = .ok a₁)
      (hs : Search a₁ q.candidates out a₂) :
      Course config (ms ++ .purged (h.now a.clock) :: (out.map .handedOut).toList) a₂
  | list {ms : List Moment} {a a₁ : Allocator} {h : Host} (course : Course config ms a)
      (hpurge : a.purge h = .ok a₁) : Course config (ms ++ [.purged (h.now a.clock)]) a₁
  | locate {ms : List Moment} {a : Allocator} (course : Course config ms a) (h : Host) :
      Course config ms (a.ledgerPath h).2.1
  | setLedger {ms : List Moment} {a : Allocator} (course : Course config ms a)
      (path : Option Text) : Course config ms (a.setLedger path)
  | clearLedger {ms : List Moment} {a : Allocator} (course : Course config ms a) :
      Course config ms a.clearLedger

variable {a a' : Allocator} {h : Host} {candidate : Port} {candidates : List Port}
  {out : Option HandOut}

/-- Asking the ledger for a port on one host is the rest of a trial. -/
theorem trial_confirm {h₁ : Host} {port : Port} (hs : (a.screen candidate h).1 = some port) :
    Trial a candidate ((a.confirm port h₁).1.map fun port => ⟨port, h₁.now a.clock⟩)
      (a.confirm port h₁).2.1 := by
  -- Neither the look for the ledger nor the ledger moves the clock, so one reading serves for all.
  have hclock := (a.passed_confirm port h₁).now a.clock
  unfold confirm at hclock ⊢
  cases hr : a.locator.resolve h₁ with
  | mk path? rest =>
    obtain ⟨locator, h₂⟩ := rest
    have hlocator : locator = (a.locator.resolve h₁).2.1 := by rw [hr]
    rw [hr] at hclock
    cases path? with
    | none =>
      rw [← hclock, hlocator]
      exact .granted hs
    | some path =>
      dsimp only at hclock ⊢
      cases hgranted : (a.ledgerAt path).reserve port h₂ with
      | mk granted h₃ =>
        rw [hgranted] at hclock
        cases granted with
        | true =>
          rw [← hclock, hlocator]
          exact .granted hs
        | false =>
          rw [hlocator]
          exact .refused hs (by rw [hr]; exact Option.some_ne_none path)

/-- Trying a candidate on one host is a trial. -/
theorem trial_tryPort (a : Allocator) (candidate : Port) (h : Host) :
    Trial a candidate ((a.tryPort candidate h).1.map fun port => ⟨port, h.now a.clock⟩)
      (a.tryPort candidate h).2.1 := by
  have hclock := (a.passed_screen candidate h).now a.clock
  unfold tryPort
  cases hs : a.screen candidate h with
  | mk passed h₁ =>
    have hpassed : (a.screen candidate h).1 = passed := by rw [hs]
    rw [hs] at hclock
    cases passed with
    | none => exact .screened hpassed
    | some port =>
      rw [← hclock]
      exact trial_confirm hpassed

/-- What a trial does: a port that is not debounced is handed out, or the debounced ports stay as
they are. -/
theorem Trial.cases (ht : Trial a candidate out a') :
    ∃ locator, out = none ∧ a' = { a with locator } ∨
      ∃ e : HandOut, out = some e ∧ a.debounce.contains e.port = false ∧
        a' = { a with locator, debounce := a.debounce.record e.port e.time } := by
  cases ht with
  | screened hs => exact ⟨a.locator, .inl ⟨rfl, rfl⟩⟩
  | refused hs hledger => exact ⟨_, .inl ⟨rfl, rfl⟩⟩
  | @granted h h₁ h₂ port hs =>
    have hscreen : a.screen candidate h = (some port, (a.screen candidate h).2) := Prod.ext hs rfl
    exact ⟨_, .inr ⟨⟨port, h₂.now a.clock⟩, rfl, contains_of_screen hscreen, rfl⟩⟩

/-- A search on one host is one. -/
theorem search_search (candidates : List Port) (a : Allocator) (h : Host) :
    Search a candidates ((a.search h candidates).1.map fun port => ⟨port, h.now a.clock⟩)
      (a.search h candidates).2.1 := by
  induction candidates generalizing a h with
  | nil => exact .exhausted a
  | cons candidate rest ih =>
    have ht := a.trial_tryPort candidate h
    rw [search_cons]
    cases htry : a.tryPort candidate h with
    | mk found state =>
      obtain ⟨a', h'⟩ := state
      rw [htry] at ht
      cases found with
      | some port => exact .taken ht
      | none =>
        obtain ⟨hclocks, locator, ⟨-, rfl⟩ | ⟨port, hfound, -⟩⟩ := tryPort_cases htry
        · have hrest := ih { a with locator } h'
          rw [hclocks] at hrest
          exact .skipped ht hrest
        · cases hfound

theorem Search.cases (hs : Search a candidates out a') :
    ∃ locator, out = none ∧ a' = { a with locator } ∨
      ∃ e : HandOut, out = some e ∧ a.debounce.contains e.port = false ∧
        a' = { a with locator, debounce := a.debounce.record e.port e.time } := by
  induction hs with
  | exhausted a => exact ⟨a.locator, .inl ⟨rfl, rfl⟩⟩
  | taken ht => exact ht.cases
  | skipped ht hs ih =>
    obtain ⟨locator, ⟨-, rfl⟩ | ⟨e, hout, -⟩⟩ := ht.cases
    · exact ih
    · cases hout

/-- A look-up on one host that has an answer goes on with a run. -/
theorem Course.inquire {config : Config} {ms : List Moment} (course : Course config ms a)
    (q : Inquiry) {found : Option Port} (hanswer : (a.inquire q h).1 = .ok found) :
    Course config
      (ms ++ .purged (h.now a.clock) ::
        (found.map fun port => Moment.handedOut ⟨port, h.now a.clock⟩).toList)
      (a.inquire q h).2.1 := by
  rw [inquire_eq, nextFrom] at hanswer ⊢
  cases hpurge : a.purge h with
  | error o =>
    rw [hpurge] at hanswer
    cases hanswer
  | ok a₁ =>
    have hclock : a₁.clock = a.clock := by
      obtain ⟨debounce, -, rfl⟩ := purge_eq_ok hpurge
      rfl
    rw [hpurge] at hanswer
    have hfind := a₁.findPort_toOption q.candidates h
    obtain ⟨hfound, hstate⟩ := Prod.ext_iff.mp hfind
    have hsearch := a₁.search_search q.candidates h
    rw [hclock, ← hfound, ← hstate, Except.ok.inj hanswer] at hsearch
    have hlook := course.look q hpurge hsearch
    rwa [Option.map_map] at hlook

/-! ## What is tracked -/

/-- Whether a run handed out a port and no purge of the run after that came a window later. -/
def Lasts (window : Millis) (ms : List Moment) (e : HandOut) : Prop :=
  Since ms (.handedOut e) fun m =>
    ∀ time, m = .purged time → time.toInt - e.time.toInt < window.toInt

variable {config : Config} {window : Millis} {ms : List Moment} {e : HandOut}

theorem lasts_concat_purged {time : Millis} :
    Lasts window (ms ++ [.purged time]) e ↔
      Lasts window ms e ∧ time.toInt - e.time.toInt < window.toInt := by
  rw [Lasts, since_concat, or_iff_right (by simp)]
  exact and_congr_right fun _ => by simp

theorem lasts_concat_handedOut {e' : HandOut} :
    Lasts window (ms ++ [.handedOut e']) e ↔ e = e' ∨ Lasts window ms e := by
  rw [Lasts, since_concat, and_iff_left (by simp)]
  exact or_congr_left (by simp)

/-- A debounce set that tracks the lasting hand-outs of a run. -/
def TracksLasting (window : Millis) (ms : List Moment) (d : Debounce) : Prop :=
  d.window = window ∧ ∀ port time, d.handedOut.get? port = some time ↔ Lasts window ms ⟨port, time⟩

theorem TracksLasting.purged {d d' : Debounce} {now : Millis} (hd : TracksLasting window ms d)
    (hpurge : d.purge now = .ok d') : TracksLasting window (ms ++ [.purged now]) d' := by
  obtain ⟨rfl, htracked⟩ := hd
  obtain ⟨hwindow, hget⟩ := Debounce.get?_of_purge hpurge
  refine ⟨hwindow, fun port time => ?_⟩
  rw [hget, htracked, lasts_concat_purged]

theorem TracksLasting.record {d : Debounce} (hd : TracksLasting window ms d)
    (hnew : d.contains e.port = false) :
    TracksLasting window (ms ++ [.handedOut e]) (d.record e.port e.time) := by
  obtain ⟨rfl, htracked⟩ := hd
  have hnone := Debounce.get?_eq_none hnew
  refine ⟨Debounce.window_record d e.port e.time, fun port time => ?_⟩
  rw [Debounce.get?_record_of_new hnew, lasts_concat_handedOut, ← htracked]
  obtain ⟨port', time'⟩ := e
  by_cases hport : port = port'
  · subst hport
    simp [hnone, eq_comm]
  · simp [hport]

/-- What is tracked after a run are its hand-outs that no purge dropped: by induction on the run. -/
theorem Course.tracked (course : Course config ms a) :
    TracksLasting config.window ms a.debounce := by
  induction course with
  | new clock =>
    exact ⟨rfl, fun port time => ⟨fun hget => (nomatch hget), fun hl => (not_since_nil hl).elim⟩⟩
  | @look ms a a₁ a₂ h out course q hpurge hs ih =>
    obtain ⟨debounce, hdebounce, rfl⟩ := purge_eq_ok hpurge
    have hpurged := ih.purged hdebounce
    rw [List.append_cons]
    -- First the purge, then at most one hand-out, of a port that the purge did not leave.
    obtain ⟨locator, ⟨rfl, rfl⟩ | ⟨e, rfl, hnew, rfl⟩⟩ := hs.cases
    · simpa using hpurged
    · exact hpurged.record hnew
  | list course hpurge ih =>
    obtain ⟨debounce, hdebounce, rfl⟩ := purge_eq_ok hpurge
    exact ih.purged hdebounce
  | locate course h ih => exact ih
  | setLedger course path ih => exact ih
  | clearLedger course ih => exact ih

/-- After any run, an operation has no answer exactly if it drops what is debounced long enough, and
the run handed out a port that no purge has dropped yet and whose age does not fit now. -/
theorem Course.unanswered_iff (course : Course config ms a) (op : Operation) (h : Host)
    (o : Overflow) :
    (a.perform op h).1 = .error o ↔
      o = .subtract ∧ op.Purges ∧ ∃ e, Lasts config.window ms e ∧
        ¬Millis.Fits ((h.now a.clock).toInt - e.time.toInt) := by
  obtain ⟨-, htracked⟩ := course.tracked
  rw [perform_eq_error_iff, Debounce.purge_eq_error_iff]
  simp only [htracked]
  constructor
  · rintro ⟨hpurges, ho, port, time, hlasts, hno⟩
    exact ⟨ho, hpurges, ⟨port, time⟩, hlasts, hno⟩
  · rintro ⟨ho, hpurges, ⟨port, time⟩, hlasts, hno⟩
    exact ⟨hpurges, ho, port, time, hlasts, hno⟩

/-- A host without files, locks and listeners whose clock shows a time. -/
def leapHost (time : Millis) : Host := { Host.bare 0 with clock := ⟨time⟩ }

/-- What a new allocator answers a millisecond before the epoch. -/
def leapFirst : Except Overflow (Option Port) × Allocator × Host :=
  (Allocator.new {} .manual).inquire (.among [21000]) (leapHost (-1))

/-- When the clock leaps to the last of all times, the debounced ports cannot be listed: the
configuration is a usable one, but the age of the port is a millisecond too high. -/
theorem Course.unanswered_iff_leap :
    ({} : Config).validate = .ok () ∧
      Course {} [.purged (-1), .handedOut ⟨21000, -1⟩] leapFirst.2.1 ∧
      (leapFirst.2.1.perform .list (leapHost 9223372036854775807)).1 = .error .subtract ∧
      ((leapFirst.2.1.perform .list (leapHost 9223372036854775807)).1 = .error .subtract ↔
        Overflow.subtract = .subtract ∧ Operation.list.Purges ∧
          ∃ e, Lasts Debounce.defaultWindow [.purged (-1), .handedOut ⟨21000, -1⟩] e ∧
            ¬Millis.Fits ((9223372036854775807 : Int64).toInt - e.time.toInt)) := by
  have hfound : leapFirst.1 = .ok (some 21000) := by cbv
  have hnew : Course {} [] (Allocator.new {} .manual) := .new .manual
  have hcourse : Course {} [.purged (-1), .handedOut ⟨21000, -1⟩] leapFirst.2.1 :=
    hnew.inquire (.among [21000]) hfound
  have hiff := hcourse.unanswered_iff .list (leapHost 9223372036854775807) .subtract
  refine ⟨by decide, hcourse, hiff.mpr ⟨rfl, trivial, ⟨21000, -1⟩, ?_, by decide⟩, hiff⟩
  exact ⟨[.purged (-1)], [], rfl, by simp⟩

end Allocator

end PortReservation
