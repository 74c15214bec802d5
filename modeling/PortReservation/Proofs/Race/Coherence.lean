import PortReservation.Proofs.History
import PortReservation.Proofs.Race.Watch
import PortReservation.Proofs.Tracking

/-!
# What is debounced is booked

An allocator remembers what it handed out for a window, and its ledger for a time to live. Each of
the two drops what is old enough when it is used, at another bound than the other, and anybody who
reserves a port writes the ledger anew. If no reservation of a race lives shorter than the window of
an allocator that is watched, then a port that it debounces has an entry with the time at which it
handed the port out last, and nobody can reserve the port.

* `Follows`: what is known of the allocator that is watched.
* `Watch.Step.inv`: every step keeps that.
* `Watch.Starts.debounced_booked`: the debounced ports after any run.
-/

namespace PortReservation

/-! ## What is known of the allocator -/

/-- Whether an allocator handed out a port at a time, and did not hand out the port after that. -/
def Last (log : List HandOut) (e : HandOut) : Prop := Since log e fun d => d.port ≠ e.port

theorem last_concat {log : List HandOut} {d e : HandOut} :
    Last (log ++ [d]) e ↔ e = d ∨ Last log e ∧ d.port ≠ e.port := since_concat

/-- The time of the booking that a stage has. -/
def Stage.time? : Stage → Option Millis
  | .booked _ time _ => some time
  | .stored _ time _ => some time
  | _ => none

/-- The time of the booking after a phase. -/
def Progress.time? : Progress → Option Millis
  | .stage next => next.time?
  | .answer _ time => some time

/-- What is known of the allocator that is watched: what it tracks are its last hand-outs, and a
port that it reserves is not tracked and is booked at the time that the clock shows. -/
structure Follows (t : Terms) (h : Host) (log : List HandOut) (m : Settled) (activity : Activity) :
    Prop where
  window : m.allocator.debounce.window = t.ttl
  last : ∀ port time, m.allocator.debounce.handedOut.get? port = some time → Last log ⟨port, time⟩
  fresh : ∀ port stage candidates, activity = .reserving port stage candidates →
    m.allocator.debounce.contains port = false
  still : ∀ port stage candidates, activity = .reserving port stage candidates →
    ∀ time, stage.time? = some time → time = h.now t.clock

theorem Host.now_acquire (h : Host) (policy : LockPolicy) (path : Text) (c : ClockSource) :
    (h.acquire policy path).2.now c = h.now c := by
  cases ha : h.acquire policy path with
  | mk answer h' =>
    cases answer with
    | error e => exact (Host.undisturbed_of_acquire_error ha).now c
    | ok handle =>
      obtain ⟨place, hacq⟩ := Host.acquire_ok ha
      exact hacq.now c

theorem Ledger.now_proceed (l : Ledger) (port : Port) (stage : Stage) (h : Host) (c : ClockSource) :
    (l.proceed port stage h).2.now c = h.now c := by
  cases stage with
  | waiting =>
    have hnow := h.now_acquire l.policy l.path c
    simp only [proceed]
    split <;> next heq => rwa [heq] at hnow
  | locked handle => rfl
  | booked handle time booking => exact now_store booking handle h c
  | stored handle time granted => exact h.now_release handle c

/-- The time of the booking after a phase is the one before it, or that of the phase. -/
theorem Ledger.time?_proceed {l : Ledger} (port : Port) {stage : Stage} {h : Host} {now : Millis}
    (hnow : h.now l.clock = now) (hstill : ∀ time, stage.time? = some time → time = now) :
    ∀ time, (l.proceed port stage h).1.time? = some time → time = now := by
  intro time htime
  cases stage with
  | waiting =>
    have hclock := h.now_acquire l.policy l.path l.clock
    simp only [proceed] at htime
    cases ha : h.acquire l.policy l.path with
    | mk answer h' =>
      rw [ha] at htime hclock
      cases answer with
      | error e => exact (Option.some.inj htime).symm.trans (hclock.trans hnow)
      | ok handle => cases htime
  | locked handle => exact (Option.some.inj htime).symm.trans hnow
  | booked handle booked booking => exact hstill time htime
  | stored handle stored granted => exact hstill time htime

/-- No phase changes the clocks. -/
theorem Actor.now_advance (x : Actor) (h : Host) (c : ClockSource) :
    (x.advance h).2.1.now c = h.now c := by
  unfold advance
  split
  · rfl
  · have hnow := h.now_acquire x.participant.ledger.policy x.participant.ledger.path c
    split <;> next heq => rwa [heq] at hnow
  · exact h.now_release _ c
  · rfl
  · next candidate candidates _ =>
    split
    · rfl
    · next m _ =>
      have hnow := (m.allocator.passed_screen candidate h).now c
      split <;> next heq => rwa [heq] at hnow
  · next port stage candidates _ =>
    have hnow := x.participant.ledger.now_proceed port stage h c
    split <;> next heq => rwa [heq] at hnow

namespace Follows

variable {t : Terms} {h h' : Host} {log : List HandOut} {m : Settled} {activity : Activity}
  {port : Port} {stage : Stage} {candidates : List Port}

/-- Outside of a reservation, only what is tracked matters. -/
theorem outside (hf : Follows t h log m activity) {activity' : Activity}
    (hno : ∀ port stage candidates, activity' ≠ .reserving port stage candidates) :
    Follows t h' log m activity' where
  window := hf.window
  last := hf.last
  fresh port stage candidates heq := absurd heq (hno port stage candidates)
  still port stage candidates heq := absurd heq (hno port stage candidates)

/-- The clock may change outside of a reservation. -/
theorem later (hf : Follows t h log m activity)
    (hstill : activity ≠ .idle → h'.now t.clock = h.now t.clock) :
    Follows t h' log m activity where
  window := hf.window
  last := hf.last
  fresh := hf.fresh
  still port stage candidates heq time htime := by
    rw [hstill (by rw [heq]; exact Activity.noConfusion)]
    exact hf.still port stage candidates heq time htime

/-- Where the ledger is does not matter. -/
theorem located (hf : Follows t h log m activity) {m' : Settled} {locator : Locator}
    (hfound : m'.allocator = { m.allocator with locator }) : Follows t h log m' activity := by
  have hdebounce : m'.allocator.debounce = m.allocator.debounce := by rw [hfound]
  refine ⟨?_, ?_, ?_, hf.still⟩
  · rw [hdebounce]
    exact hf.window
  · rw [hdebounce]
    exact hf.last
  · rw [hdebounce]
    exact hf.fresh

/-- A reservation of a port that is not tracked is at a stage. -/
theorem reserving (hf : Follows t h log m activity)
    (hnew : m.allocator.debounce.contains port = false)
    (htime : ∀ time, stage.time? = some time → time = h'.now t.clock) :
    Follows t h' log m (.reserving port stage candidates) where
  window := hf.window
  last := hf.last
  fresh _ _ _ heq := by
    cases heq
    exact hnew
  still _ _ _ heq := by
    cases heq
    exact htime

/-- Ports are dropped. -/
theorem purge (hf : Follows t h log m activity) {debounce : Debounce} {now : Millis}
    (hpurge : m.allocator.debounce.purge now = .ok debounce) {activity' : Activity}
    (hno : ∀ port stage candidates, activity' ≠ .reserving port stage candidates) :
    Follows t h' log (m.withDebounce debounce) activity' := by
  obtain ⟨hwindow, hget⟩ := Debounce.get?_of_purge hpurge
  refine ⟨hwindow.trans hf.window, fun port time hp => ?_,
    fun port stage candidates heq => absurd heq (hno port stage candidates),
    fun port stage candidates heq => absurd heq (hno port stage candidates)⟩
  exact hf.last port time ((hget port time).mp hp).1

/-- A port that is not tracked is handed out. -/
theorem handOut (hf : Follows t h log m activity) (hclock : m.allocator.clock = t.clock)
    (hnew : m.allocator.debounce.contains port = false) :
    Follows t h' (log ++ [⟨port, h'.now t.clock⟩]) (m.handOut port h') .idle := by
  refine ⟨(Debounce.window_record _ _ _).trans hf.window, fun other time hp => ?_,
    fun _ _ _ heq => (nomatch heq), fun _ _ _ heq => nomatch heq⟩
  rw [Settled.handOut, Settled.withDebounce, Debounce.get?_record_of_new hnew, hclock] at hp
  rw [last_concat]
  by_cases hport : other = port
  · rw [if_pos hport] at hp
    cases hp
    exact .inl (by rw [hport])
  · rw [if_neg hport] at hp
    exact .inr ⟨hf.last other time hp, Ne.symm hport⟩

/-- A reservation has its answer. -/
theorem conclude (hf : Follows t h log m (.reserving port stage candidates))
    (hclock : m.allocator.clock = t.clock) {granted : Bool} {time : Millis}
    (htime : granted = true → time = h'.now t.clock) :
    ∃ m', (Actor.conclude ⟨.allocator m, .reserving port stage candidates⟩ port candidates granted
        h').participant = .allocator m' ∧
      Follows t h' (log ++ HandOut.ofGrant port time granted) m'
        (Actor.conclude ⟨.allocator m, .reserving port stage candidates⟩ port candidates granted
          h').activity := by
  cases granted with
  | false =>
    refine ⟨m, rfl, ?_⟩
    rw [HandOut.ofGrant, List.append_nil]
    exact hf.outside (by simp [Actor.conclude])
  | true =>
    rw [htime rfl]
    exact ⟨m.handOut port h', rfl, hf.handOut hclock (hf.fresh port stage candidates rfl)⟩

/-- The allocator goes on by a phase. -/
theorem advance (hf : Follows t h log m activity) (hclock : m.allocator.clock = t.clock) :
    ∃ m', (Actor.advance ⟨.allocator m, activity⟩ h).1.participant = .allocator m' ∧
      Follows t (Actor.advance ⟨.allocator m, activity⟩ h).2.1
        (log ++ (Actor.advance ⟨.allocator m, activity⟩ h).2.2) m'
        (Actor.advance ⟨.allocator m, activity⟩ h).1.activity := by
  cases activity with
  | idle => exact ⟨m, rfl, by simpa [Actor.advance] using hf⟩
  | listing handle =>
    cases handle with
    | none =>
      -- A listing that waits reserves nothing, whether it has the lock now or not.
      cases ha : h.acquire m.ledger.policy m.ledger.path with
      | mk answer h' =>
        cases answer <;> simp only [Actor.advance, Participant.ledger, ha, List.append_nil] <;>
          exact ⟨m, rfl, hf.outside (by simp)⟩
    | some handle =>
      simp only [Actor.advance, List.append_nil]
      exact ⟨m, rfl, hf.outside (by simp)⟩
  | searching candidates =>
    cases candidates with
    | nil =>
      simp only [Actor.advance, List.append_nil]
      exact ⟨m, rfl, hf.outside (by simp)⟩
    | cons candidate rest =>
      cases hs : m.allocator.screen candidate h with
      | mk passed h' =>
        cases passed with
        | none =>
          simp only [Actor.advance, hs, List.append_nil]
          exact ⟨m, rfl, hf.outside (by simp)⟩
        | some port =>
          simp only [Actor.advance, hs, List.append_nil]
          -- The candidate passed the screening, so it is not tracked; nothing is booked yet.
          refine ⟨m, rfl, hf.reserving (Allocator.contains_of_screen hs) fun time htime => ?_⟩
          cases htime
  | reserving port stage candidates =>
    -- No phase changes the clock, so what the reservation has booked it has booked at this time.
    have hstill := hf.still port stage candidates rfl
    have hclock' : h.now m.ledger.clock = h.now t.clock := congrArg h.now hclock
    have htime := Ledger.time?_proceed port hclock' hstill
    have hafter := m.ledger.now_proceed port stage h t.clock
    cases hp : m.ledger.proceed port stage h with
    | mk progress h' =>
      rw [hp] at htime hafter
      rw [← hafter] at htime
      cases progress with
      | stage next =>
        simp only [Actor.advance, Participant.ledger, hp, List.append_nil]
        exact ⟨m, rfl, hf.reserving (hf.fresh port stage candidates rfl) htime⟩
      | answer granted time =>
        simp only [Actor.advance, Participant.ledger, hp]
        exact hf.conclude hclock fun _ => htime time rfl

/-- The allocator begins a call. -/
theorem start (hf : Follows t h log m .idle) (call : Call) :
    ∃ m', (Actor.start ⟨.allocator m, .idle⟩ call h).participant = .allocator m' ∧
      Follows t h log m' (Actor.start ⟨.allocator m, .idle⟩ call h).activity := by
  cases call with
  | look q =>
    cases hpurge : m.allocator.debounce.purge (h.now m.allocator.clock) with
    | error o =>
      simp only [Actor.start, hpurge]
      exact ⟨m, rfl, hf⟩
    | ok debounce =>
      simp only [Actor.start, hpurge]
      exact ⟨m.withDebounce debounce, rfl, hf.purge hpurge (by simp)⟩
  | reserve port => exact ⟨m, rfl, hf⟩
  | entries => exact ⟨m, rfl, hf⟩

end Follows

/-! ## Every step keeps what is known -/

namespace Watch

variable {ι : Type} {t : Terms} {i : ι} {config : Config} {w w' : Watch ι}

/-- The invariant of a race in which an allocator is watched. -/
structure Inv (t : Terms) (i : ι) (w : Watch ι) : Prop where
  race : w.race.Inv t
  mem : ∀ e ∈ w.log, e ∈ w.race.log
  follows : ∃ m, (w.race.actor i).participant = .allocator m ∧
    Follows t w.race.host w.log m (w.race.actor i).activity

/-- The allocator is watched by the clock of the race. -/
theorem Inv.clock (hw : w.Inv t i) {m : Settled}
    (hm : (w.race.actor i).participant = .allocator m) : m.allocator.clock = t.clock := by
  have hjoined := (hw.race.actors i).joined.clock
  rw [hm] at hjoined
  exact hjoined

variable [DecidableEq ι] {x : Actor} {h : Host} {out : List HandOut}

/-- Somebody else does something, at the same time. -/
theorem Inv.put_other (hw : w.Inv t i) {j : ι} (hne : j ≠ i) (hrace : (w.race.put j x h out).Inv t)
    (hnow : h.now t.clock = w.race.host.now t.clock) :
    Inv t i { w with race := w.race.put j x h out } := by
  obtain ⟨m, hm, hf⟩ := hw.follows
  refine ⟨hrace, fun e he => List.mem_append_left _ (hw.mem e he), m, ?_, ?_⟩
  · dsimp only
    rwa [Race.put_actor_of_ne (Ne.symm hne)]
  · dsimp only
    rw [Race.put_actor_of_ne (Ne.symm hne)]
    exact hf.later fun _ => hnow

/-- The allocator hands something out. -/
theorem Inv.put_self (hw : w.Inv t i) (hrace : (w.race.put i x h out).Inv t)
    (hf : ∃ m, x.participant = .allocator m ∧ Follows t h (w.log ++ out) m x.activity) :
    Inv t i { w with race := w.race.put i x h out, log := w.log ++ out } := by
  obtain ⟨m, hm, hf⟩ := hf
  refine ⟨hrace, fun e he => ?_, m, ?_, ?_⟩
  · rcases List.mem_append.mp he with he | he
    · exact List.mem_append_left _ (hw.mem e he)
    · exact List.mem_append_right _ he
  · rwa [Race.put_actor_self]
  · rwa [Race.put_actor_self]

/-- The allocator does something else. -/
theorem Inv.put_silent (hw : w.Inv t i) (hrace : (w.race.put i x h []).Inv t) (locator : Locator)
    (hf : ∃ m, x.participant = .allocator m ∧ Follows t h w.log m x.activity) :
    Inv t i { w with race := w.race.put i x h [], locator } := by
  rw [← List.append_nil w.log] at hf
  have hself := hw.put_self hrace hf
  rw [List.append_nil] at hself
  exact ⟨hself.race, hself.mem, hself.follows⟩

/-- Every step keeps the invariant. -/
theorem Step.inv (step : Step t i w w') (hw : w.Inv t i) : w'.Inv t i := by
  -- For a participant other than the one that is watched, the race decides alone.
  obtain ⟨m, hm, hf⟩ := hw.follows
  have hstays := (Host.SameFiles.refl w.race.host).spares t
  cases step with
  | elsewhere hspares hlocks hstill =>
    exact ⟨hw.race.spares hspares hlocks, hw.mem, m, hm, hf.later hstill⟩
  | join hne hjoined hfree =>
    refine hw.put_other hne (hw.race.quiet hstays (fun _ he => he) ?_ ?_) rfl
    · exact Terms.actorInv_of_no_handle hjoined hfree
    · exact fun hhas => absurd hfree hhas
  | start j call hidle =>
    have hrace := (Race.Step.start j call hidle).inv hw.race
    by_cases hji : j = i
    · subst hji
      have hx : w.race.actor j = ⟨.allocator m, .idle⟩ := by rw [← hm, ← hidle]
      rw [hidle] at hf
      refine hw.put_silent hrace w.locator ?_
      rw [hx]
      exact hf.start call
    · exact hw.put_other hji hrace rfl
  | advance j hlocated =>
    have hrace := (Race.Step.advance j).inv hw.race
    by_cases hji : j = i
    · subst hji
      have hx : w.race.actor j = ⟨.allocator m, (w.race.actor j).activity⟩ := by rw [← hm]
      rw [if_pos rfl]
      refine hw.put_self hrace ?_
      rw [hx]
      exact hf.advance (hw.clock hm)
    · rw [if_neg hji, List.append_nil]
      exact hw.put_other hji hrace (Actor.now_advance _ _ _)
  | @locate m₁ m' hm₁ hfree hfound hslot =>
    cases hm.symm.trans hm₁
    have hsame := w.locator.sameFiles_resolve w.race.host
    have hjoined := (hw.race.actors i).joined
    rw [hm] at hjoined
    have hjoined' : t.Joined (w.locator.resolve w.race.host).2.2 m'.ledger := by
      refine ⟨?_, ?_, hslot⟩
      · rw [Settled.ledger, hfound]
        exact hjoined.clock
      · rw [Settled.ledger, hfound]
        exact hjoined.ttl
    refine hw.put_silent (hw.race.quiet (hsame.spares t) (fun e he => ?_) ?_ ?_) _
      ⟨m', rfl, ?_⟩
    · rwa [(w.locator.passed_resolve w.race.host).exclusive]
    · exact Terms.actorInv_of_no_handle hjoined' hfree
    · exact fun hhas => absurd hfree hhas
    · exact (hf.located hfound).later fun _ => hsame.now t.clock
  | relocate property hidle => exact ⟨hw.race, hw.mem, m, hm, hf⟩
  | list hm₁ hpurge =>
    rw [hm₁] at hm
    cases hm
    refine hw.put_silent (hw.race.stay ?_ rfl) w.locator ⟨_, rfl, hf.purge hpurge ?_⟩
    · rw [hm₁]
      rfl
    · simp

/-! ## What is debounced after a run -/

omit [DecidableEq ι] in
theorem Starts.inv (hs : w.Starts t i config) : w.Inv t i := by
  have hnew := hs.new
  unfold allocator? at hnew
  split at hnew
  · cases hnew
  · next m hm =>
    have hdebounce : m.allocator.debounce = Debounce.new config.window :=
      congrArg Allocator.debounce (Option.some.inj hnew)
    refine ⟨hs.race.inv, by simp [hs.log], m, hm, ?_, ?_, ?_, ?_⟩
    · rw [hdebounce, hs.window]
      rfl
    · rw [hdebounce]
      exact fun port time hp => nomatch hp
    all_goals
      intro port stage candidates heq
      rw [hs.race.idle i] at heq
      cases heq

/-- Nothing that was handed out is forgotten. -/
theorem Step.log (step : Step t i w w') : ∃ out, w'.race.log = w.race.log ++ out := by
  cases step with
  | elsewhere hspares hlocks hstill => exact ⟨[], (List.append_nil _).symm⟩
  | join hne hjoined hfree => exact ⟨[], rfl⟩
  | start j call hidle => exact ⟨[], rfl⟩
  | advance j hlocated => exact ⟨((w.race.actor j).advance w.race.host).2.2, rfl⟩
  | locate hm hfree hfound hslot => exact ⟨[], rfl⟩
  | relocate property hidle => exact ⟨[], (List.append_nil _).symm⟩
  | list hm hpurge => exact ⟨[], rfl⟩

theorem run_inv (run : Relation.ReflTransGen (Step t i) w w') (hw : w.Inv t i) : w'.Inv t i := by
  induction run with
  | refl => exact hw
  | tail _ step ih => exact step.inv ih

theorem run_log (run : Relation.ReflTransGen (Step t i) w w') :
    ∃ out, w'.race.log = w.race.log ++ out := by
  induction run with
  | refl => exact ⟨[], (List.append_nil _).symm⟩
  | tail _ step ih =>
    obtain ⟨out, hout⟩ := ih
    obtain ⟨more, hmore⟩ := step.log
    exact ⟨out ++ more, by rw [hmore, hout, List.append_assoc]⟩

/-- After a hand-out that is less than a window old, nobody hands out its port at that time. -/
theorem Inv.not_handedOut (hw : w.Inv t i) {e : HandOut} (he : e ∈ w.race.log)
    (hage : (w.race.host.now t.clock).toInt - e.time.toInt < t.ttl.toInt)
    (run : Relation.ReflTransGen (Step t i) w w')
    (hnow : w'.race.host.now t.clock = w.race.host.now t.clock) :
    ∃ new, w'.race.log = w.race.log ++ new ∧ ∀ d ∈ new, d.port ≠ e.port := by
  obtain ⟨new, hnew⟩ := run_log run
  refine ⟨new, hnew, fun d hd hport => ?_⟩
  have hbooks := (run_inv run hw).race.books
  have hpast := hbooks.past d (hnew ▸ List.mem_append_right _ hd)
  have hspaced := hbooks.spaced
  rw [hnew] at hspaced
  -- Hand-outs of one port are spaced, and the clock has not moved on.
  have hfar := (List.pairwise_append.mp hspaced).2.2 e he d hd hport.symm
  rw [hnow] at hpast
  omega

omit [DecidableEq ι] in
/-- A port whose hand-out is less than a window old cannot be reserved. -/
theorem Inv.not_reserved (hw : w.Inv t i) {e : HandOut} (he : e ∈ w.race.log)
    (hage : (w.race.host.now t.clock).toInt - e.time.toInt < t.ttl.toInt) {l : Ledger}
    (hl : t.Joined w.race.host l) : (l.tryReserve e.port w.race.host).1 ≠ .ok true := by
  intro hgranted
  obtain ⟨place, hlock, -, hbook, -⟩ := Ledger.tryReserve_ok (Prod.ext hgranted rfl)
  cases hlock.1.symm.trans hl.slot
  rw [hl.clock] at hbook
  have hfar := (hw.race.books.clear hl.ttl e.port).spaced hbook.symm e he rfl
  omega

/-- After any run, every port that the allocator debounces has an entry in the file, with the time
at which the allocator handed it out last. No attempt to reserve the port succeeds at that time: not
a call that nothing comes between, and none of those that any participants are in or begin. -/
theorem Starts.debounced_booked {w₀ : Watch ι} (hs : w₀.Starts t i config)
    (run : Relation.ReflTransGen (Step t i) w₀ w)
    (hspan : ∀ e ∈ w.log,
      (w.race.host.now t.clock).toInt - e.time.toInt ≤ 9223372036854775807) :
    ∃ a ports, w.allocator? i = some a ∧ (a.debouncedPorts w.race.host).1 = .ok ports ∧
      ∀ port ∈ ports, ∃ time, Last w.log ⟨port, time⟩ ∧
        (w.race.host.entriesAt t.place).get? (Entries.portKey port) = some time.render ∧
        (∀ l, t.Joined w.race.host l → (l.tryReserve port w.race.host).1 ≠ .ok true) ∧
        ∀ w', Relation.ReflTransGen (Step t i) w w' →
          w'.race.host.now t.clock = w.race.host.now t.clock →
            ∃ new, w'.race.log = w.race.log ++ new ∧ ∀ e ∈ new, e.port ≠ port := by
  have hw := run_inv run hs.inv
  obtain ⟨m, hm, hf⟩ := hw.follows
  have ha : w.allocator? i = some { m.allocator with locator := w.locator } := by
    rw [allocator?, hm]
  -- Every tracked time is that of a hand-out of the log, so its age fits and the purge succeeds.
  have hfits : ∀ port time, m.allocator.debounce.handedOut.get? port = some time →
      Millis.Fits ((w.race.host.now t.clock).toInt - time.toInt) := by
    intro port time hp
    have hmem := (hf.last port time hp).mem
    have hpast := hw.race.books.past _ (hw.mem _ hmem)
    have hmax := hspan _ hmem
    dsimp only at hpast hmax
    unfold Millis.Fits
    omega
  obtain ⟨debounce, hpurge, -, hget⟩ := Debounce.purge_ok hfits
  have hlist : ({ m.allocator with locator := w.locator }.debouncedPorts w.race.host).1 =
      .ok debounce.ports := by
    rw [Allocator.debouncedPorts, Allocator.purge, hw.clock hm, hpurge]
  refine ⟨_, _, ha, hlist, fun port hport => ?_⟩
  obtain ⟨time, htime⟩ := Debounce.contains_eq_true_iff.mp (Debounce.mem_ports.mp hport)
  obtain ⟨htracked, hage⟩ := (hget port time).mp htime
  rw [hf.window] at hage
  have hlast := hf.last port time htracked
  have hmem := hw.mem _ hlast.mem
  refine ⟨time, hlast, ?_, fun l hl => hw.not_reserved hmem hage hl,
    fun w' run' hnow => hw.not_handedOut hmem hage run' hnow⟩
  rcases hw.race.books.entry _ hmem with hold | hentry
  · -- Its entry can be missing only if it is older than the window, and then it is not debounced.
    dsimp only at hold
    omega
  · exact hentry

/-- A configuration that names a ledger. -/
def noviceConfig : Config := { ledger := some ['p'] }

/-- A new allocator and a ledger that share a file. -/
def novice : Watch Bool where
  race :=
    { host := Host.bare 7
      actor
        | false => ⟨.reserver { path := ['p'] }, .idle⟩
        | true =>
          ⟨.allocator ⟨{ Allocator.new noviceConfig .system with
            locator := { variableName := [], property := none, location := .enabled ['p'] } },
            ['p'], rfl⟩, .idle⟩ }
  locator := .ofConfig noviceConfig

/-- What the allocator answers when it looks for its ledger. -/
def noviceAnswer : Except Overflow (Option Port) × Allocator × Host :=
  (Allocator.new noviceConfig .system).inquire (.among [4000]) (Host.bare 7)

set_option maxRecDepth 100000 in
/-- The allocator debounces the port that it handed out, and the port is booked. -/
theorem Starts.debounced_booked_novice :
    noviceAnswer.1 = .ok (some 4000) ∧
      (noviceAnswer.2.1.debouncedPorts noviceAnswer.2.2).1 = .ok [4000] ∧
      ∃ w : Watch Bool, w.Shows true noviceAnswer.2.1 .idle noviceAnswer.2.2 [⟨4000, 7⟩] ∧
        ∃ a ports, w.allocator? true = some a ∧ (a.debouncedPorts w.race.host).1 = .ok ports ∧
          ∀ port ∈ ports, ∃ time, Last w.log ⟨port, time⟩ ∧
            (w.race.host.entriesAt [['p']]).get? (Entries.portKey port) = some time.render ∧
            (∀ l, Terms.Joined ⟨[['p']], .system, 10000⟩ w.race.host l →
              (l.tryReserve port w.race.host).1 ≠ .ok true) ∧
            ∀ w', Relation.ReflTransGen (Step ⟨[['p']], .system, 10000⟩ true) w w' →
              w'.race.host.now .system = w.race.host.now .system →
                ∃ new, w'.race.log = w.race.log ++ new ∧ ∀ e ∈ new, e.port ≠ port := by
  have hanswer : noviceAnswer.1 = .ok (some 4000) := by cbv
  have hlist : (noviceAnswer.2.1.debouncedPorts noviceAnswer.2.2).1 = .ok [4000] := by cbv
  have hstart : novice.Starts ⟨[['p']], .system, 10000⟩ true noviceConfig := by
    refine ⟨⟨?_, ?_, ?_, rfl⟩, rfl, rfl, rfl⟩
    · intro i
      cases i <;> rfl
    · intro i
      cases i <;> exact ⟨rfl, by decide, by cbv⟩
    · have hempty : ((Host.bare 7).entriesAt [['p']]).toList = [] := by cbv
      simp [Entries.Plain, novice, hempty]
  have hidle : novice.Shows true (Allocator.new noviceConfig .system) .idle (Host.bare 7) [] :=
    ⟨rfl, rfl, rfl, rfl⟩
  have hfinds : ∀ network, Finds ⟨[['p']], .system, 10000⟩ (.ofConfig noviceConfig)
      { Host.bare 7 with network } := fun network => ⟨['p'], by cbv, by cbv⟩
  obtain ⟨w, hrun, hw⟩ := run_inquire (.among [4000]) hidle hfinds
  have hw' : w.Shows true noviceAnswer.2.1 .idle noviceAnswer.2.2
      ([] ++ HandOut.ofAnswer 7 noviceAnswer.1) := hw
  rw [hanswer] at hw'
  refine ⟨hanswer, hlist, w, hw', hstart.debounced_booked hrun fun e he => ?_⟩
  have hnow : noviceAnswer.2.2.now .system = 7 := by cbv
  rw [hw'.log] at he
  cases List.mem_singleton.mp he
  rw [hw'.host, hnow]
  decide

end Watch

end PortReservation
