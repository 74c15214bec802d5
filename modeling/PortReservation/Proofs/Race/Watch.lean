import PortReservation.Proofs.Race.Safety

/-!
# Watching an allocator

One allocator of a race is watched from when it is new: what it hands out, and where it looks for
its ledger. In a race, an allocator knows where its ledger is; a new one looks for it in its first
look-up that comes so far.

* `Watch`, `Watch.Step`: a race in which an allocator is watched, and what can happen in it.
* `run_inquire`: a look-up that nothing comes between is a run, also that of an allocator that looks
  for its ledger.
-/

namespace PortReservation

/-- A race in which an allocator is watched: what it handed out, in order, and where it looks for
its ledger. Its participant of the race is the allocator as it is once it has found the ledger. -/
structure Watch (ι : Type) where
  race : Race ι
  log : List HandOut := []
  locator : Locator

namespace Watch

variable {ι : Type} [DecidableEq ι]

/-- The allocator that is watched. -/
def allocator? (w : Watch ι) (i : ι) : Option Allocator :=
  match (w.race.actor i).participant with
  | .reserver _ => none
  | .allocator m => some { m.allocator with locator := w.locator }

/-- What can happen next while an allocator is watched. -/
inductive Step (t : Terms) (i : ι) : Watch ι → Watch ι → Prop where
  /-- Anything else happens that leaves the file alone. Nobody loses the lock that it has, and the
  clock stands still while the allocator is in a call. -/
  | elsewhere {w : Watch ι} {h : Host} (hspares : t.Spares w.race.host h)
      (hlocks : ∀ j handle, (w.race.actor j).activity.handle? = some handle →
        (handle.opened.descriptor, handle.opened.file) ∈ h.locks.exclusive)
      (hstill : (w.race.actor i).activity ≠ .idle →
        h.now t.clock = w.race.host.now t.clock) :
      Step t i w { w with race := { w.race with host := h } }
  /-- Somebody else takes part from now on, in place of a participant. -/
  | join {w : Watch ι} {j : ι} {x : Actor} (hne : j ≠ i)
      (hjoined : t.Joined w.race.host x.participant.ledger)
      (hfree : x.activity.handle? = none) :
      Step t i w { w with race := w.race.put j x w.race.host [] }
  | start {w : Watch ι} (j : ι) (call : Call) (hidle : (w.race.actor j).activity = .idle) :
      Step t i w { w with race := w.race.start j call }
  /-- A participant goes on by a phase. The allocator that is watched knows where its ledger is when
  it locks the file. -/
  | advance {w : Watch ι} (j : ι)
      (hlocated : j = i → ∀ m port candidates,
        w.race.actor i = ⟨.allocator m, .reserving port .waiting candidates⟩ →
          w.locator = m.allocator.locator) :
      Step t i w { w with
        race := w.race.advance j
        log := w.log ++ if j = i then ((w.race.actor i).advance w.race.host).2.2 else [] }
  /-- The allocator looks for its ledger and finds it at the place. -/
  | locate {w : Watch ι} {m m' : Settled} (hm : (w.race.actor i).participant = .allocator m)
      (hfree : (w.race.actor i).activity.handle? = none)
      (hfound : m'.allocator =
        { m.allocator with locator := (w.locator.resolve w.race.host).2.1 })
      (hslot : (w.locator.resolve w.race.host).2.2.files.slot? m'.path = some t.place) :
      Step t i w { w with
        race := w.race.put i ⟨.allocator m', (w.race.actor i).activity⟩
          (w.locator.resolve w.race.host).2.2 []
        locator := (w.locator.resolve w.race.host).2.1 }
  /-- The property of the allocator is set, so it looks for its ledger anew. -/
  | relocate {w : Watch ι} (property : Option Text)
      (hidle : (w.race.actor i).activity = .idle) :
      Step t i w { w with locator := w.locator.setProperty property }
  /-- The debounced ports of the allocator are listed. -/
  | list {w : Watch ι} {m : Settled} {debounce : Debounce}
      (hm : w.race.actor i = ⟨.allocator m, .idle⟩)
      (hpurge : m.allocator.debounce.purge (w.race.host.now m.allocator.clock) = .ok debounce) :
      Step t i w { w with
        race := w.race.put i ⟨.allocator (m.withDebounce debounce), .idle⟩ w.race.host [] }

/-- The start: the race starts, and the allocator that is watched is a new one. -/
structure Starts (t : Terms) (i : ι) (config : Config) (w : Watch ι) : Prop where
  race : w.race.Starts t
  log : w.log = []
  new : w.allocator? i = some (Allocator.new config t.clock)
  window : t.ttl = config.window

end Watch

/-! ## Calls that nothing comes between -/

namespace Locator

/-- A ledger that was found is enabled. -/
theorem enabled_of_resolve {l : Locator} {h : Host} {path : Text}
    (hfound : (l.resolve h).1 = some path) : (l.resolve h).2.1.location = .enabled path := by
  have hlocation : (l.resolve h).2.1.location.path? = (l.resolve h).1 := by
    unfold resolve
    split <;> rfl
  rw [hfound] at hlocation
  cases hl : (l.resolve h).2.1.location with
  | unresolved => simp [hl, Location.path?] at hlocation
  | disabled => simp [hl, Location.path?] at hlocation
  | enabled path' =>
    rw [hl] at hlocation
    exact congrArg Location.enabled (Option.some.inj hlocation)

end Locator

/-- Asking the ledger for a port is looking for the ledger and asking it. -/
theorem Allocator.confirm_resolve (a : Allocator) (port : Port) (h : Host) :
    a.confirm port h =
      { a with locator := (a.locator.resolve h).2.1 }.confirm port (a.locator.resolve h).2.2 := by
  rw [confirm, confirm, Locator.resolve_resolve]
  rfl

theorem Allocator.confirm_locator (a : Allocator) (port : Port) (h : Host) :
    (a.confirm port h).2.1.locator = (a.locator.resolve h).2.1 := by
  unfold confirm
  split
  · next heq => rw [heq]; rfl
  · next heq =>
    rw [heq]
    split <;> rfl

/-- A phase changes of an allocator at most what is debounced. -/
theorem Actor.advance_locator (m : Settled) (activity : Activity) (h : Host) :
    ∃ m', (Actor.advance ⟨.allocator m, activity⟩ h).1.participant = .allocator m' ∧
      m'.allocator.locator = m.allocator.locator := by
  cases activity with
  | idle => exact ⟨m, rfl, rfl⟩
  | listing handle =>
    cases handle with
    | none =>
      refine ⟨m, ?_, rfl⟩
      simp only [advance]
      split <;> rfl
    | some handle => exact ⟨m, rfl, rfl⟩
  | searching candidates =>
    cases candidates with
    | nil => exact ⟨m, rfl, rfl⟩
    | cons candidate rest =>
      refine ⟨m, ?_, rfl⟩
      simp only [advance]
      split <;> rfl
  | reserving port stage candidates =>
    simp only [advance]
    split
    · exact ⟨m, rfl, rfl⟩
    · next granted time h' heq =>
      cases granted with
      | false => exact ⟨m, rfl, rfl⟩
      | true => exact ⟨m.handOut port h', rfl, rfl⟩

namespace Watch

variable {ι : Type} [DecidableEq ι] {t : Terms} {i : ι} {w : Watch ι} {a : Allocator}
  {activity : Activity} {h : Host} {log : List HandOut}

/-- What can be seen of a race in which an allocator is watched. -/
structure Shows (w : Watch ι) (i : ι) (a : Allocator) (activity : Activity) (h : Host)
    (log : List HandOut) : Prop where
  allocator : w.allocator? i = some a
  activity : (w.race.actor i).activity = activity
  host : w.race.host = h
  log : w.log = log

omit [DecidableEq ι] in
theorem Shows.actor (hw : w.Shows i a activity h log) :
    ∃ m, w.race.actor i = ⟨.allocator m, activity⟩ ∧
      a = { m.allocator with locator := w.locator } := by
  obtain ⟨ha, rfl, -, -⟩ := hw
  unfold allocator? at ha
  split at ha
  · cases ha
  · next m hm => exact ⟨m, by rw [← hm], (Option.some.inj ha).symm⟩

omit [DecidableEq ι] in
theorem shows_of_actor {m : Settled} (hx : w.race.actor i = ⟨.allocator m, activity⟩) :
    w.Shows i { m.allocator with locator := w.locator } activity w.race.host w.log := by
  refine ⟨?_, by rw [hx], rfl, rfl⟩
  rw [allocator?, hx]

/-- Phases of an allocator that knows where its ledger is, with nothing between them, are a run. -/
theorem run_phases {x x' : Actor} {h h' : Host} {out : List HandOut} (hp : Phases x h out x' h')
    {w : Watch ι} {m : Settled} (hx : w.race.actor i = x) (hh : w.race.host = h)
    (hm : x.participant = .allocator m) (hl : w.locator = m.allocator.locator) :
    ∃ w', Relation.ReflTransGen (Step t i) w w' ∧ w'.race.actor i = x' ∧ w'.race.host = h' ∧
      w'.log = w.log ++ out ∧ w'.locator = w.locator := by
  induction hp generalizing w m with
  | refl x h => exact ⟨w, .refl, hx, hh, (List.append_nil _).symm, rfl⟩
  | @step x x₁ x' h h₁ h' out log hadvance hrest ih =>
    -- The locator is that of the participant, so the phase is one that the watch allows.
    have hstep : Step t i w { w with race := w.race.put i x₁ h₁ out, log := w.log ++ out } := by
      have hone := Step.advance (t := t) (w := w) (i := i) i fun _ m₁ port candidates heq => by
        rw [hx] at heq
        rw [heq] at hm
        cases hm
        exact hl
      rw [if_pos rfl, Race.advance, hx, hh, hadvance] at hone
      exact hone
    obtain ⟨participant, activity⟩ := x
    cases hm
    obtain ⟨m', hm', hl'⟩ := Actor.advance_locator m activity h
    rw [hadvance] at hm'
    obtain ⟨w', hrun, hx', hh', hlog, hlocator⟩ :=
      ih (w := { w with race := w.race.put i x₁ h₁ out, log := w.log ++ out })
        (Race.put_actor_self _ _ _ _ _) rfl hm' (hl.trans hl'.symm)
    exact ⟨w', .head hstep hrun, hx', hh', by rw [hlog, List.append_assoc], hlocator⟩

/-- Whether a ledger is found at the place of a race. -/
def Finds (t : Terms) (l : Locator) (h : Host) : Prop :=
  ∃ path, (l.resolve h).1 = some path ∧ (l.resolve h).2.2.files.slot? path = some t.place

/-- A ledger that was found stays found while its path leads to the place. -/
theorem Finds.later {l : Locator} {h h' : Host} (hf : Finds t l h)
    (hslot : ∀ path, (l.resolve h).2.2.files.slot? path = some t.place →
      h'.files.slot? path = some t.place) : Finds t (l.resolve h).2.1 h' := by
  obtain ⟨path, hfound, hplace⟩ := hf
  refine ⟨path, ?_, ?_⟩
  · rw [Locator.resolve_resolve]
    exact hfound
  · rw [Locator.resolve_resolve]
    exact hslot path hplace

/-- Looking for the ledger and asking it for a port is a run. -/
theorem run_confirm {port : Port} {rest : List Port}
    (hw : w.Shows i a (.reserving port .waiting rest) h log) (hfinds : Finds t a.locator h) :
    ∃ w', Relation.ReflTransGen (Step t i) w w' ∧
      w'.Shows i (a.confirm port h).2.1
        (if (a.confirm port h).1.isSome then .idle else .searching rest) (a.confirm port h).2.2
        (log ++ HandOut.ofAnswer (h.now a.clock) (.ok (a.confirm port h).1)) := by
  obtain ⟨m, hx, rfl⟩ := hw.actor
  obtain rfl := hw.host
  obtain rfl := hw.log
  obtain ⟨path, hfound, hslot⟩ := hfinds
  -- The participant of the race once the ledger is found, and the race in which it takes part.
  let m' : Settled :=
    ⟨{ m.allocator with locator := (w.locator.resolve w.race.host).2.1 }, path,
      Locator.enabled_of_resolve hfound⟩
  let w₁ : Watch ι :=
    { w with
      race := w.race.put i ⟨.allocator m', .reserving port .waiting rest⟩
        (w.locator.resolve w.race.host).2.2 []
      locator := (w.locator.resolve w.race.host).2.1 }
  have hlocate : Step t i w w₁ := by
    have hone := Step.locate (t := t) (congrArg Actor.participant hx) (by rw [hx]; rfl)
      (show m'.allocator = _ from rfl) hslot
    rwa [hx] at hone
  -- From there on the allocator knows its ledger, and the phases of the reservation are the call.
  have hphases := phases_reserve ⟨.allocator m', .idle⟩ port rest w₁.race.host
  obtain ⟨w', hrun, hx', hh', hlog, hlocator⟩ :=
    run_phases (t := t) (w := w₁) hphases (Race.put_actor_self _ _ _ _ _) rfl rfl rfl
  -- Looking for the ledger takes no time, so the hand-out has the time of before.
  have hnow : w₁.race.host.now m'.ledger.clock = w.race.host.now m.allocator.clock :=
    (w.locator.passed_resolve w.race.host).now m.allocator.clock
  have hconfirm := (Allocator.confirm_resolve { m.allocator with locator := w.locator } port
    w.race.host).trans (m'.confirm_eq port w₁.race.host)
  rw [hconfirm]
  refine ⟨w', .head hlocate hrun, ?_⟩
  cases hr : m'.ledger.reserve port w₁.race.host with
  | mk granted h' =>
    dsimp only [Participant.ledger] at hx' hh' hlog
    rw [hr] at hx' hh' hlog
    rw [hnow] at hlog
    cases granted
    all_goals
      refine ⟨?_, congrArg Actor.activity hx', hh', hlog⟩
      rw [(shows_of_actor hx').allocator, hlocator]
      rfl

/-- The allocator goes on by a phase of its search. -/
theorem step_searching {candidates : List Port} {activity' : Activity} {h' : Host}
    (hw : w.Shows i a (.searching candidates) h log)
    (hadvance : ∀ m, a = { m.allocator with locator := w.locator } →
      Actor.advance ⟨.allocator m, .searching candidates⟩ h = (⟨.allocator m, activity'⟩, h', [])) :
    ∃ w', Step t i w w' ∧ w'.Shows i a activity' h' log := by
  obtain ⟨m, hx, ha⟩ := hw.actor
  have hone := Step.advance (t := t) (w := w) (i := i) i fun _ m' port rest heq => by
    rw [hx] at heq
    cases heq
  rw [if_pos rfl, Race.advance, hx, hw.host, hadvance m ha, List.append_nil, hw.log] at hone
  rw [ha]
  exact ⟨_, hone, shows_of_actor (Race.put_actor_self _ _ _ _ _)⟩

/-- Trying a candidate is a run. -/
theorem run_tryPort {candidate : Port} {rest : List Port}
    (hw : w.Shows i a (.searching (candidate :: rest)) h log)
    (hfinds : ∀ network, Finds t a.locator { h with network }) :
    ∃ w', Relation.ReflTransGen (Step t i) w w' ∧
      w'.Shows i (a.tryPort candidate h).2.1
        (if (a.tryPort candidate h).1.isSome then .idle else .searching rest)
        (a.tryPort candidate h).2.2
        (log ++ HandOut.ofAnswer (h.now a.clock) (.ok (a.tryPort candidate h).1)) := by
  have hnow := (a.passed_screen candidate h).now a.clock
  obtain ⟨network, hnetwork⟩ := a.screen_host candidate h
  unfold Allocator.tryPort
  cases hs : a.screen candidate h with
  | mk passed h₁ =>
    rw [hs] at hnow hnetwork
    dsimp only at hnow hnetwork
    have hscreen : ∀ m : Settled, a = { m.allocator with locator := w.locator } →
        m.allocator.screen candidate h = (passed, h₁) := by
      rintro m rfl
      exact hs
    cases passed with
    | none =>
      have hskip : ∃ w₁, Step t i w w₁ ∧ w₁.Shows i a (.searching rest) h₁ log :=
        step_searching hw fun m hm => by simp only [Actor.advance, hscreen m hm]
      obtain ⟨w₁, hstep, hw₁⟩ := hskip
      rw [← List.append_nil log] at hw₁
      exact ⟨w₁, .single hstep, hw₁⟩
    | some port =>
      have hpass : ∃ w₁, Step t i w w₁ ∧ w₁.Shows i a (.reserving port .waiting rest) h₁ log :=
        step_searching hw fun m hm => by simp only [Actor.advance, hscreen m hm]
      obtain ⟨w₁, hstep, hw₁⟩ := hpass
      have hfound : Finds t a.locator h₁ := by
        rw [hnetwork]
        exact hfinds network
      obtain ⟨w₂, hconfirm, hw₂⟩ := run_confirm hw₁ hfound
      rw [hnow] at hw₂
      exact ⟨w₂, .head hstep hconfirm, hw₂⟩

/-- Trying a candidate leaves the ledger where it is found. -/
theorem finds_tryPort (candidate : Port) (hfinds : ∀ network, Finds t a.locator { h with network })
    (network : Network) :
    Finds t (a.tryPort candidate h).2.1.locator { (a.tryPort candidate h).2.2 with network } := by
  obtain ⟨network₁, hnetwork⟩ := a.screen_host candidate h
  unfold Allocator.tryPort
  cases hs : a.screen candidate h with
  | mk passed h₁ =>
    rw [hs] at hnetwork
    dsimp only at hnetwork ⊢
    cases passed with
    | none =>
      rw [hnetwork]
      exact hfinds network
    | some port =>
      have hfound : Finds t a.locator h₁ := by
        rw [hnetwork]
        exact hfinds network₁
      dsimp only
      rw [a.confirm_locator]
      -- A reservation leaves every path at its place.
      refine hfound.later fun path hpath => ?_
      rw [(a.locator.passed_resolve h₁).slot?] at hpath
      rw [← hpath]
      exact (a.passed_confirm port h₁).slot? path

/-- A search that nothing comes between is a run. -/
theorem run_search (candidates : List Port) (hw : w.Shows i a (.searching candidates) h log)
    (hfinds : ∀ network, Finds t a.locator { h with network }) :
    ∃ w', Relation.ReflTransGen (Step t i) w w' ∧
      w'.Shows i (a.search h candidates).2.1 .idle (a.search h candidates).2.2
        (log ++ HandOut.ofAnswer (h.now a.clock) (.ok (a.search h candidates).1)) := by
  induction candidates generalizing w a h log with
  | nil =>
    obtain ⟨w', hstep, hw'⟩ := step_searching (t := t) hw fun m _ => rfl
    rw [← List.append_nil log] at hw'
    exact ⟨w', .single hstep, hw'⟩
  | cons candidate rest ih =>
    obtain ⟨w₁, hrun₁, hw₁⟩ := run_tryPort hw hfinds
    have hlater := finds_tryPort candidate hfinds
    rw [Allocator.search_cons]
    cases htry : a.tryPort candidate h with
    | mk found state =>
      obtain ⟨a', h'⟩ := state
      rw [htry] at hw₁ hlater
      cases found with
      | some port => exact ⟨w₁, hrun₁, hw₁⟩
      | none =>
        obtain ⟨hclocks, locator, ⟨-, rfl⟩ | ⟨port, hfound, -⟩⟩ := Allocator.tryPort_cases htry
        · have hsilent : HandOut.ofAnswer (h.now a.clock) (.ok none) = [] := rfl
          rw [hsilent, List.append_nil] at hw₁
          obtain ⟨w', hrun, hw'⟩ := ih hw₁ hlater
          rw [hclocks] at hw'
          exact ⟨w', hrun₁.trans hrun, hw'⟩
        · cases hfound

/-- A look-up that nothing comes between is a run, if an allocator that looks for its ledger finds
it at the place. -/
theorem run_inquire (q : Allocator.Inquiry) (hw : w.Shows i a .idle h log)
    (hfinds : ∀ network, Finds t a.locator { h with network }) :
    ∃ w', Relation.ReflTransGen (Step t i) w w' ∧
      w'.Shows i (a.inquire q h).2.1 .idle (a.inquire q h).2.2
        (log ++ HandOut.ofAnswer (h.now a.clock) (a.inquire q h).1) := by
  rw [Allocator.inquire_eq, Allocator.nextFrom, Allocator.purge]
  cases hpurge : a.debounce.purge (h.now a.clock) with
  | error o =>
    -- A look-up whose purge fails hands out nothing and changes nothing: it is no step at all.
    rw [← List.append_nil log] at hw
    exact ⟨w, .refl, hw⟩
  | ok debounce =>
    let w₁ : Watch ι := { w with race := w.race.start i (.look q) }
    have hstart : Step t i w w₁ := .start i (.look q) hw.activity
    have hw₁ : w₁.Shows i { a with debounce } (.searching q.candidates) h log := by
      obtain ⟨m, hx, rfl⟩ := hw.actor
      have hx₁ : w₁.race.actor i =
          ⟨.allocator (m.withDebounce debounce), .searching q.candidates⟩ := by
        rw [← hw.host] at hpurge
        simp only [w₁, Race.start, Race.put_actor_self, hx, Actor.start, hpurge]
      have hshows := shows_of_actor hx₁
      exact ⟨hshows.allocator, hshows.activity, hw.host, hw.log⟩
    obtain ⟨w', hrun, hw'⟩ := run_search q.candidates hw₁ hfinds
    have hfound := Allocator.findPort_toOption { a with debounce } q.candidates h
    rw [← hfound] at hw'
    exact ⟨w', .head hstart hrun, hw'⟩

end Watch

end PortReservation
