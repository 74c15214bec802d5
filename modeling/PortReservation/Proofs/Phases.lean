import PortReservation.Proofs.Lookup

/-!
# Calls in phases

Participants that share a ledger do not wait for each other: between two accesses of a call to what
is shared, the calls of others go on. So a call is a sequence of phases, each of which opens and
locks the file, reads it, writes it, gives the lock back, or screens one candidate. A call that
polls for the lock takes that phase at its last try.

* `Ledger.proceed`, `Actor.advance`: the phases of a reservation and of any call.
* `phases_reserve`, `phases_entries`, `phases_inquire`: the phases of a call that nothing comes
  between are the call.
-/

namespace PortReservation

/-! ## Reservations -/

/-- How far a reservation is. -/
inductive Stage where
  | waiting
  | locked (handle : LockHandle)
  | booked (handle : LockHandle) (time : Millis) (booking : Entries.Booking)
  | stored (handle : LockHandle) (time : Millis) (granted : Bool)

/-- What a phase of a reservation leads to. -/
inductive Progress where
  | stage (next : Stage)
  /-- The answer, and the time of the booking. -/
  | answer (granted : Bool) (time : Millis)

/-- What an answer hands out. -/
def HandOut.ofGrant (port : Port) (time : Millis) : Bool → List HandOut
  | true => [⟨port, time⟩]
  | false => []

/-- The next phase of a reservation. One that cannot lock the file reserves nothing. -/
def Ledger.proceed (l : Ledger) (port : Port) (stage : Stage) (h : Host) : Progress × Host :=
  match stage with
  | .waiting =>
    match h.acquire l.policy l.path with
    | (.error _, h) => (.answer false (h.now l.clock), h)
    | (.ok handle, h) => (.stage (.locked handle), h)
  | .locked handle => (.stage (.booked handle (h.now l.clock) (l.book port handle h)), h)
  | .booked handle time booking =>
    (.stage (.stored handle time booking.granted), store booking handle h)
  | .stored handle time granted => (.answer granted time, h.release handle)

/-! ## Participants -/

/-- An allocator that knows where its ledger is. -/
structure Settled where
  allocator : Allocator
  path : Text
  enabled : allocator.locator.location = .enabled path

namespace Settled

/-- The ledger of the allocator. -/
def ledger (m : Settled) : Ledger := m.allocator.ledgerAt m.path

/-- The allocator with other debounced ports. -/
def withDebounce (m : Settled) (debounce : Debounce) : Settled :=
  { m with allocator := { m.allocator with debounce } }

/-- The allocator after it handed out a port. -/
def handOut (m : Settled) (port : Port) (h : Host) : Settled :=
  m.withDebounce (m.allocator.debounce.record port (h.now m.allocator.clock))

end Settled

/-- Who can reserve ports in a ledger. -/
inductive Participant where
  | reserver (l : Ledger)
  | allocator (m : Settled)

/-- The ledger that a participant reserves in. -/
def Participant.ledger : Participant → Ledger
  | .reserver l => l
  | .allocator m => m.ledger

/-- What a participant is doing. -/
inductive Activity where
  | idle
  /-- It lists the entries, with a handle once it has one. -/
  | listing (handle : Option LockHandle)
  /-- It looks up a port among the candidates that are left. -/
  | searching (candidates : List Port)
  /-- It reserves a port. A look-up goes on with the candidates that are left if it cannot. -/
  | reserving (port : Port) (stage : Stage) (candidates : List Port)

/-- A participant and what it is doing. -/
structure Actor where
  participant : Participant
  activity : Activity := .idle

/-- The calls that participants make. -/
inductive Call where
  | look (q : Allocator.Inquiry)
  | reserve (port : Port)
  | entries

namespace Actor

/-- A call begins. Look-ups are for allocators, and one that cannot tell an age ends at once; the
other calls are for ledgers. -/
def start (x : Actor) (call : Call) (h : Host) : Actor :=
  match call, x.participant with
  | .look q, .allocator m =>
    match m.allocator.debounce.purge (h.now m.allocator.clock) with
    | .error _ => x
    | .ok debounce => ⟨.allocator (m.withDebounce debounce), .searching q.candidates⟩
  | .reserve port, .reserver _ => { x with activity := .reserving port .waiting [] }
  | .entries, .reserver _ => { x with activity := .listing none }
  | _, _ => x

/-- A reservation has its answer. -/
def conclude (x : Actor) (port : Port) (candidates : List Port) (granted : Bool) (h : Host) :
    Actor :=
  match x.participant with
  | .reserver _ => { x with activity := .idle }
  | .allocator m =>
    if granted then
      ⟨.allocator (m.handOut port h), .idle⟩
    else { x with activity := .searching candidates }

/-- The next phase of the call that a participant is in, and what the call hands out. -/
def advance (x : Actor) (h : Host) : Actor × Host × List HandOut :=
  match x.activity with
  | .idle => (x, h, [])
  | .listing none =>
    match h.acquire x.participant.ledger.policy x.participant.ledger.path with
    | (.error _, h) => ({ x with activity := .idle }, h, [])
    | (.ok handle, h) => ({ x with activity := .listing (some handle) }, h, [])
  | .listing (some handle) => ({ x with activity := .idle }, h.release handle, [])
  | .searching [] => ({ x with activity := .idle }, h, [])
  | .searching (candidate :: candidates) =>
    match x.participant with
    | .reserver _ => (x, h, [])
    | .allocator m =>
      match m.allocator.screen candidate h with
      | (none, h) => ({ x with activity := .searching candidates }, h, [])
      | (some port, h) => ({ x with activity := .reserving port .waiting candidates }, h, [])
  | .reserving port stage candidates =>
    match x.participant.ledger.proceed port stage h with
    | (.stage stage, h) => ({ x with activity := .reserving port stage candidates }, h, [])
    | (.answer granted time, h) =>
      (x.conclude port candidates granted h, h, HandOut.ofGrant port time granted)

end Actor

/-- Some phases of a participant with nothing between them, and what they hand out. -/
inductive Phases : Actor → Host → List HandOut → Actor → Host → Prop where
  | refl (x : Actor) (h : Host) : Phases x h [] x h
  | step {x x' x'' : Actor} {h h' h'' : Host} {out log : List HandOut}
      (hx : x.advance h = (x', h', out)) (hrest : Phases x' h' log x'' h'') :
      Phases x h (out ++ log) x'' h''

namespace Phases

variable {x x' x'' : Actor} {h h' h'' : Host} {out log : List HandOut}

/-- A phase that hands out nothing. -/
theorem silent (hx : x.advance h = (x', h', [])) (hrest : Phases x' h' log x'' h'') :
    Phases x h log x'' h'' := .step hx hrest

/-- A single phase. -/
theorem single (hx : x.advance h = (x', h', out)) : Phases x h out x' h' := by
  have hone := step hx (.refl x' h')
  rwa [List.append_nil] at hone

end Phases

/-! ## Calls that nothing comes between -/

/-- Beginning a call does not change the ledger. -/
theorem Actor.start_ledger (x : Actor) (call : Call) (h : Host) :
    (x.start call h).participant.ledger = x.participant.ledger := by
  unfold start
  split
  · next q m hm =>
    split
    · rfl
    · rw [hm]
      rfl
  · rfl
  · rfl
  · rfl

/-- An answer does not change the ledger. -/
theorem Actor.conclude_ledger (x : Actor) (port : Port) (candidates : List Port) (granted : Bool)
    (h : Host) :
    (x.conclude port candidates granted h).participant.ledger = x.participant.ledger := by
  unfold conclude
  split
  · rfl
  · next m hm =>
    split
    · rw [hm]
      rfl
    · rfl

/-- What a participant does after an answer does not depend on what it was doing. -/
theorem Actor.conclude_activity (x : Actor) (activity : Activity) (port : Port)
    (candidates : List Port) (granted : Bool) (h : Host) :
    { x with activity }.conclude port candidates granted h =
      x.conclude port candidates granted h := by
  unfold conclude
  cases x.participant <;> rfl

/-- A reservation in phases is a reservation. -/
theorem phases_reserve (x : Actor) (port : Port) (candidates : List Port) (h : Host) :
    Phases { x with activity := .reserving port .waiting candidates } h
      (HandOut.ofGrant port (h.now x.participant.ledger.clock)
        (x.participant.ledger.reserve port h).1)
      (x.conclude port candidates (x.participant.ledger.reserve port h).1
        (x.participant.ledger.reserve port h).2)
      (x.participant.ledger.reserve port h).2 := by
  cases ha : h.acquire x.participant.ledger.policy x.participant.ledger.path with
  | mk answer h₁ =>
    cases answer with
    | error e =>
      have hreserve : x.participant.ledger.reserve port h = (false, h₁) := by
        rw [Ledger.reserve_eq, Ledger.tryReserve_eq, ha]
      rw [hreserve]
      refine .single ?_
      simp only [Actor.advance, Ledger.proceed, ha, Actor.conclude_activity]
      rfl
    | ok handle =>
      obtain ⟨place, hacq⟩ := Host.acquire_ok ha
      have hreserve : x.participant.ledger.reserve port h =
          ((x.participant.ledger.book port handle h₁).granted,
            (Ledger.store (x.participant.ledger.book port handle h₁) handle h₁).release
              handle) := by
        rw [Ledger.reserve_eq, Ledger.tryReserve_eq, ha]
      have hlock : { x with activity := .reserving port .waiting candidates }.advance h =
          ({ x with activity := .reserving port (.locked handle) candidates }, h₁, []) := by
        simp only [Actor.advance, Ledger.proceed, ha]
      rw [hreserve, ← hacq.now]
      -- The lock is there, so the port is booked, the file is written and the lock is given back.
      refine .silent hlock (.silent rfl (.silent rfl (.single ?_)))
      simp only [Actor.advance, Ledger.proceed, Actor.conclude_activity]

/-- Listing the entries in phases is listing them. -/
theorem phases_entries (l : Ledger) (h : Host) :
    Phases (Actor.start ⟨.reserver l, .idle⟩ .entries h) h [] ⟨.reserver l, .idle⟩
      (l.entries h).2 := by
  cases ha : h.acquire l.policy l.path with
  | mk answer h₁ =>
    cases answer with
    | error e =>
      have hentries : (l.entries h).2 = h₁ := by rw [Ledger.entries_eq, ha]
      rw [hentries]
      refine .single ?_
      simp only [Actor.start, Actor.advance, Participant.ledger, ha]
    | ok handle =>
      have hentries : (l.entries h).2 = h₁.release handle := by rw [Ledger.entries_eq, ha]
      have hlock : (Actor.start ⟨.reserver l, .idle⟩ .entries h).advance h =
          (⟨.reserver l, .listing (some handle)⟩, h₁, []) := by
        simp only [Actor.start, Actor.advance, Participant.ledger, ha]
      rw [hentries]
      exact .silent hlock (.single rfl)

/-- An allocator that knows its ledger hands a port out if the ledger grants it. -/
theorem Settled.confirm_eq (m : Settled) (port : Port) (h : Host) :
    m.allocator.confirm port h =
      if (m.ledger.reserve port h).1 then
        (some port, m.allocator.handOut port (m.ledger.reserve port h).2,
          (m.ledger.reserve port h).2)
      else (none, m.allocator, (m.ledger.reserve port h).2) := by
  have hresolve : m.allocator.locator.resolve h = (some m.path, m.allocator.locator, h) := by
    rw [Locator.resolve_resolved (by rw [m.enabled]; exact Location.noConfusion), m.enabled]
    rfl
  rw [Allocator.confirm, hresolve, Settled.ledger]
  dsimp only
  cases (m.allocator.ledgerAt m.path).reserve port h with
  | mk granted h' => cases granted <;> rfl

namespace Phases

variable {x x' x'' : Actor} {h h' h'' : Host} {out log : List HandOut}

theorem append (hp : Phases x h out x' h') (hp' : Phases x' h' log x'' h'') :
    Phases x h (out ++ log) x'' h'' := by
  induction hp with
  | refl x h => exact hp'
  | step hx hrest ih =>
    rw [List.append_assoc]
    exact .step hx (ih hp')

end Phases

/-- The search of a look-up in phases is the search. -/
theorem phases_search (candidates : List Port) (m : Settled) (h : Host) :
    ∃ m' : Settled, m'.allocator = (m.allocator.search h candidates).2.1 ∧
      Phases ⟨.allocator m, .searching candidates⟩ h
        (HandOut.ofAnswer (h.now m.allocator.clock) (.ok (m.allocator.search h candidates).1))
        ⟨.allocator m', .idle⟩ (m.allocator.search h candidates).2.2 := by
  induction candidates generalizing m h with
  | nil => exact ⟨m, rfl, .single rfl⟩
  | cons candidate rest ih =>
    rw [Allocator.search_cons, Allocator.tryPort]
    cases hs : m.allocator.screen candidate h with
    | mk passed h₁ =>
      have hnow := (m.allocator.passed_screen candidate h).now m.allocator.clock
      rw [hs] at hnow
      dsimp only at hnow ⊢
      cases passed with
      | none =>
        have hskip : Actor.advance ⟨.allocator m, .searching (candidate :: rest)⟩ h =
            (⟨.allocator m, .searching rest⟩, h₁, []) := by
          simp only [Actor.advance, hs]
        obtain ⟨m', hm', hp⟩ := ih m h₁
        rw [hnow] at hp
        exact ⟨m', hm', .silent hskip hp⟩
      | some port =>
        have hpass : Actor.advance ⟨.allocator m, .searching (candidate :: rest)⟩ h =
            (⟨.allocator m, .reserving port .waiting rest⟩, h₁, []) := by
          simp only [Actor.advance, hs]
        have hreserve := phases_reserve ⟨.allocator m, .idle⟩ port rest h₁
        have hclock := (m.ledger.visit_reserve port h₁).passed.now m.allocator.clock
        dsimp only [Participant.ledger] at hreserve ⊢
        rw [m.confirm_eq]
        cases hr : m.ledger.reserve port h₁ with
        | mk granted h₂ =>
          rw [hr] at hreserve hclock
          cases granted with
          | true =>
            have htime : h₁.now m.ledger.clock = h.now m.allocator.clock := hnow
            rw [htime] at hreserve
            exact ⟨m.handOut port h₂, rfl, .silent hpass hreserve⟩
          | false =>
            obtain ⟨m', hm', hp⟩ := ih m h₂
            rw [hclock, hnow] at hp
            exact ⟨m', hm', .silent hpass (hreserve.append hp)⟩

/-- A look-up in phases is a look-up. -/
theorem phases_inquire (m : Settled) (q : Allocator.Inquiry) (h : Host) :
    ∃ m' : Settled, m'.allocator = (m.allocator.inquire q h).2.1 ∧
      Phases (Actor.start ⟨.allocator m, .idle⟩ (.look q) h) h
        (HandOut.ofAnswer (h.now m.allocator.clock) (m.allocator.inquire q h).1)
        ⟨.allocator m', .idle⟩ (m.allocator.inquire q h).2.2 := by
  rw [Allocator.inquire_eq, Allocator.nextFrom, Allocator.purge]
  dsimp only [Actor.start]
  cases hp : m.allocator.debounce.purge (h.now m.allocator.clock) with
  | error o => exact ⟨m, rfl, .refl _ h⟩
  | ok debounce =>
    obtain ⟨m', hm', hphases⟩ := phases_search q.candidates (m.withDebounce debounce) h
    have hfound := (m.withDebounce debounce).allocator.findPort_toOption q.candidates h
    rw [← hfound] at hm' hphases
    exact ⟨m', hm', hphases⟩

end PortReservation
