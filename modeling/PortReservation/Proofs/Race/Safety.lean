import Mathlib.Logic.Relation
import PortReservation.Proofs.Race.Books

/-!
# Hand-outs in a race

At most one participant of a race has a handle on the file. So whatever it read is still there when
it writes, and nobody hands out a port whose entry lives.

* `Race.Inv`: the books are right, every participant fits them, and at most one has a handle.
* `Race.Step.inv`: every step keeps the invariant.
* `Race.Starts.log_spaced`: two hand-outs of one port are more than the time to live apart.
-/

namespace PortReservation

namespace Race

open Terms

/-- The invariant of a race. -/
structure Inv {ι : Type} (t : Terms) (s : Race ι) : Prop where
  books : t.Books s.host s.log
  actors : ∀ i, t.ActorInv s.host s.log (s.actor i)
  alone : ∀ i j, (s.actor i).activity.handle? ≠ none → (s.actor j).activity.handle? ≠ none → i = j

/-- While a participant has a handle, no other one has. -/
theorem Inv.others {ι : Type} {t : Terms} {s : Race ι} {i : ι} {handle : LockHandle} (hs : s.Inv t)
    (hi : (s.actor i).activity.handle? = some handle) :
    ∀ j, j ≠ i → (s.actor j).activity.handle? = none := by
  intro j hj
  by_contra hhas
  exact hj (hs.alone j i hhas (hi ▸ Option.some_ne_none handle))

/-- Nobody of the race does anything, and nobody loses the lock that it has. -/
theorem Inv.spares {ι : Type} {t : Terms} {s : Race ι} {h : Host} (hs : s.Inv t)
    (hk : t.Spares s.host h)
    (hlocks : ∀ i handle, (s.actor i).activity.handle? = some handle →
      (handle.opened.descriptor, handle.opened.file) ∈ h.locks.exclusive) :
    { s with host := h }.Inv t :=
  ⟨hs.books.spares hk, fun i => (hs.actors i).spares hk (hlocks i), hs.alone⟩

variable {ι : Type} [DecidableEq ι] {t : Terms} {s : Race ι} {i : ι} {x : Actor} {h : Host}
  {out : List HandOut}

/-- A participant does something that leaves the file and the locks of all alone. -/
theorem Inv.quiet (hs : s.Inv t) (hk : t.Spares s.host h)
    (hlocks : ∀ e ∈ s.host.locks.exclusive, e ∈ h.locks.exclusive)
    (hx : t.ActorInv h s.log x)
    (hhandle : x.activity.handle? ≠ none → (s.actor i).activity.handle? ≠ none) :
    (s.put i x h []).Inv t := by
  have hback : ∀ j, ((s.put i x h []).actor j).activity.handle? ≠ none →
      (s.actor j).activity.handle? ≠ none := by
    intro j hj
    by_cases hji : j = i
    · subst hji
      rw [put_actor_self] at hj
      exact hhandle hj
    · rwa [put_actor_of_ne hji] at hj
  have hlog : (s.put i x h []).log = s.log := List.append_nil s.log
  refine ⟨hlog ▸ hs.books.spares hk, fun j => ?_, fun j k hj hj' => ?_⟩
  case refine_2 => exact hs.alone j k (hback j hj) (hback k hj')
  rw [hlog]
  by_cases hji : j = i
  · subst hji
    rwa [put_actor_self]
  · rw [put_actor_of_ne hji]
    exact (hs.actors j).spares hk fun handle hhas =>
      hlocks _ ((hs.actors j).holds handle hhas).locked

/-- A participant does something while no other one has a handle. The others know nothing of the
file then that could become wrong. -/
theorem Inv.undisturbed (hs : s.Inv t)
    (hnone : ∀ j, j ≠ i → (s.actor j).activity.handle? = none)
    (hslot : ∀ path, s.host.files.slot? path = some t.place → h.files.slot? path = some t.place)
    (hbooks : t.Books h (s.log ++ out)) (hx : t.ActorInv h (s.log ++ out) x) :
    (s.put i x h out).Inv t := by
  have hi : ∀ j, ((s.put i x h out).actor j).activity.handle? ≠ none → j = i := by
    intro j hj
    by_contra hji
    rw [put_actor_of_ne hji] at hj
    exact hj (hnone j hji)
  refine ⟨hbooks, fun j => ?_, fun j k hj hk => (hi j hj).trans (hi k hk).symm⟩
  by_cases hji : j = i
  · subst hji
    rw [put_actor_self]
    exact hx
  · rw [put_actor_of_ne hji]
    exact actorInv_of_no_handle ((hs.actors j).joined.keeps hslot) (hnone j hji)

/-- A participant has a handle now, so no other one had. -/
theorem Inv.acquire (hs : s.Inv t) {policy : LockPolicy} {handle : LockHandle}
    (ha : s.host.acquire policy x.participant.ledger.path = (.ok handle, h))
    (hp : x.participant = (s.actor i).participant) (hhandle : x.activity.handle? = some handle)
    (hstage : ∀ port stage candidates, x.activity = .reserving port stage candidates →
      stage = .locked handle) :
    (s.put i x h []).Inv t := by
  have hj : t.Joined s.host x.participant.ledger := hp ▸ (hs.actors i).joined
  obtain ⟨place, hacq⟩ := Host.acquire_ok ha
  have hplace : place = t.place := Option.some.inj (hacq.lockable.1.symm.trans hj.slot)
  subst hplace
  have hspares := hacq.spares t
  have hx : t.ActorInv h (s.log ++ []) x := by
    refine ⟨hj.keeps hspares.slot, ?_, ?_⟩
    · intro other hother
      rw [hhandle] at hother
      cases hother
      exact hacq.holds
    · intro port stage candidates hactivity
      rw [hstage port stage candidates hactivity]
      trivial
  -- A handle of anyone would have kept this one from being had.
  have hnone : ∀ j, j ≠ i → (s.actor j).activity.handle? = none := by
    intro j _
    by_contra hhas
    obtain ⟨other, hother⟩ := Option.ne_none_iff_exists'.mp hhas
    exact hacq.not_holds ((hs.actors j).holds other hother)
  have hbooks : t.Books h (s.log ++ []) := by
    rw [List.append_nil]
    exact hs.books.spares hspares
  exact hs.undisturbed hnone hspares.slot hbooks hx

/-! ## Every step keeps the invariant -/

/-- A participant that has no handle afterwards leaves the file and the locks of all alone. -/
theorem Inv.without_handle (hs : s.Inv t) (hk : t.Spares s.host h)
    (hlocks : ∀ e ∈ s.host.locks.exclusive, e ∈ h.locks.exclusive)
    (hledger : x.participant.ledger = (s.actor i).participant.ledger)
    (hnone : x.activity.handle? = none) : (s.put i x h []).Inv t := by
  have hj := (hs.actors i).joined.keeps hk.slot
  rw [← hledger] at hj
  exact hs.quiet hk hlocks (actorInv_of_no_handle hj hnone) fun hhas => absurd hnone hhas

/-- A participant that could not have a handle. -/
theorem Inv.refused (hs : s.Inv t) {policy : LockPolicy} {path : Text} {e : Error}
    (ha : s.host.acquire policy path = (.error e, h))
    (hledger : x.participant.ledger = (s.actor i).participant.ledger)
    (hnone : x.activity.handle? = none) : (s.put i x h []).Inv t := by
  have hu := Host.undisturbed_of_acquire_error ha
  refine hs.without_handle (hu.spares t) (fun e he => ?_) hledger hnone
  rwa [hu.exclusive]

/-- A participant that gives its handle back. What it hands out has its entry in the file. -/
theorem Inv.release (hs : s.Inv t) {handle : LockHandle}
    (hhandle : (s.actor i).activity.handle? = some handle)
    (hbooks : t.Books s.host (s.log ++ out))
    (hledger : x.participant.ledger = (s.actor i).participant.ledger)
    (hnone : x.activity.handle? = none) : (s.put i x (s.host.release handle) out).Inv t := by
  have hspares : t.Spares s.host (s.host.release handle) :=
    ⟨fun _ hp => hp, rfl, fun _ hp => hp, by rw [Host.now_release]; exact Int64.le_refl _⟩
  have hj := (hs.actors i).joined.keeps hspares.slot
  rw [← hledger] at hj
  exact hs.undisturbed (hs.others hhandle) hspares.slot (hbooks.spares hspares)
    (actorInv_of_no_handle hj hnone)

/-- A participant books a port under its lock. -/
theorem Inv.book (hs : s.Inv t) {port : Port} {handle : LockHandle} {candidates : List Port}
    (hact : (s.actor i).activity = .reserving port (.locked handle) candidates) :
    (s.put i
      { s.actor i with
        activity := .reserving port
          (.booked handle (s.host.now (s.actor i).participant.ledger.clock)
            ((s.actor i).participant.ledger.book port handle s.host)) candidates }
      s.host []).Inv t := by
  obtain ⟨hjoined, hholds, -⟩ := hs.actors i
  have hhandle : (s.actor i).activity.handle? = some handle := by rw [hact]; rfl
  have hhold := hholds handle hhandle
  have hbook := (s.actor i).participant.ledger.book_eq port hhold.node
  rw [hbook, hjoined.clock]
  refine hs.quiet ((Host.SameFiles.refl s.host).spares t) (fun e he => he) ?_ fun _ => ?_
  · refine ⟨hjoined, fun other hother => ?_, fun port' stage candidates' hstage => ?_⟩
    · cases hother
      exact hhold
    · cases hstage
      exact ⟨rfl, Int.le_refl _, hs.books.clear hjoined.ttl port⟩
  · rw [hhandle]
    exact Option.some_ne_none handle

/-- A participant stores its booking under its lock. -/
theorem Inv.store (hs : s.Inv t) {port : Port} {handle : LockHandle} {time : Millis}
    {booking : Entries.Booking} {candidates : List Port}
    (hact : (s.actor i).activity = .reserving port (.booked handle time booking) candidates) :
    (s.put i
      { s.actor i with
        activity := .reserving port (.stored handle time booking.granted) candidates }
      (Ledger.store booking handle s.host) []).Inv t := by
  obtain ⟨hjoined, hholds, hstages⟩ := hs.actors i
  obtain ⟨hbooking, htime, hclear⟩ := hstages port _ candidates hact
  have hhandle : (s.actor i).activity.handle? = some handle := by rw [hact]; rfl
  have hhold := hholds handle hhandle
  have hslot : ∀ path, s.host.files.slot? path = some t.place →
      (Ledger.store booking handle s.host).files.slot? path = some t.place := by
    intro path hpath
    refine FileTree.slot?_of_directories (fun p hp => ?_) hpath
    rw [Ledger.nodeAt_store]
    exact hp
  have hentries := Ledger.entriesAt_store hhold.node hs.books.plain port time
    (s.actor i).participant.ledger.ttl
  rw [← hbooking] at hentries
  -- The entries change, but nobody else has the lock under which they would have been read.
  refine hs.undisturbed (hs.others hhandle) hslot ?_ ⟨hjoined.keeps hslot, fun other hother => ?_,
    fun port' stage candidates' hstage => ?_⟩
  · rw [List.append_nil, hbooking]
    exact hs.books.store hjoined.ttl hhold.node htime (hbooking ▸ hclear)
  · cases hother
    refine ⟨?_, ?_⟩
    · rw [Ledger.nodeAt_store]
      exact hhold.node
    · rw [Ledger.locks_store]
      exact hhold.locked
  · cases hstage
    refine ⟨fun hgranted => ?_, ?_, ?_⟩
    · rw [hentries, Entries.get?_afterBooking, ← hbooking, if_pos ⟨hgranted, rfl⟩]
    · rw [Ledger.now_store]
      exact htime
    · rw [List.append_nil]
      exact hclear

/-- A phase of a reservation keeps the invariant. -/
theorem Inv.reserving (hs : s.Inv t) {port : Port} {stage : Stage} {candidates : List Port}
    (hact : (s.actor i).activity = .reserving port stage candidates) : (s.advance i).Inv t := by
  have hx := hs.actors i
  cases stage with
  | waiting =>
    cases ha : s.host.acquire (s.actor i).participant.ledger.policy
        (s.actor i).participant.ledger.path with
    | mk answer h =>
      cases answer with
      | error e =>
        have hadv : s.advance i = s.put i ((s.actor i).conclude port candidates false h) h [] := by
          simp only [Race.advance, Actor.advance, hact, Ledger.proceed, ha, HandOut.ofGrant]
        rw [hadv]
        exact hs.refused ha ((s.actor i).conclude_ledger ..) ((s.actor i).conclude_handle? ..)
      | ok handle =>
        have hadv : s.advance i = s.put i
            { s.actor i with activity := .reserving port (.locked handle) candidates } h [] := by
          simp only [Race.advance, Actor.advance, hact, Ledger.proceed, ha]
        rw [hadv]
        refine hs.acquire ha rfl rfl fun port' stage' candidates' hstage => ?_
        cases hstage
        rfl
  | locked handle =>
    simp only [Race.advance, Actor.advance, hact, Ledger.proceed]
    exact hs.book hact
  | booked handle time booking =>
    simp only [Race.advance, Actor.advance, hact, Ledger.proceed]
    exact hs.store hact
  | stored handle time granted =>
    obtain ⟨hentry, htime, hclear⟩ := hx.stage port _ candidates hact
    simp only [Race.advance, Actor.advance, hact, Ledger.proceed]
    refine hs.release ?_ (hs.books.release hentry htime hclear) ((s.actor i).conclude_ledger ..)
      ((s.actor i).conclude_handle? ..)
    rw [hact]
    rfl

/-- A phase that lists the entries keeps the invariant. -/
theorem Inv.listing (hs : s.Inv t) {handle : Option LockHandle}
    (hact : (s.actor i).activity = .listing handle) : (s.advance i).Inv t := by
  cases handle with
  | none =>
    cases ha : s.host.acquire (s.actor i).participant.ledger.policy
        (s.actor i).participant.ledger.path with
    | mk answer h =>
      cases answer with
      | error e =>
        have hadv : s.advance i = s.put i { s.actor i with activity := .idle } h [] := by
          simp only [Race.advance, Actor.advance, hact, ha]
        rw [hadv]
        exact hs.refused ha rfl rfl
      | ok handle =>
        have hadv : s.advance i =
            s.put i { s.actor i with activity := .listing (some handle) } h [] := by
          simp only [Race.advance, Actor.advance, hact, ha]
        rw [hadv]
        refine hs.acquire ha rfl rfl fun port stage candidates hstage => ?_
        cases hstage
  | some handle =>
    simp only [Race.advance, Actor.advance, hact]
    refine hs.release ?_ ?_ rfl rfl
    · rw [hact]
      rfl
    · rw [List.append_nil]
      exact hs.books

/-- A participant that stays where it is. -/
theorem Inv.stay (hs : s.Inv t) (hledger : x.participant.ledger = (s.actor i).participant.ledger)
    (hnone : x.activity.handle? = none) : (s.put i x s.host []).Inv t :=
  hs.without_handle ((Host.SameFiles.refl s.host).spares t) (fun _ he => he) hledger hnone

/-- A phase that screens a candidate keeps the invariant. -/
theorem Inv.searching (hs : s.Inv t) {candidates : List Port}
    (hact : (s.actor i).activity = .searching candidates) : (s.advance i).Inv t := by
  cases candidates with
  | nil =>
    simp only [Race.advance, Actor.advance, hact]
    exact hs.stay rfl rfl
  | cons candidate rest =>
    cases hp : (s.actor i).participant with
    | reserver l =>
      simp only [Race.advance, Actor.advance, hact, hp]
      refine hs.stay rfl ?_
      rw [hact]
      rfl
    | allocator m =>
      obtain ⟨network, hnetwork⟩ := m.allocator.screen_host candidate s.host
      have hspares : t.Spares s.host { s.host with network } :=
        ⟨fun _ hp => hp, rfl, fun _ hp => hp, by rw [Host.now_network]; exact Int64.le_refl _⟩
      cases hscreen : m.allocator.screen candidate s.host with
      | mk passed h =>
        rw [hscreen] at hnetwork
        dsimp only at hnetwork
        subst hnetwork
        cases passed with
        | none =>
          simp only [Race.advance, Actor.advance, hact, hp, hscreen]
          exact hs.without_handle hspares (fun _ he => he) (by rw [hp]) rfl
        | some port =>
          simp only [Race.advance, Actor.advance, hact, hp, hscreen]
          exact hs.without_handle hspares (fun _ he => he) (by rw [hp]) rfl

/-- Every step keeps the invariant. -/
theorem Step.inv {s' : Race ι} (step : Step t s s') (hs : s.Inv t) : s'.Inv t := by
  cases step with
  | elsewhere hspares hlocks => exact hs.spares hspares hlocks
  | start i call hidle =>
    exact hs.stay ((s.actor i).start_ledger call s.host) (Actor.start_handle? hidle call s.host)
  | advance i =>
    cases hact : (s.actor i).activity with
    | idle =>
      simp only [Race.advance, Actor.advance, hact]
      refine hs.stay rfl ?_
      rw [hact]
      rfl
    | listing handle => exact hs.listing hact
    | searching candidates => exact hs.searching hact
    | reserving port stage candidates => exact hs.reserving hact

/-- The start of a race: nobody is in a call and nothing was handed out. Every participant has its
ledger at the place, on the clock, and lets reservations live long enough. -/
structure Starts (t : Terms) (s : Race ι) : Prop where
  idle : ∀ i, (s.actor i).activity = .idle
  joined : ∀ i, t.Joined s.host (s.actor i).participant.ledger
  plain : (s.host.entriesAt t.place).Plain
  log : s.log = []

omit [DecidableEq ι] in
theorem Starts.inv (hs : s.Starts t) : s.Inv t := by
  have hnone : ∀ i, (s.actor i).activity.handle? = none := by
    intro i
    rw [hs.idle i]
    rfl
  refine ⟨⟨hs.plain, ?_, ?_, ?_⟩, fun i => actorInv_of_no_handle (hs.joined i) (hnone i),
    fun i j hi => absurd (hnone i) hi⟩
  all_goals simp [hs.log]

/-- However the calls of any participants interleave: two hand-outs of one port are more than the
time to live apart. -/
theorem Starts.log_spaced {s' : Race ι} (hs : s.Starts t)
    (run : Relation.ReflTransGen (Step t) s s') :
    s'.log.Pairwise fun d e => d.port = e.port → t.ttl.toInt < e.time.toInt - d.time.toInt := by
  have hinv : s'.Inv t := by
    induction run with
    | refl => exact hs.inv
    | tail _ step ih => exact step.inv ih
  exact hinv.books.spaced

/-- Participants that go on one after the other make a run. -/
theorem run_advance (t : Terms) (is : List ι) (s : Race ι) :
    Relation.ReflTransGen (Step t) s (is.foldl advance s) := by
  induction is generalizing s with
  | nil => exact .refl
  | cons i is ih => exact .head (.advance i) (ih (s.advance i))

/-- A ledger and an allocator that share a file. -/
def duel : Race Bool where
  host := Host.bare 7
  actor
    | false => ⟨.reserver { path := ['p'], ttl := 5 }, .idle⟩
    | true =>
      ⟨.allocator ⟨{ Allocator.new { ttl := 5 } .system with
        locator := { variableName := [], property := none, location := .enabled ['p'] } },
        ['p'], rfl⟩, .idle⟩

/-- What they race for: ports in the file, that live 5 ms by the clock of the system. -/
def duelTerms : Terms := ⟨[['p']], .system, 5⟩

/-- The ledger locks the file before the allocator, which then finds no port. -/
def duelFirst : Race Bool :=
  [true, true, true, false, false, false].foldl advance
    (((duel.start false (.reserve 4000)).advance false).start true (.look (.among [4000])))

/-- The allocator finds the port when the reservation is past its time to live. -/
def duelSecond : Race Bool :=
  [true, true, true, true, true].foldl advance
    ({ duelFirst with host := { duelFirst.host with systemTime := 20 } }.start true
      (.look (.among [4000])))

set_option maxRecDepth 100000 in
/-- The port is handed out twice, and the hand-outs are far enough apart. -/
theorem Starts.log_spaced_duelSecond :
    duelSecond.log.map (fun e => (e.port, e.time)) = [(4000, 7), (4000, 20)] ∧
      duelSecond.log.Pairwise fun d e =>
        d.port = e.port → (5 : Int64).toInt < e.time.toInt - d.time.toInt := by
  have hlog : duelSecond.log.map (fun e => (e.port, e.time)) = [(4000, 7), (4000, 20)] := by cbv
  refine ⟨hlog, ?_⟩
  have hstart : duel.Starts duelTerms := by
    refine ⟨?_, ?_, ?_, rfl⟩
    · intro i
      cases i <;> rfl
    · intro i
      cases i <;> exact ⟨rfl, Int64.le_refl 5, by cbv⟩
    · have hempty : (duel.host.entriesAt duelTerms.place).toList = [] := by cbv
      simp [Entries.Plain, hempty]
  have hreserve : Step duelTerms duel (duel.start false (.reserve 4000)) := .start false _ rfl
  have hlock : Step duelTerms (duel.start false (.reserve 4000))
      ((duel.start false (.reserve 4000)).advance false) := .advance false
  have hlook : Step duelTerms ((duel.start false (.reserve 4000)).advance false)
      (((duel.start false (.reserve 4000)).advance false).start true (.look (.among [4000]))) :=
    .start true _ (by cbv)
  have hfirst : Relation.ReflTransGen (Step duelTerms) duel duelFirst :=
    (((Relation.ReflTransGen.single hreserve).tail hlock).tail hlook).trans (run_advance _ _ _)
  have hidle : ∀ i, (duelFirst.actor i).activity = .idle := by
    intro i
    cases i <;> cbv
  have hwait : Step duelTerms duelFirst
      { duelFirst with host := { duelFirst.host with systemTime := 20 } } := by
    refine .elsewhere ⟨fun _ hp => hp, rfl, fun _ hp => hp, ?_⟩ fun i handle hhandle => ?_
    · have htime : duelFirst.host.now .system = 7 := by cbv
      show duelFirst.host.now .system ≤ 20
      rw [htime]
      decide
    · rw [hidle i] at hhandle
      cases hhandle
  have hagain : Step duelTerms { duelFirst with host := { duelFirst.host with systemTime := 20 } }
      ({ duelFirst with host := { duelFirst.host with systemTime := 20 } }.start true
        (.look (.among [4000]))) := .start true _ (hidle true)
  have hsecond : Relation.ReflTransGen (Step duelTerms) duel duelSecond :=
    ((hfirst.tail hwait).tail hagain).trans (run_advance _ _ _)
  have hend := hstart.log_spaced hsecond
  exact hend

end Race

end PortReservation
