import PortReservation.Proofs.LedgerRun
import PortReservation.Proofs.Race.Basic

/-!
# The books of a race

What is known of the file while participants race for ports in it, and of what a participant does
under the lock.

* `Terms.Books`: every hand-out has its entry in the file, unless it is past the time to live.
* `Terms.ActorInv`: what a participant does under the lock fits the entries of the file.
* `Books.clear`, `Books.store`, `Books.release`: booking a port, storing the booking and handing the
  port out keep the books.
-/

namespace PortReservation

namespace Terms

/-- A ledger takes part in a race. -/
structure Joined (t : Terms) (h : Host) (l : Ledger) : Prop where
  clock : l.clock = t.clock
  ttl : t.ttl ≤ l.ttl
  slot : h.files.slot? l.path = some t.place

/-- Every hand-out has its entry in the file, unless it is past the time to live; no two hand-outs
of a port are closer than that. -/
structure Books (t : Terms) (h : Host) (log : List HandOut) : Prop where
  plain : (h.entriesAt t.place).Plain
  past : ∀ e ∈ log, e.time.toInt ≤ (h.now t.clock).toInt
  entry : ∀ e ∈ log, t.ttl.toInt < (h.now t.clock).toInt - e.time.toInt ∨
    (h.entriesAt t.place).get? (Entries.portKey e.port) = some e.time.render
  spaced : log.Pairwise fun d e => d.port = e.port → t.ttl.toInt < e.time.toInt - d.time.toInt

/-- A booking comes after all hand-outs, and is granted only if those of its port are past the time
to live. -/
structure Clear (t : Terms) (log : List HandOut) (port : Port) (time : Millis) (granted : Bool) :
    Prop where
  past : ∀ e ∈ log, e.time.toInt ≤ time.toInt
  spaced : granted = true → ∀ e ∈ log, e.port = port → t.ttl.toInt < time.toInt - e.time.toInt

/-- What is known of a reservation at a stage. -/
def StageInv (t : Terms) (h : Host) (log : List HandOut) (l : Ledger) (port : Port) : Stage → Prop
  | .booked _ time booking =>
    booking = (h.entriesAt t.place).book port time l.ttl ∧
      time.toInt ≤ (h.now t.clock).toInt ∧ t.Clear log port time booking.granted
  | .stored _ time granted =>
    (granted = true → (h.entriesAt t.place).get? (Entries.portKey port) = some time.render) ∧
      time.toInt ≤ (h.now t.clock).toInt ∧ t.Clear log port time granted
  | _ => True

/-- What is known of a participant. -/
structure ActorInv (t : Terms) (h : Host) (log : List HandOut) (x : Actor) : Prop where
  joined : t.Joined h x.participant.ledger
  holds : ∀ handle, x.activity.handle? = some handle → h.Holds t.place handle
  stage : ∀ port stage candidates, x.activity = .reserving port stage candidates →
    t.StageInv h log x.participant.ledger port stage

variable {t : Terms} {h h' : Host} {log : List HandOut} {l : Ledger} {x : Actor}

theorem Spares.entriesAt (hk : t.Spares h h') : h'.entriesAt t.place = h.entriesAt t.place := by
  rw [Host.entriesAt, Host.textAt, hk.octets, Host.entriesAt, Host.textAt]

theorem Joined.keeps (hj : t.Joined h l)
    (hslot : ∀ path, h.files.slot? path = some t.place → h'.files.slot? path = some t.place) :
    t.Joined h' l :=
  ⟨hj.clock, hj.ttl, hslot l.path hj.slot⟩

theorem Books.spares (hb : t.Books h log) (hk : t.Spares h h') : t.Books h' log := by
  have hnow := Int64.le_iff_toInt_le.mp hk.now
  refine ⟨?_, fun e he => Int.le_trans (hb.past e he) hnow, fun e he => ?_, hb.spaced⟩
  · rw [hk.entriesAt]
    exact hb.plain
  · rw [hk.entriesAt]
    refine (hb.entry e he).imp_left fun hage => ?_
    omega

theorem StageInv.spares {port : Port} {stage : Stage} (hs : t.StageInv h log l port stage)
    (hk : t.Spares h h') : t.StageInv h' log l port stage := by
  have hnow := Int64.le_iff_toInt_le.mp hk.now
  cases stage with
  | waiting => trivial
  | locked handle => trivial
  | booked handle time booking =>
    obtain ⟨hbooking, htime, hclear⟩ := hs
    exact ⟨by rw [hk.entriesAt]; exact hbooking, Int.le_trans htime hnow, hclear⟩
  | stored handle time granted =>
    obtain ⟨hentry, htime, hclear⟩ := hs
    exact ⟨by rw [hk.entriesAt]; exact hentry, Int.le_trans htime hnow, hclear⟩

/-- What is known of a participant stays so while the file is left alone and it keeps its lock. -/
theorem ActorInv.spares (hx : t.ActorInv h log x) (hk : t.Spares h h')
    (hlock : ∀ handle, x.activity.handle? = some handle →
      (handle.opened.descriptor, handle.opened.file) ∈ h'.locks.exclusive) :
    t.ActorInv h' log x where
  joined := hx.joined.keeps hk.slot
  holds handle hhandle := ⟨hk.file _ (hx.holds handle hhandle).node, hlock handle hhandle⟩
  stage port stage candidates hstage := (hx.stage port stage candidates hstage).spares hk

/-- Of a participant without a handle nothing is known but that it takes part. -/
theorem actorInv_of_no_handle (hj : t.Joined h x.participant.ledger)
    (hnone : x.activity.handle? = none) : t.ActorInv h log x where
  joined := hj
  holds handle hhandle := by
    rw [hnone] at hhandle
    cases hhandle
  stage port stage candidates hstage := by
    rw [hstage] at hnone
    cases stage with
    | waiting => trivial
    | locked handle => trivial
    | booked handle time booking => cases hnone
    | stored handle time granted => cases hnone

/-! ## Booking under the lock -/

/-- A booking at the time of the clock comes after all hand-outs, and is granted only if those of
its port are past the time to live: otherwise their entry is live, as the ledger lets it live at
least as long. -/
theorem Books.clear (hb : t.Books h log) (httl : t.ttl ≤ l.ttl) (port : Port) :
    t.Clear log port (h.now t.clock)
      ((h.entriesAt t.place).book port (h.now t.clock) l.ttl).granted where
  past := hb.past
  spaced hgranted e he hport := by
    rcases hb.entry e he with hage | hentry
    · exact hage
    · have hpast := hb.past e he
      have hle := Int64.le_iff_toInt_le.mp httl
      -- The entry of the hand-out would be live, and the booking refused.
      have hdead : ¬Entries.isLive (h.now t.clock) l.ttl e.time.render = true := by
        intro hlive
        refine (Entries.granted_iff_not_blocked _ _ _ _).mp hgranted ⟨_, ?_, hlive⟩
        rw [← hport]
        exact OrderedMap.get?_eq_some_iff.mp hentry
      rw [Entries.isLive_render hpast] at hdead
      omega

/-- Storing a booking drops no entry that is not past the time to live, and replaces none. -/
theorem Books.store (hb : t.Books h log) (httl : t.ttl ≤ l.ttl) {port : Port} {time : Millis}
    {handle : LockHandle} (hnode : h.files.nodeAt t.place = some (.file handle.opened.file))
    (htime : time.toInt ≤ (h.now t.clock).toInt)
    (hclear : t.Clear log port time ((h.entriesAt t.place).book port time l.ttl).granted) :
    t.Books (Ledger.store ((h.entriesAt t.place).book port time l.ttl) handle h) log := by
  have hentries := Ledger.entriesAt_store hnode hb.plain port time l.ttl
  refine ⟨?_, fun e he => ?_, fun e he => ?_, hb.spaced⟩
  · rw [hentries]
    exact hb.plain.afterBooking port time l.ttl
  · rw [Ledger.now_store]
    exact hb.past e he
  · have hle := Int64.le_iff_toInt_le.mp httl
    rw [hentries, Ledger.now_store, Entries.get?_afterBooking]
    rcases hb.entry e he with hage | hentry
    · exact .inl hage
    · -- The entry is replaced, kept or dropped; only one past the time to live is not kept.
      by_cases hsame : ((h.entriesAt t.place).book port time l.ttl).granted = true ∧
          Entries.portKey e.port = Entries.portKey port
      · have hage := hclear.spaced hsame.1 e he (Entries.portKey_injective hsame.2)
        exact .inl (by omega)
      · rw [if_neg hsame, hentry, Option.filter_some]
        by_cases hlive : Entries.isLive time l.ttl e.time.render = true
        · exact .inr (if_pos hlive)
        · rw [Entries.isLive_render (hclear.past e he)] at hlive
          exact .inl (by omega)

/-- A reservation that was granted is a hand-out, as its entry is in the file. -/
theorem Books.release (hb : t.Books h log) {port : Port} {time : Millis} {granted : Bool}
    (hentry : granted = true →
      (h.entriesAt t.place).get? (Entries.portKey port) = some time.render)
    (htime : time.toInt ≤ (h.now t.clock).toInt) (hclear : t.Clear log port time granted) :
    t.Books h (log ++ HandOut.ofGrant port time granted) := by
  cases granted with
  | false => simpa [HandOut.ofGrant] using hb
  | true =>
    have hmem : ∀ e ∈ log ++ HandOut.ofGrant port time true, e ∈ log ∨ e = ⟨port, time⟩ := by
      simp [HandOut.ofGrant]
    refine ⟨hb.plain, fun e he => ?_, fun e he => ?_, ?_⟩
    · rcases hmem e he with he | rfl
      · exact hb.past e he
      · exact htime
    · rcases hmem e he with he | rfl
      · exact hb.entry e he
      · exact .inr (hentry rfl)
    · refine List.pairwise_append.mpr ⟨hb.spaced, List.pairwise_singleton _ _, ?_⟩
      intro d hd e he hport
      cases List.mem_singleton.mp he
      exact hclear.spaced rfl d hd hport

end Terms

end PortReservation
