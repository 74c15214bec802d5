import PortReservation.Proofs.Lookup

/-!
# Sessions

This process has lock handles on a host. It acquires them, writes through them and releases them,
and between that it calls ledgers, allocators and locators. Meanwhile other processes take record
locks and give them back, and anything else changes on the host but the locks.

* `LockEvent`, `Event`: what happens in a session.
* `Sound`: every handle has the exclusive lock of its file, and no two have the same file.
* `Sound.step`, `Reached.sound`: each event keeps that, so it holds in every session.
* `mem_handles_step`: a handle that is not released stays.
-/

namespace PortReservation

/-- A host, and the lock handles of this process that were not released. -/
structure Session where
  host : Host
  handles : List LockHandle := []

/-- What happens to locks. -/
inductive LockEvent where
  /-- This process asks for a handle. -/
  | acquire (policy : LockPolicy) (path : Text)
  /-- This process releases a handle. -/
  | release (handle : LockHandle)
  | tryReserve (l : Ledger) (port : Port)
  | reserve (l : Ledger) (port : Port)
  | entries (l : Ledger)
  /-- Another process opens a file and tries for its record lock. -/
  | hold (process : Nat) (path : Text)
  /-- Another process gives a record lock back. -/
  | giveBack (process : Nat) (file : FileId)
  /-- Another process ends. -/
  | exit (process : Nat)
  /-- Anything else changes on the host, but no lock. -/
  | elsewhere (h : Host)

/-- What happens in a session. -/
inductive Event where
  | locking (e : LockEvent)
  /-- A handle replaces the text of its file. -/
  | rewrite (handle : LockHandle) (text : Text)
  | look (a : Allocator) (q : Allocator.Inquiry)
  | resolve (l : Locator)

namespace Session

/-- The session with a handle more, if there is one to be had. -/
def acquire (s : Session) (policy : LockPolicy) (path : Text) : Session :=
  match s.host.acquire policy path with
  | (.error _, h) => { s with host := h }
  | (.ok handle, h) => ⟨h, handle :: s.handles⟩

/-- The session without a handle. -/
def release (s : Session) (handle : LockHandle) : Session :=
  if handle ∈ s.handles then ⟨s.host.release handle, s.handles.filter (· ≠ handle)⟩ else s

/-- The session after a handle replaced the text of its file. -/
def rewrite (s : Session) (handle : LockHandle) (text : Text) : Session :=
  if handle ∈ s.handles then { s with host := s.host.writeLocked handle text } else s

/-- The session after something happened to locks. -/
def lockStep (s : Session) : LockEvent → Session
  | .acquire policy path => s.acquire policy path
  | .release handle => s.release handle
  | .tryReserve l port => { s with host := (l.tryReserve port s.host).2 }
  | .reserve l port => { s with host := (l.reserve port s.host).2 }
  | .entries l => { s with host := (l.entries s.host).2 }
  | .hold process path => { s with host := (s.host.holdFile process path).2 }
  | .giveBack process file =>
    { s with host := { s.host with locks := s.host.locks.dropRecord (.other process) file } }
  | .exit process => { s with host := s.host.endProcess process }
  | .elsewhere h => { s with host := { h with locks := s.host.locks } }

/-- The session after something happened. -/
def step (s : Session) : Event → Session
  | .locking e => s.lockStep e
  | .rewrite handle text => s.rewrite handle text
  | .look a q => { s with host := (a.inquire q s.host).2.2 }
  | .resolve l => { s with host := (l.resolve s.host).2.2 }

/-- The session after some events. -/
def run (s : Session) (es : List Event) : Session := es.foldl step s

theorem run_concat (s : Session) (es : List Event) (e : Event) :
    s.run (es ++ [e]) = (s.run es).step e := by
  simp [run]

/-- Whether a session can come about: it began on some host without handles. -/
def Reached (s : Session) : Prop := ∃ h es, s = (Session.mk h []).run es

end Session

namespace Host

/-- Another process that tries for a record lock opens the file as this process would. -/
theorem holdFile_cases (h : Host) (process : Nat) (path : Text) :
    (h.holdFile process path).2 = h ∨
      ∃ place id h', place ≠ [] ∧ Opened h place id h' ∧ (h.holdFile process path).2 =
        { h' with locks := (h.locks.tryRecord (.other process) id).2 } := by
  have hopen := h.openFile_cases path
  unfold openFile at hopen
  unfold holdFile
  split
  · exact .inl rfl
  · next id files heq =>
    rw [heq] at hopen
    rcases hopen with ⟨-, e, he⟩ | ⟨place, id', h', hslot, ho, hok⟩
    · cases he
    · cases hok
      exact .inr ⟨place, id, _, FileTree.ne_nil_of_slot? hslot, ho, rfl⟩

theorem exclusive_holdFile (h : Host) (process : Nat) (path : Text) :
    (h.holdFile process path).2.locks.exclusive = h.locks.exclusive := by
  rcases h.holdFile_cases process path with heq | ⟨place, id, h', -, -, heq⟩
  · rw [heq]
  · rw [heq]
    unfold Locks.tryRecord
    split <;> rfl

/-- A locked file is locked for everybody who asks for a handle. -/
theorem not_available_of_locked {h : Host} {e : Descriptor × FileId}
    (he : e ∈ h.locks.exclusive) :
    ¬h.locks.Available h.locks.newDescriptor e.2 := fun hav =>
  ((Locks.available_newDescriptor_iff _ _).mp hav).1 e he rfl

theorem exclusive_release (h : Host) (handle : LockHandle) :
    (h.release handle).locks.exclusive =
      h.locks.exclusive.filter (· ≠ (handle.opened.descriptor, handle.opened.file)) := by
  rw [locks_release, Locks.exclusive_giveBack]

/-- A handle that is acquired is on a file of which nobody had the exclusive lock. -/
theorem Acquired.file_ne {h h' : Host} {path : Text} {place : Place} {handle : LockHandle}
    (ha : Acquired h path place handle h') {e : Descriptor × FileId}
    (he : e ∈ h.locks.exclusive) : e.2 ≠ handle.opened.file :=
  fun hfile => not_available_of_locked he (hfile ▸ ha.available)

end Host

namespace Session

/-- Every handle has the exclusive lock of its file, and no two have the same file. -/
structure Sound (s : Session) : Prop where
  locked : ∀ g ∈ s.handles, (g.opened.descriptor, g.opened.file) ∈ s.host.locks.exclusive
  apart : (s.handles.map (·.opened.file)).Nodup

namespace Sound

variable {s : Session}

/-- There is one handle on a file at most. -/
theorem eq_of_file (hs : s.Sound) {g g' : LockHandle} (hg : g ∈ s.handles) (hg' : g' ∈ s.handles)
    (hfile : g.opened.file = g'.opened.file) : g = g' :=
  List.inj_on_of_nodup_map hs.apart hg hg' hfile

/-- What leaves the exclusive locks alone keeps a session sound. -/
theorem of_exclusive (hs : s.Sound) {h : Host}
    (hexclusive : h.locks.exclusive = s.host.locks.exclusive) : Sound { s with host := h } where
  locked g hg := hexclusive ▸ hs.locked g hg
  apart := hs.apart

/-- A new handle is on a file on which there is none. -/
theorem acquired (hs : s.Sound) {h : Host} {policy : LockPolicy} {path : Text}
    {handle : LockHandle} (ha : s.host.acquire policy path = (.ok handle, h)) :
    Sound ⟨h, handle :: s.handles⟩ := by
  obtain ⟨place, hacq⟩ := Host.acquire_ok ha
  have hlocked : ∀ e, e ∈ h.locks.exclusive ↔
      e = (handle.opened.descriptor, handle.opened.file) ∨ e ∈ s.host.locks.exclusive := by
    intro e
    rw [hacq.locks, hacq.descriptor]
    exact Locks.mem_exclusive_takeBoth
  constructor
  · intro g hg
    rcases List.mem_cons.mp hg with rfl | hg
    · exact (hlocked _).mpr (.inl rfl)
    · exact (hlocked _).mpr (.inr (hs.locked g hg))
  · refine List.nodup_cons.mpr ⟨fun hmem => ?_, hs.apart⟩
    -- A handle on the same file would have its lock, so the new one could not be had.
    obtain ⟨g, hg, hfile⟩ := List.mem_map.mp hmem
    exact hacq.file_ne (hs.locked g hg) hfile

theorem acquire (hs : s.Sound) (policy : LockPolicy) (path : Text) :
    (s.acquire policy path).Sound := by
  unfold Session.acquire
  split
  · next ha => exact hs.of_exclusive (Host.passed_of_acquire_error ha).exclusive
  · next ha => exact hs.acquired ha

/-- A handle that is released leaves the locks of the others. -/
theorem release (hs : s.Sound) (handle : LockHandle) : (s.release handle).Sound := by
  unfold Session.release
  split
  · next hhandle =>
    constructor
    · intro g hg
      obtain ⟨hg, hne⟩ := List.mem_filter.mp hg
      rw [Host.exclusive_release]
      refine List.mem_filter.mpr ⟨hs.locked g hg, decide_eq_true ?_⟩
      intro heq
      exact of_decide_eq_true hne (hs.eq_of_file hg hhandle (congrArg Prod.snd heq))
    · exact hs.apart.sublist (List.filter_sublist.map _)
  · exact hs

theorem rewrite (hs : s.Sound) (handle : LockHandle) (text : Text) :
    (s.rewrite handle text).Sound := by
  unfold Session.rewrite
  split
  · exact hs.of_exclusive rfl
  · exact hs

theorem lockStep (hs : s.Sound) (e : LockEvent) : (s.lockStep e).Sound := by
  cases e with
  | acquire policy path => exact hs.acquire policy path
  | release handle => exact hs.release handle
  | tryReserve l port => exact hs.of_exclusive (l.visit_tryReserve port s.host).passed.exclusive
  | reserve l port => exact hs.of_exclusive (l.visit_reserve port s.host).passed.exclusive
  | entries l => exact hs.of_exclusive (l.visit_entries s.host).passed.exclusive
  | hold process path => exact hs.of_exclusive (s.host.exclusive_holdFile process path)
  | giveBack process file => exact hs.of_exclusive rfl
  | exit process => exact hs.of_exclusive rfl
  | elsewhere h => exact hs.of_exclusive rfl

/-- Every event keeps a session sound. -/
theorem step (hs : s.Sound) (e : Event) : (s.step e).Sound := by
  cases e with
  | locking e => exact hs.lockStep e
  | rewrite handle text => exact hs.rewrite handle text
  | look a q => exact hs.of_exclusive (a.passed_inquire q s.host).exclusive
  | resolve l => exact hs.of_exclusive (l.passed_resolve s.host).exclusive

theorem run (hs : s.Sound) (es : List Event) : (s.run es).Sound := by
  induction es using List.reverseRecOn with
  | nil => exact hs
  | append_singleton es e ih =>
    rw [run_concat]
    exact ih.step e

end Sound

/-- Every session is sound. -/
theorem Reached.sound {s : Session} (hs : s.Reached) : s.Sound := by
  obtain ⟨h, es, rfl⟩ := hs
  have hstart : Sound ⟨h, []⟩ := ⟨by simp, List.nodup_nil⟩
  exact hstart.run es

/-- A handle that is not released stays. -/
theorem mem_handles_step {s : Session} {handle : LockHandle} (hhandle : handle ∈ s.handles)
    {e : Event} (hkept : e ≠ .locking (.release handle)) : handle ∈ (s.step e).handles := by
  cases e with
  | locking e =>
    cases e with
    | acquire policy path =>
      show handle ∈ (s.acquire policy path).handles
      unfold acquire
      split
      · exact hhandle
      · exact List.mem_cons_of_mem _ hhandle
    | release other =>
      have hne : handle ≠ other := by
        rintro rfl
        exact hkept rfl
      show handle ∈ (s.release other).handles
      unfold release
      split
      · exact List.mem_filter.mpr ⟨hhandle, decide_eq_true hne⟩
      · exact hhandle
    | _ => exact hhandle
  | rewrite other text =>
    show handle ∈ (s.rewrite other text).handles
    unfold rewrite
    split <;> exact hhandle
  | look a q => exact hhandle
  | resolve l => exact hhandle

end Session

end PortReservation
