import Mathlib
import PortReservation.Ledger
import PortReservation.Proofs.Booking
import PortReservation.Proofs.Locking
import PortReservation.Proofs.Utf8

/-!
# A reservation in a file

A call of a ledger opens its file and locks it, or it fails and disturbs nothing. Under the lock it
books a port in the entries that the file held, writes what that leaves, and gives the lock back.

* `SameFiles`, `Undisturbed`: what every call keeps but the write of a reservation.
* `Acquired`: what is known of a handle that was had just now.
* `tryReserve_error`, `tryReserve_ok`: what a reservation does that fails, and one that does not.
* `entries_of_lockable`: reading the entries of a file that can be locked.
-/

namespace PortReservation

namespace Host

/-- The text of the file at a place. -/
def textAt (h : Host) (place : Place) : Text := Utf8.decode (h.files.octetsAt place)

/-- The entries of the file at a place. -/
def entriesAt (h : Host) (place : Place) : Entries := Entries.parse (h.textAt place)

/-- A host on which every file that was there is as before, and so are the clocks. -/
structure SameFiles (h h' : Host) : Prop where
  octets : ∀ p, h'.files.octetsAt p = h.files.octetsAt p
  file : ∀ p id, h.files.nodeAt p = some (.file id) → h'.files.nodeAt p = some (.file id)
  directory : ∀ p, h.files.nodeAt p = some .directory → h'.files.nodeAt p = some .directory
  now : ∀ c, h'.now c = h.now c

namespace SameFiles

variable {h h' : Host}

theorem refl (h : Host) : SameFiles h h :=
  ⟨fun _ => rfl, fun _ _ hp => hp, fun _ hp => hp, fun _ => rfl⟩

theorem textAt (hs : SameFiles h h') (place : Place) : h'.textAt place = h.textAt place := by
  rw [Host.textAt, hs.octets, Host.textAt]

theorem entriesAt (hs : SameFiles h h') (place : Place) :
    h'.entriesAt place = h.entriesAt place := by
  rw [Host.entriesAt, hs.textAt, Host.entriesAt]

theorem timestamp (hs : SameFiles h h') : h'.timestamp = h.timestamp :=
  congrArg Timestamp.render (hs.now .system)

/-- A path keeps its place. -/
theorem slot? (hs : SameFiles h h') {path : Text} {place : Place}
    (hp : h.files.slot? path = some place) : h'.files.slot? path = some place :=
  FileTree.slot?_of_directories hs.directory hp

end SameFiles

/-- A host on which the exclusive locks are as before too. -/
structure Undisturbed (h h' : Host) : Prop extends SameFiles h h' where
  exclusive : h'.locks.exclusive = h.locks.exclusive

theorem Undisturbed.refl (h : Host) : Undisturbed h h := ⟨.refl h, rfl⟩

/-- Opening a file and changing locks keeps the files. -/
theorem Opened.sameFiles {h h₁ : Host} {place : Place} {id : FileId} (ho : Opened h place id h₁)
    (hne : place ≠ []) (locks : Locks) : SameFiles h { h₁ with locks } where
  octets := ho.octetsAt hne
  file _ _ := ho.nodeAt_file hne
  directory := ho.directories hne
  now c := by rw [← ho.now_eq c]; cases c <;> rfl

/-! ## Acquiring a handle -/

/-- Whether the file that a path names at a place can be locked: it is missing, or its locks can be
had. -/
def Lockable (h : Host) (path : Text) (place : Place) : Prop :=
  h.files.slot? path = some place ∧
    (h.files.nodeAt place = none ∨
      ∃ id, h.files.nodeAt place = some (.file id) ∧
        h.locks.Available h.locks.newDescriptor id)

/-- A handle on the file at a place that was had just now: its descriptor is a new one, and it took
locks that were available. -/
structure Acquired (h : Host) (path : Text) (place : Place) (handle : LockHandle) (h' : Host) :
    Prop extends SameFiles h h' where
  lockable : h.Lockable path place
  node : h'.files.nodeAt place = some (.file handle.opened.file)
  descriptor : handle.opened.descriptor = h.locks.newDescriptor
  available : h.locks.Available h.locks.newDescriptor handle.opened.file
  locks : h'.locks = h.locks.takeBoth h.locks.newDescriptor handle.opened.file

/-- A handle that cannot be had disturbs nothing. -/
theorem undisturbed_of_acquire_error {h h' : Host} {policy : LockPolicy} {path : Text} {e : Error}
    (ha : h.acquire policy path = (.error e, h')) : Undisturbed h h' := by
  rcases h.acquire_cases policy path with
    ⟨-, e', he⟩ | ⟨place, id, h₁, hslot, ho, ⟨-, he⟩ | ⟨-, hok⟩⟩
  · rw [he] at ha
    cases ha
    exact .refl h
  · rw [he] at ha
    cases ha
    refine ⟨ho.sameFiles (FileTree.ne_nil_of_slot? hslot) _, ?_⟩
    exact (Locks.exclusive_close _ _ _).trans (ho.locks_eq ▸ Locks.filter_newDescriptor _ _)
  · rw [hok] at ha
    cases ha

/-- What acquiring a handle does where it has one. -/
theorem acquire_ok {h h' : Host} {policy : LockPolicy} {path : Text} {handle : LockHandle}
    (ha : h.acquire policy path = (.ok handle, h')) : ∃ place, Acquired h path place handle h' := by
  rcases h.acquire_cases policy path with
    ⟨-, e', he⟩ | ⟨place, id, h₁, hslot, ho, ⟨-, he⟩ | ⟨hav, hok⟩⟩
  · rw [he] at ha
    cases ha
  · rw [he] at ha
    cases ha
  · rw [hok] at ha
    cases ha
    have hne := FileTree.ne_nil_of_slot? hslot
    refine ⟨place, ho.sameFiles hne _, ⟨hslot, ?_⟩, ho.nodeAt hne, rfl, hav, rfl⟩
    cases ho with
    | found hnode => exact .inr ⟨id, hnode, hav⟩
    | created hnode => exact .inl hnode

/-- No lock is on a file that does not exist yet. -/
theorem available_newFile (h : Host) (d : Descriptor) : h.locks.Available d h.newFile := by
  constructor
  · refine Locks.excludes_of_forall (fun e he hf => h.newFile_not_locked ?_) d
    exact List.mem_append_left _ (List.mem_map.mpr ⟨e, he, hf⟩)
  · simp only [Locks.recordExcludes, List.any_eq_false, decide_eq_true_eq, not_and]
    intro e he hf
    exact absurd (List.mem_append_right _ (List.mem_map.mpr ⟨e, he, hf⟩)) h.newFile_not_locked

/-- A file that can be locked is locked at once. -/
theorem acquire_of_lockable {h : Host} {path : Text} {place : Place} (hl : h.Lockable path place)
    (policy : LockPolicy) :
    ∃ handle h', h.acquire policy path = (.ok handle, h') ∧ Acquired h path place handle h' := by
  obtain ⟨hslot, hnode⟩ := hl
  rcases h.acquire_cases policy path with
    ⟨hno, -⟩ | ⟨place', id, h₁, hslot', ho, ⟨hav, -⟩ | ⟨-, hok⟩⟩
  · have hdir := hno place hslot
    rcases hnode with hnone | ⟨id, hid, -⟩
    · rw [hnone] at hdir
      cases hdir
    · rw [hid] at hdir
      cases hdir
  · rw [hslot'] at hslot
    cases hslot
    -- Its locks could be had, and nobody can have locked a file that was created just now.
    refine absurd ?_ hav
    cases ho with
    | found hfile =>
      rcases hnode with hnone | ⟨id', hid, hav'⟩
      · rw [hnone] at hfile
        cases hfile
      · rw [hid] at hfile
        cases hfile
        exact hav'
    | created hnone => exact h.available_newFile _
  · obtain ⟨place'', hacq⟩ := acquire_ok hok
    have hplace := hacq.lockable.1.symm.trans hslot
    cases hplace
    exact ⟨_, _, hok, hacq⟩

/-- A handle reads the text of the file at its place. -/
theorem readLocked_eq {h : Host} {place : Place} {handle : LockHandle}
    (hnode : h.files.nodeAt place = some (.file handle.opened.file)) :
    h.readLocked handle = h.textAt place := by
  rw [textAt, FileTree.octetsAt_of_file hnode, readLocked]

end Host

namespace Ledger

/-! ## Booking under a lock -/

theorem nodeAt_store (b : Entries.Booking) (handle : LockHandle) (h : Host) (p : Place) :
    (store b handle h).files.nodeAt p = h.files.nodeAt p := by
  unfold store
  split <;> rfl

theorem locks_store (b : Entries.Booking) (handle : LockHandle) (h : Host) :
    (store b handle h).locks = h.locks := by
  unfold store
  split <;> rfl

theorem now_store (b : Entries.Booking) (handle : LockHandle) (h : Host) (c : ClockSource) :
    (store b handle h).now c = h.now c := by
  unfold store
  split
  · rfl
  · cases c <;> rfl

/-- A ledger books in the entries of the file at the place of its handle. -/
theorem book_eq (l : Ledger) (port : Port) {h : Host} {place : Place} {handle : LockHandle}
    (hnode : h.files.nodeAt place = some (.file handle.opened.file)) :
    l.book port handle h = (h.entriesAt place).book port (h.now l.clock) l.ttl := by
  rw [book, Host.readLocked_eq hnode, Host.entriesAt]

/-- The text of a file after a booking: what was written, or what was there. -/
theorem textAt_store {h : Host} {place : Place} {handle : LockHandle}
    (hnode : h.files.nodeAt place = some (.file handle.opened.file)) (b : Entries.Booking) :
    (store b handle h).textAt place =
      b.written.elim (h.textAt place) (Entries.render Entries.header h.timestamp) := by
  unfold store
  split
  · next hw => rw [hw]; rfl
  · next m hw =>
    rw [hw, Host.textAt, Host.writeLocked, FileTree.octetsAt_write hnode, Utf8.decode_encode]
    rfl

/-- The entries of a file after a booking was stored are what the booking leaves, if the keys that
the file held have no bare blank. -/
theorem entriesAt_store {h : Host} {place : Place} {handle : LockHandle}
    (hnode : h.files.nodeAt place = some (.file handle.opened.file))
    (hplain : (h.entriesAt place).Plain)
    (port : Port) (time ttl : Millis) :
    (store ((h.entriesAt place).book port time ttl) handle h).entriesAt place =
      (h.entriesAt place).afterBooking port time ttl := by
  rw [Host.entriesAt, textAt_store hnode]
  exact (Entries.parse_written_iff Entries.line_feed_not_mem_header
    (Timestamp.line_feed_not_mem_render _)).mpr (.inr fun e he _ => hplain e he)

/-! ## Whole calls -/

/-- A reservation that fails disturbs nothing. -/
theorem tryReserve_error {l : Ledger} {port : Port} {h h' : Host} {e : Error}
    (hr : l.tryReserve port h = (.error e, h')) : h.Undisturbed h' := by
  rw [tryReserve_eq] at hr
  cases ha : h.acquire l.policy l.path with
  | mk answer h₁ =>
    rw [ha] at hr
    cases answer with
    | error e' =>
      cases hr
      exact Host.undisturbed_of_acquire_error ha
    | ok handle => cases hr

/-- What a reservation does that does not fail: it books the port in the entries that the file held,
the file holds what the booking wrote, if it wrote anything, and it can be locked again. -/
theorem tryReserve_ok {l : Ledger} {port : Port} {h h' : Host} {granted : Bool}
    (hr : l.tryReserve port h = (.ok granted, h')) :
    ∃ place, h.Lockable l.path place ∧ h'.Lockable l.path place ∧
      granted = ((h.entriesAt place).book port (h.now l.clock) l.ttl).granted ∧
      h'.textAt place =
        ((h.entriesAt place).book port (h.now l.clock) l.ttl).written.elim (h.textAt place)
          (Entries.render Entries.header h.timestamp) := by
  rw [tryReserve_eq] at hr
  cases ha : h.acquire l.policy l.path with
  | mk answer h₁ =>
    rw [ha] at hr
    cases answer with
    | error e => cases hr
    | ok handle =>
      cases hr
      obtain ⟨place, hacq⟩ := Host.acquire_ok ha
      have hbook : l.book port handle h₁ =
          (h.entriesAt place).book port (h.now l.clock) l.ttl := by
        rw [book_eq l port hacq.node, hacq.entriesAt, hacq.now]
      refine ⟨place, hacq.lockable, ⟨?_, .inr ⟨handle.opened.file, ?_, ?_⟩⟩, by rw [hbook], ?_⟩
      · refine FileTree.slot?_of_directories (fun p hp => ?_) hacq.lockable.1
        rw [Host.files_release, nodeAt_store]
        exact hacq.directory p hp
      · rw [Host.files_release, nodeAt_store]
        exact hacq.node
      · -- What the handle took is given back, so the locks can be had again.
        rw [Host.locks_release, locks_store, hacq.locks, hacq.descriptor]
        exact Locks.available_giveBack_takeBoth hacq.available _
      · calc (store (l.book port handle h₁) handle h₁).textAt place
            = (l.book port handle h₁).written.elim (h₁.textAt place)
                (Entries.render Entries.header h₁.timestamp) := textAt_store hacq.node _
          _ = _ := by rw [hbook, hacq.textAt, hacq.timestamp]

/-- The entries of a file after a reservation are what the booking leaves, exactly if nothing was
written or no key that is kept has a bare blank. -/
theorem entriesAt_tryReserve_iff {l : Ledger} {port : Port} {h h' : Host} {granted : Bool}
    {place : Place} (hr : l.tryReserve port h = (.ok granted, h'))
    (hplace : h.files.slot? l.path = some place) :
    h'.entriesAt place = (h.entriesAt place).afterBooking port (h.now l.clock) l.ttl ↔
      granted = false ∧
          (∀ e ∈ (h.entriesAt place).toList,
            Entries.isLive (h.now l.clock) l.ttl e.2 = true) ∨
        ∀ e ∈ (h.entriesAt place).toList, Entries.isLive (h.now l.clock) l.ttl e.2 = true →
          ∀ c ∈ e.1, Entries.isBareBlank c = false := by
  obtain ⟨place', hlock, -, hgranted, htext⟩ := tryReserve_ok hr
  cases hplace.symm.trans hlock.1
  rw [hgranted, Host.entriesAt, htext]
  exact Entries.parse_written_iff Entries.line_feed_not_mem_header
    (Timestamp.line_feed_not_mem_render _)

/-- A file that can be locked gives its entries. -/
theorem entries_of_lockable {l : Ledger} {h : Host} {place : Place}
    (hl : h.Lockable l.path place) : (l.entries h).1 = .ok (h.entriesAt place) := by
  obtain ⟨handle, h', ha, hacq⟩ := Host.acquire_of_lockable hl l.policy
  rw [entries_eq, ha, Host.entriesAt, ← hacq.textAt, ← Host.readLocked_eq hacq.node]

/-- Reading the entries right before and right after a reservation: the second reading is the live
part of the first, with the reservation if it was granted, exactly if the file was not written or no
key of a live entry has a blank that the writer does not escape. Such a key is cut at the blank when
it is read back. -/
theorem entries_tryReserve_iff {l : Ledger} {port : Port} {h h' : Host} {granted : Bool}
    (hr : l.tryReserve port h = (.ok granted, h')) :
    ∃ before after, (l.entries h).1 = .ok before ∧ (l.entries h').1 = .ok after ∧
      ((∀ e, e ∈ after.toList ↔
          e ∈ before.toList ∧ Entries.isLive (h.now l.clock) l.ttl e.2 = true ∨
            granted = true ∧ e = (Entries.portKey port, (h.now l.clock).render)) ↔
        granted = false ∧
            (∀ e ∈ before.toList, Entries.isLive (h.now l.clock) l.ttl e.2 = true) ∨
          ∀ e ∈ before.toList, Entries.isLive (h.now l.clock) l.ttl e.2 = true →
            ∀ c ∈ e.1, Entries.isBareBlank c = false) := by
  obtain ⟨place, hlock, hlock', hgranted, -⟩ := tryReserve_ok hr
  refine ⟨_, _, entries_of_lockable hlock, entries_of_lockable hlock', ?_⟩
  rw [← entriesAt_tryReserve_iff hr hlock.1]
  have hmem : ∀ e, e ∈ ((h.entriesAt place).afterBooking port (h.now l.clock) l.ttl).toList ↔
      e ∈ (h.entriesAt place).toList ∧ Entries.isLive (h.now l.clock) l.ttl e.2 = true ∨
        granted = true ∧ e = (Entries.portKey port, (h.now l.clock).render) := by
    intro e
    rw [hgranted]
    exact Entries.mem_afterBooking
  constructor
  · intro hall
    refine OrderedMap.ext (OrderedMap.eq_of_mem_iff (OrderedMap.ascending _)
      (OrderedMap.ascending _) fun e => ?_)
    rw [hall e, hmem e]
  · intro heq e
    rw [heq, hmem e]

/-- A host with a file that has a live entry under a key with a form feed. -/
def formFeedHost : Host :=
  { Host.bare 1000 with
    files := (({} : FileTree).create [['p']] 0).write 0 (Utf8.encode "a\\fb=1000".toList) }

/-- A reservation in the file. -/
def formFeedAnswer : Except Error Bool × Host :=
  Ledger.tryReserve { path := ['p'] } 5000 formFeedHost

/-- The reservation is granted, so the entries after it are the right ones exactly if no live entry
has a form feed in its key. -/
theorem entries_tryReserve_iff_formFeed :
    formFeedAnswer.1 = .ok true ∧
      ∃ before after, (Ledger.entries { path := ['p'] } formFeedHost).1 = .ok before ∧
        (Ledger.entries { path := ['p'] } formFeedAnswer.2).1 = .ok after ∧
        ((∀ e, e ∈ after.toList ↔
            e ∈ before.toList ∧ Entries.isLive 1000 Config.defaultTtl e.2 = true ∨
              true = true ∧ e = (Entries.portKey 5000, Millis.render 1000)) ↔
          true = false ∧
              (∀ e ∈ before.toList, Entries.isLive 1000 Config.defaultTtl e.2 = true) ∨
            ∀ e ∈ before.toList, Entries.isLive 1000 Config.defaultTtl e.2 = true →
              ∀ c ∈ e.1, Entries.isBareBlank c = false) := by
  have hgranted : formFeedAnswer.1 = .ok true := by cbv
  have hr : Ledger.tryReserve { path := ['p'] } 5000 formFeedHost = (.ok true, formFeedAnswer.2) :=
    Prod.ext hgranted rfl
  exact ⟨hgranted, entries_tryReserve_iff hr⟩

example :
    (Ledger.entries { path := ['p'] } formFeedHost).1.toOption.map (·.toList) =
        some [("a\x0cb".toList, "1000".toList)] ∧
      (Ledger.entries { path := ['p'] } formFeedAnswer.2).1.toOption.map (·.toList) =
        some [("5000".toList, "1000".toList), ("a".toList, "b=1000".toList)] := by
  constructor <;> cbv

end Ledger

end PortReservation
