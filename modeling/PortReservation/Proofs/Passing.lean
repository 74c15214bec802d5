import PortReservation.Locator
import PortReservation.Proofs.LedgerCycle

/-!
# Calls that come and go

Reserving a port, listing the entries of a ledger and looking for a ledger leave no handle behind,
and neither does an attempt to have a handle that fails. To everybody else such a call is over as if
nothing had happened to the locks: the exclusive locks and the record locks of other processes are
as before, so what could be locked still can be, and no file that was locked exclusively has other
octets.

* `Passed`: what a call leaves as it was that comes and goes.
* `Passed.slot?`, `Passed.lockable_iff`: paths name the same places, and the same files can be
  locked.
* `Visit`, `Visit.passed`: calls that ask for a handle and release it, as those of a ledger do.
* `passed_resolve`: looking for a ledger comes and goes too.
-/

namespace PortReservation

namespace Locks

/-- The locks of a file can be had by a new descriptor if nobody has the exclusive lock of the file
and no other process its record lock. -/
theorem available_newDescriptor_iff (l : Locks) (f : FileId) :
    l.Available l.newDescriptor f ↔
      (∀ e ∈ l.exclusive, e.2 ≠ f) ∧ ∀ e ∈ l.records, e.1 ≠ .this → e.2 ≠ f := by
  rw [Available, excludes_newDescriptor]
  refine and_congr_right fun _ => ?_
  simp only [recordExcludes, List.any_eq_false, decide_eq_true_eq, not_and]
  exact forall₂_congr fun e _ => ⟨fun h hp hf => h hf hp, fun h hf hp => h hp hf⟩

end Locks

namespace Host

/-- What a call leaves as it was that comes and goes. It may have created files, on which there was
no lock. -/
structure Passed (h h' : Host) : Prop where
  exclusive : h'.locks.exclusive = h.locks.exclusive
  others : ∀ e, e.1 ≠ .this → (e ∈ h'.locks.records ↔ e ∈ h.locks.records)
  node : ∀ p, h'.files.nodeAt p = h.files.nodeAt p ∨
    h.files.nodeAt p = none ∧ ∃ id, h'.files.nodeAt p = some (.file id) ∧
      h.locks.Available h.locks.newDescriptor id
  contents : ∀ e ∈ h.locks.exclusive, h'.files.contents e.2 = h.files.contents e.2
  free : ∀ address port, h'.network.isFree address port = h.network.isFree address port
  now : ∀ c, h'.now c = h.now c

namespace Passed

variable {h h' h'' : Host}

theorem refl (h : Host) : Passed h h where
  exclusive := rfl
  others _ _ := Iff.rfl
  node _ := .inl rfl
  contents _ _ := rfl
  free _ _ := rfl
  now _ := rfl

/-- The same files can be locked. -/
theorem available_iff (hp : Passed h h') (f : FileId) :
    h'.locks.Available h'.locks.newDescriptor f ↔ h.locks.Available h.locks.newDescriptor f := by
  rw [Locks.available_newDescriptor_iff, Locks.available_newDescriptor_iff, hp.exclusive]
  refine and_congr_right fun _ => forall_congr' fun e => ?_
  constructor
  · intro hall he hne
    exact hall ((hp.others e hne).mpr he) hne
  · intro hall he hne
    exact hall ((hp.others e hne).mp he) hne

theorem trans (hp : Passed h h') (hp' : Passed h' h'') : Passed h h'' where
  exclusive := hp'.exclusive.trans hp.exclusive
  others e hne := (hp'.others e hne).trans (hp.others e hne)
  node p := by
    rcases hp.node p with heq | ⟨hnone, id, hid, hav⟩
    · rcases hp'.node p with heq' | ⟨hnone', id, hid, hav⟩
      · exact .inl (heq'.trans heq)
      · exact .inr ⟨heq ▸ hnone', id, hid, (hp.available_iff id).mp hav⟩
    · -- The first call created the file, so the second one found it there.
      rcases hp'.node p with heq' | ⟨hnone', -⟩
      · exact .inr ⟨hnone, id, heq'.trans hid, hav⟩
      · rw [hid] at hnone'
        cases hnone'
  contents e he := (hp'.contents e (hp.exclusive ▸ he)).trans (hp.contents e he)
  free address port := (hp'.free address port).trans (hp.free address port)
  now c := (hp'.now c).trans (hp.now c)

/-- Paths name the same places, as no directory comes or goes. -/
theorem slot? (hp : Passed h h') (path : Text) : h'.files.slot? path = h.files.slot? path := by
  refine FileTree.slot?_congr (fun p => ?_) path
  rcases hp.node p with heq | ⟨hnone, id, hid, -⟩
  · rw [heq]
  · simp [hnone, hid]

/-- What could be locked still can be, and nothing else can. -/
theorem lockable_iff (hp : Passed h h') (path : Text) (place : Place) :
    h'.Lockable path place ↔ h.Lockable path place := by
  unfold Lockable
  rw [hp.slot? path]
  refine and_congr_right fun _ => ?_
  simp only [hp.available_iff]
  rcases hp.node place with heq | ⟨hnone, id, hid, hav⟩
  · rw [heq]
  · simp [hnone, hid, hav]

end Passed

/-! ## Opening, locking and closing -/

/-- Opening a file does no harm: a file that is created is one that nobody has locked. -/
theorem Opened.passed {h h' : Host} {place : Place} {id : FileId} (ho : Opened h place id h')
    (hne : place ≠ []) : Passed h h' := by
  cases ho with
  | found hnode => exact .refl h
  | created hnode =>
    refine ⟨rfl, fun _ _ => Iff.rfl, fun p => ?_, fun e he => ?_, fun _ _ => rfl, fun c => ?_⟩
    · by_cases hp : p = place
      · subst hp
        exact .inr ⟨hnode, h.newFile, by simp [FileTree.nodeAt_create hne],
          h.available_newFile h.locks.newDescriptor⟩
      · exact .inl (by simp [FileTree.nodeAt_create hne, hp])
    · refine FileTree.contents_write_of_ne ?_ _ []
      intro heq
      exact ((Locks.available_newDescriptor_iff _ _).mp (h.available_newFile _)).1 e he heq
    · cases c <;> rfl

/-- A new descriptor of a file is closed. -/
theorem passed_closeFile (h : Host) (id : FileId) :
    Passed h (h.closeFile ⟨h.locks.newDescriptor, id⟩) where
  exclusive := (Locks.exclusive_close _ _ _).trans (Locks.filter_newDescriptor _ _)
  others e hne := by
    refine Locks.mem_records_close.trans (and_iff_left ?_)
    rintro rfl
    exact hne rfl
  node _ := .inl rfl
  contents _ _ := rfl
  free _ _ := rfl
  now c := h.now_closeFile _ c

/-- Why a handle cannot be had: the path leads to no file that could be opened, or somebody has a
lock of the file. In the second case a descriptor of the file is opened and closed. -/
theorem acquire_error_cases {h h' : Host} {policy : LockPolicy} {path : Text} {e : Error}
    (ha : h.acquire policy path = (.error e, h')) :
    (∀ id, h.files.stat path ≠ .ok (.file id)) ∧ h' = h ∨
      ∃ id, h.files.stat path = .ok (.file id) ∧ ¬h.locks.Available h.locks.newDescriptor id ∧
        e = .lockTimeout path policy.attempts ∧ h' = h.closeFile ⟨h.locks.newDescriptor, id⟩ := by
  rcases h.acquire_cases policy path with
    ⟨hno, e', he⟩ | ⟨place, id, h₁, hslot, ho, ⟨hav, he⟩ | ⟨-, hok⟩⟩
  · rw [he] at ha
    cases ha
    refine .inl ⟨fun id hs => ?_, rfl⟩
    obtain ⟨place, hslot, hnode⟩ := FileTree.stat_eq_file_iff.mp hs
    rw [hno place hslot] at hnode
    cases hnode
  · rw [he] at ha
    cases ha
    cases ho with
    | found hnode =>
      exact .inr ⟨id, FileTree.stat_eq_file_iff.mpr ⟨place, hslot, hnode⟩, hav, rfl, rfl⟩
    | created hnode => exact absurd (available_newFile _ _) hav
  · rw [hok] at ha
    cases ha

theorem passed_of_acquire_error {h h' : Host} {policy : LockPolicy} {path : Text} {e : Error}
    (ha : h.acquire policy path = (.error e, h')) : Passed h h' := by
  rcases acquire_error_cases ha with ⟨-, rfl⟩ | ⟨id, -, -, -, rfl⟩
  · exact .refl h'
  · exact h.passed_closeFile id

/-- While somebody has a lock of the file that a path leads to, no handle can be had there. -/
theorem acquire_of_not_available {h : Host} {path : Text} {id : FileId}
    (hs : h.files.stat path = .ok (.file id))
    (hav : ¬h.locks.Available h.locks.newDescriptor id) (policy : LockPolicy) :
    h.acquire policy path =
      (.error (.lockTimeout path policy.attempts), h.closeFile ⟨h.locks.newDescriptor, id⟩) := by
  cases ha : h.acquire policy path with
  | mk answer h' =>
    cases answer with
    | error e =>
      rcases acquire_error_cases ha with ⟨hno, -⟩ | ⟨id', hs', -, rfl, rfl⟩
      · exact absurd hs (hno id)
      · rw [hs] at hs'
        cases hs'
        rfl
    | ok handle =>
      obtain ⟨place, hslot, hnode⟩ := FileTree.stat_eq_file_iff.mp hs
      obtain ⟨place', hacq⟩ := acquire_ok ha
      cases hacq.lockable.1.symm.trans hslot
      have hfile := hacq.node.symm.trans (hacq.file place id hnode)
      simp only [Option.some.injEq, Node.file.injEq] at hfile
      exact absurd (hfile ▸ hacq.available) hav

/-- A call that asks for a handle on the file of a path: it is refused, or it writes to the file at
most and releases the handle. -/
inductive Visit (h : Host) (policy : LockPolicy) (path : Text) : Host → Prop where
  | refused {h' : Host} {e : Error} (ha : h.acquire policy path = (.error e, h')) :
      Visit h policy path h'
  | served {h₁ h₂ : Host} {handle : LockHandle}
      (ha : h.acquire policy path = (.ok handle, h₁)) (hlocks : h₂.locks = h₁.locks)
      (hnode : ∀ p, h₂.files.nodeAt p = h₁.files.nodeAt p)
      (hcontents : ∀ f, f ≠ handle.opened.file → h₂.files.contents f = h₁.files.contents f)
      (hnetwork : h₂.network = h₁.network) (hnow : ∀ c, h₂.now c = h₁.now c) :
      Visit h policy path (h₂.release handle)

/-- A visit comes and goes. -/
theorem Visit.passed {h h' : Host} {policy : LockPolicy} {path : Text}
    (hv : h.Visit policy path h') : Passed h h' := by
  cases hv with
  | refused ha => exact passed_of_acquire_error ha
  | @served h₁ h₂ handle ha hlocks hnode hcontents hnetwork hnow =>
    rcases h.acquire_cases policy path with
      ⟨-, e, he⟩ | ⟨place, id, h₀, hslot, ho, ⟨-, he⟩ | ⟨hav, hok⟩⟩
    · rw [he] at ha
      cases ha
    · rw [he] at ha
      cases ha
    rw [hok] at ha
    cases ha
    have hp := ho.passed (FileTree.ne_nil_of_slot? hslot)
    have hback : (h₂.release ⟨path, ⟨h.locks.newDescriptor, id⟩⟩).locks =
        (h.locks.takeBoth h.locks.newDescriptor id).giveBack h.locks.newDescriptor id := by
      rw [locks_release, hlocks]
    refine ⟨?_, fun e hne => ?_, fun p => ?_, fun e he => ?_, fun address port => ?_,
      fun c => ?_⟩
    · rw [hback]
      exact Locks.exclusive_giveBack_takeBoth _ _
    · rw [hback, Locks.mem_records_giveBack_takeBoth]
      refine and_iff_left ?_
      rintro rfl
      exact hne rfl
    · rw [files_release, hnode p]
      exact hp.node p
    · rw [files_release, hcontents e.2 ?_]
      · exact hp.contents e he
      · -- The file of the handle had no lock, so it is not one whose contents matter.
        exact ((Locks.available_newDescriptor_iff _ _).mp hav).1 e he
    · exact (congrArg (·.isFree address port) hnetwork).trans (hp.free address port)
    · rw [now_release, hnow c, ← hp.now c]
      cases c <;> rfl

end Host

/-! ## Calls of a ledger -/

namespace Ledger

theorem contents_store {handle : LockHandle} {f : FileId} (hf : f ≠ handle.opened.file)
    (b : Entries.Booking) (h : Host) :
    (store b handle h).files.contents f = h.files.contents f := by
  unfold store
  split
  · rfl
  · exact FileTree.contents_write_of_ne hf _ _

theorem network_store (b : Entries.Booking) (handle : LockHandle) (h : Host) :
    (store b handle h).network = h.network := by
  unfold store
  split <;> rfl

theorem visit_tryReserve (l : Ledger) (port : Port) (h : Host) :
    h.Visit l.policy l.path (l.tryReserve port h).2 := by
  rw [tryReserve_eq]
  cases ha : h.acquire l.policy l.path with
  | mk answer h₁ =>
    cases answer with
    | error e => exact .refused ha
    | ok handle =>
      exact .served ha (locks_store _ handle h₁) (nodeAt_store _ handle h₁)
        (fun f hf => contents_store hf _ h₁) (network_store _ handle h₁) (now_store _ handle h₁)

theorem visit_reserve (l : Ledger) (port : Port) (h : Host) :
    h.Visit l.policy l.path (l.reserve port h).2 := by
  have hhost : (l.reserve port h).2 = (l.tryReserve port h).2 := by
    rw [reserve_eq]
    split <;> next heq => rw [heq]
  rw [hhost]
  exact l.visit_tryReserve port h

theorem visit_entries (l : Ledger) (h : Host) : h.Visit l.policy l.path (l.entries h).2 := by
  rw [entries_eq]
  cases ha : h.acquire l.policy l.path with
  | mk answer h₁ =>
    cases answer with
    | error e => exact .refused ha
    | ok handle => exact .served ha rfl (fun _ => rfl) (fun _ _ => rfl) rfl fun _ => rfl

end Ledger

/-! ## Looking for a ledger -/

namespace Locator

/-- Creating the file of a path that leads nowhere: it is created if nothing is at its place. -/
theorem host_touch (path : Text) (h : Host) :
    (touch path h).2 = h ∨
      ∃ place, place ≠ [] ∧ Host.Opened h place h.newFile
        { h with files := h.files.create place h.newFile } ∧
        (touch path h).2 = { h with files := h.files.create place h.newFile }.closeFile
          ⟨h.locks.newDescriptor, h.newFile⟩ := by
  unfold touch
  split
  · exact .inl rfl
  · next e hs =>
    rcases h.openFile_cases path with ⟨-, e', he⟩ | ⟨place, id, h', hslot, ho, hopen⟩
    · rw [he]
      exact .inl rfl
    · -- Nothing was found at the path, so a file that was opened is a new one.
      cases ho with
      | found hnode =>
        rw [FileTree.stat_eq_file_iff.mpr ⟨place, hslot, hnode⟩] at hs
        cases hs
      | created hnode =>
        rw [hopen]
        exact .inr ⟨place, FileTree.ne_nil_of_slot? hslot, .created hnode, rfl⟩

theorem passed_touch (path : Text) (h : Host) : h.Passed (touch path h).2 := by
  rcases host_touch path h with heq | ⟨place, hne, ho, heq⟩
  · rw [heq]
    exact .refl h
  · rw [heq]
    exact (ho.passed hne).trans (Host.passed_closeFile _ _)

theorem host_prepare (path : Text) (h : Host) : (prepare path h).2 = (touch path h).2 := by
  unfold prepare
  split
  · next heq => rw [heq]
  · next heq => split <;> rw [heq]

theorem host_look (l : Locator) (h : Host) :
    (l.look h).2 = h ∨ ∃ path, (l.look h).2 = (touch path h).2 := by
  unfold look
  split
  · exact .inl rfl
  · next path _ =>
    refine .inr ⟨path, ?_⟩
    rw [← host_prepare]
    split <;> next heq => rw [heq]

/-- Looking for a ledger creates a file at most. -/
theorem host_resolve (l : Locator) (h : Host) :
    (l.resolve h).2.2 = h ∨ ∃ path, (l.resolve h).2.2 = (touch path h).2 := by
  unfold resolve
  split
  · exact l.host_look h
  · exact .inl rfl

theorem passed_resolve (l : Locator) (h : Host) : h.Passed (l.resolve h).2.2 := by
  rcases l.host_resolve h with heq | ⟨path, heq⟩
  · rw [heq]
    exact .refl h
  · rw [heq]
    exact passed_touch path h

/-- Looking for a ledger keeps every file that was there. -/
theorem sameFiles_resolve (l : Locator) (h : Host) : h.SameFiles (l.resolve h).2.2 := by
  rcases l.host_resolve h with heq | ⟨path, heq⟩
  · rw [heq]
    exact .refl h
  · rw [heq]
    rcases host_touch path h with heq | ⟨p, hne, ho, heq⟩
    · rw [heq]
      exact .refl h
    · rw [heq]
      exact ho.sameFiles hne _

theorem look_ne_unresolved (l : Locator) (h : Host) : (l.look h).1 ≠ .unresolved := by
  unfold look
  split
  · simp
  · split <;> simp

/-- A locator that knows nothing looks. -/
theorem resolve_unresolved {l : Locator} (hl : l.location = .unresolved) (h : Host) :
    l.resolve h = ((l.look h).1.path?, { l with location := (l.look h).1 }, (l.look h).2) :=
  if_pos hl

/-- A ledger that was looked for is known. -/
theorem resolve_resolve (l : Locator) (h h' : Host) :
    (l.resolve h).2.1.resolve h' = ((l.resolve h).1, (l.resolve h).2.1, h') := by
  by_cases hl : l.location = .unresolved
  · rw [resolve_unresolved hl]
    exact resolve_resolved (l.look_ne_unresolved h) h'
  · rw [resolve_resolved hl]
    exact resolve_resolved hl h'

end Locator

end PortReservation
