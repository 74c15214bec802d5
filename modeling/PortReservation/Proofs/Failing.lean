import PortReservation.Proofs.Passing

/-!
# Calls that fail

A call that asks for the locks of a file and fails leaves the files as they were, but for the file
itself: opening creates it, empty, if it was missing, and it stays if its locks cannot be had then.
No handle is left. At most this process loses its record lock on the file by the call. No later call
of this process depends on that, a handle that has the file gives the record lock back anyway when
it is released, and another process finds out only if it asks for a lock of the file while this
process would have its record lock.

* `Touched`: what opening the file of a path leaves.
* `Locks.Alike`, `Similar`: locks, and hosts, that differ in a record lock that this process lost.
* `Similar.perform`, `Similar.step`: what happens is answered the same on similar hosts, and leaves
  similar ones; `Similar.run`: so is all that happens later.
* `Unnoticed`: what a call leaves as it was that came to nothing.
* `errors_unnoticed`: a call that fails is not noticed, whatever its tries answered, and neither is
  a listing of entries, but for the empty file.
* `errors_noticed`: where a call that failed is noticed: by an empty file, and by another process.
-/

namespace PortReservation

/-! ## Numbers that are left free -/

theorem firstAbove_le_iff {ns : List Nat} {m : Nat} : firstAbove ns ≤ m ↔ ∀ n ∈ ns, n < m := by
  constructor
  · intro h n hn
    exact Nat.lt_of_lt_of_le (lt_firstAbove hn) h
  · intro h
    induction ns with
    | nil => exact Nat.zero_le m
    | cons k ns ih =>
      obtain ⟨hk, hns⟩ := List.forall_mem_cons.mp h
      exact Nat.max_le.mpr ⟨hk, ih hns⟩

/-- The number that is left free does not depend on the order of the others. -/
theorem firstAbove_congr {ns ns' : List Nat} (h : ∀ n, n ∈ ns' ↔ n ∈ ns) :
    firstAbove ns' = firstAbove ns :=
  Nat.le_antisymm (firstAbove_le_iff.mpr fun n hn => lt_firstAbove ((h n).mp hn))
    (firstAbove_le_iff.mpr fun n hn => lt_firstAbove ((h n).mpr hn))

namespace FileTree

variable {t t' : FileTree} {new id : FileId}

/-- A file that has a name keeps it when a missing file is created. -/
theorem mem_fileIds_create {place : Place} (hne : place ≠ []) (hmissing : t.nodeAt place = none)
    (hid : id ∈ t.fileIds) : id ∈ (t.create place new).fileIds := by
  obtain ⟨⟨p, n⟩, he, hn⟩ := List.mem_filterMap.mp hid
  refine List.mem_filterMap.mpr ⟨(p, n), OrderedMap.mem_toList_insert.mpr (.inr ⟨?_, he⟩), hn⟩
  -- The name is not the one that was missing.
  rintro rfl
  rw [nodeAt, if_neg (by simpa using hne), OrderedMap.get?_eq_some_iff.mpr he] at hmissing
  cases hmissing

/-- A file that has a name keeps it when a path is opened. -/
theorem mem_fileIds_openOrCreate {path : Text} {f : FileId}
    (hopen : t.openOrCreate new path = .ok (f, t')) (hid : id ∈ t.fileIds) : id ∈ t'.fileIds := by
  rcases t.openOrCreate_cases new path with
    ⟨-, e, he⟩ | ⟨place, hslot, ⟨_, -, hok⟩ | ⟨hmissing, hok⟩⟩
  · rw [he] at hopen
    cases hopen
  · rw [hok] at hopen
    cases hopen
    exact hid
  · rw [hok] at hopen
    cases hopen
    exact mem_fileIds_create (ne_nil_of_slot? hslot) hmissing hid

/-- A path that opens a file that is not new leads to it. -/
theorem stat_of_openOrCreate {path : Text} (hopen : t.openOrCreate new path = .ok (id, t'))
    (hne : id ≠ new) : t.stat path = .ok (.file id) := by
  rcases t.openOrCreate_cases new path with
    ⟨-, e, he⟩ | ⟨place, hslot, ⟨_, hnode, hok⟩ | ⟨-, hok⟩⟩
  · rw [he] at hopen
    cases hopen
  · rw [hok] at hopen
    cases hopen
    exact stat_eq_file_iff.mpr ⟨place, hslot, hnode⟩
  · rw [hok] at hopen
    cases hopen
    exact absurd rfl hne

end FileTree

/-! ## Locks of which a record lock is lost -/

namespace Locks

/-- Locks of which at most the record lock of this process on a file is lost. -/
structure Alike (file : FileId) (l l' : Locks) : Prop where
  exclusive : l'.exclusive = l.exclusive
  others : ∀ e : Process × FileId, e ≠ (.this, file) → (e ∈ l'.records ↔ e ∈ l.records)
  lost : (.this, file) ∈ l'.records → (.this, file) ∈ l.records

namespace Alike

variable {file : FileId} {l l' : Locks}

theorem newDescriptor (hl : Alike file l l') : l'.newDescriptor = l.newDescriptor := by
  rw [Locks.newDescriptor, hl.exclusive, Locks.newDescriptor]

/-- While this process has no record lock on the file, none is lost. -/
theorem mem_records_iff (hl : Alike file l l') {e : Process × FileId}
    (hfree : e.2 = file → (.this, file) ∉ l.records) : e ∈ l'.records ↔ e ∈ l.records := by
  by_cases he : e = (.this, file)
  · subst he
    exact iff_of_false (fun hmem => hfree rfl (hl.lost hmem)) (hfree rfl)
  · exact hl.others e he

/-- The same files can be locked: this process is not kept out by record locks of its own. -/
theorem available_iff (hl : Alike file l l') (d : Descriptor) (f : FileId) :
    l'.Available d f ↔ l.Available d f := by
  have hexcludes : l'.excludes d f = l.excludes d f := by
    rw [excludes, hl.exclusive, excludes]
  have hothers : ∀ e : Process × FileId, e.1 ≠ .this → (e ∈ l'.records ↔ e ∈ l.records) :=
    fun e hne => hl.others e fun he => hne (congrArg Prod.fst he)
  unfold Available
  rw [hexcludes]
  refine and_congr_right fun _ => ?_
  simp only [recordExcludes, List.any_eq_false, decide_eq_true_eq, not_and, Classical.not_not]
  constructor
  · intro hall e he hf
    by_contra hne
    exact hne (hall e ((hothers e hne).mpr he) hf)
  · intro hall e he hf
    by_contra hne
    exact hne (hall e ((hothers e hne).mp he) hf)

/-- Another process is kept out of a file by the same locks, unless it is the file whose record lock
this process may have lost. -/
theorem recordExcludes_eq (hl : Alike file l l') {f : FileId}
    (hfree : f = file → (.this, file) ∉ l.records) (p : Process) :
    l'.recordExcludes p f = l.recordExcludes p f := by
  rw [Bool.eq_iff_iff]
  simp only [recordExcludes, List.any_eq_true, decide_eq_true_eq]
  refine exists_congr fun e => and_congr_left fun he => hl.mem_records_iff ?_
  rw [he.1]
  exact hfree

/-- The same record locks are dropped. -/
theorem filterRecords (hl : Alike file l l') (keep : Process × FileId → Bool) :
    Alike file { l with records := l.records.filter keep }
      { l' with records := l'.records.filter keep } where
  exclusive := hl.exclusive
  others e he := by
    simp only [List.mem_filter]
    rw [hl.others e he]
  lost hmem := List.mem_filter.mpr ((List.mem_filter.mp hmem).imp_left hl.lost)

theorem dropRecord (hl : Alike file l l') (p : Process) (f : FileId) :
    Alike file (l.dropRecord p f) (l'.dropRecord p f) :=
  hl.filterRecords _

theorem endProcess (hl : Alike file l l') (p : Process) :
    Alike file (l.endProcess p) (l'.endProcess p) :=
  hl.filterRecords _

theorem takeRecord (hl : Alike file l l') (p : Process) (f : FileId) :
    Alike file (l.takeRecord p f) (l'.takeRecord p f) where
  exclusive := hl.exclusive
  others e he := by
    simp only [Locks.takeRecord, List.mem_cons]
    exact or_congr_right ((hl.dropRecord p f).others e he)
  lost hmem :=
    List.mem_cons.mpr ((List.mem_cons.mp hmem).imp_right (hl.dropRecord p f).lost)

theorem takeExclusive (hl : Alike file l l') (d : Descriptor) (f : FileId) :
    Alike file (l.takeExclusive d f) (l'.takeExclusive d f) where
  exclusive := by rw [Locks.takeExclusive, hl.exclusive, Locks.takeExclusive]
  others := hl.others
  lost := hl.lost

theorem dropExclusive (hl : Alike file l l') (d : Descriptor) (f : FileId) :
    Alike file (l.dropExclusive d f) (l'.dropExclusive d f) where
  exclusive := congrArg (List.filter _) hl.exclusive
  others := hl.others
  lost := hl.lost

/-- A descriptor takes both locks of a file. -/
theorem takeBoth (hl : Alike file l l') (d : Descriptor) (f : FileId) :
    Alike file (l.takeBoth d f) (l'.takeBoth d f) :=
  (hl.takeExclusive d f).takeRecord .this f

theorem close (hl : Alike file l l') (d : Descriptor) (f : FileId) :
    Alike file (l.close d f) (l'.close d f) :=
  (hl.dropExclusive d f).dropRecord .this f

theorem giveBack (hl : Alike file l l') (d : Descriptor) (f : FileId) :
    Alike file (l.giveBack d f) (l'.giveBack d f) :=
  ((hl.dropRecord .this f).dropExclusive d f).close d f

end Alike

/-- This process loses its record lock on a file. -/
theorem alike_dropRecord (f : FileId) (l : Locks) : Alike f l (l.dropRecord .this f) where
  exclusive := rfl
  others e hne := by simp [dropRecord, hne]
  lost hmem := List.mem_of_mem_filter hmem

theorem dropRecord_dropRecord (l : Locks) (p : Process) (f : FileId) :
    (l.dropRecord p f).dropRecord p f = l.dropRecord p f := by
  simp [dropRecord, List.filter_filter]

/-- A new descriptor of a file that is closed again costs the record lock on the file. -/
theorem close_newDescriptor (l : Locks) (f : FileId) :
    l.close l.newDescriptor f = l.dropRecord .this f := by
  rw [close, dropExclusive, filter_newDescriptor]

/-- So do both locks that a new descriptor takes and gives back. -/
theorem giveBack_takeBoth (l : Locks) (f : FileId) :
    (l.takeBoth l.newDescriptor f).giveBack l.newDescriptor f = l.dropRecord .this f := by
  have hexclusive := l.exclusive_giveBack_takeBoth f
  have hrecords : ((l.takeBoth l.newDescriptor f).giveBack l.newDescriptor f).records =
      (l.dropRecord .this f).records := by
    simp [giveBack, close, takeBoth, takeRecord, takeExclusive, dropRecord, dropExclusive,
      List.filter_filter]
  exact congrArg₂ Locks.mk hexclusive hrecords

end Locks

namespace Host

/-! ## Hosts of which a record lock is lost -/

/-- A host of which at most the record lock of this process on a file is lost. The file has a
name. -/
inductive Similar (file : FileId) (h : Host) : Host → Prop where
  | intro {locks : Locks} (hid : file ∈ h.files.fileIds) (hl : Locks.Alike file h.locks locks) :
      Similar file h { h with locks }

/-- Two calls that answer the same and leave similar hosts. -/
inductive Agrees (file : FileId) {α : Type} : α × Host → α × Host → Prop where
  | intro {answer : α} {h h' : Host} (hs : Similar file h h') : Agrees file (answer, h) (answer, h')

namespace Agrees

variable {α β : Type} {file : FileId} {x x' : α × Host}

theorem answer (ha : Agrees file x x') : x'.1 = x.1 := by
  cases ha
  rfl

theorem similar (ha : Agrees file x x') : Similar file x.2 x'.2 := by
  cases ha with
  | intro hs => exact hs

/-- The answers may be seen in another way. -/
theorem map (ha : Agrees file x x') (f : α → β) :
    Agrees file (x.map f id) (x'.map f id) := by
  cases ha with
  | intro hs => exact .intro hs

end Agrees

namespace Similar

variable {file : FileId} {h h' : Host}

theorem files (hs : Similar file h h') : h'.files = h.files := by
  cases hs
  rfl

/-- A missing file is created with the same identity: the file of the lock is no candidate for it
anyway, as it has a name, and on any other one there are the same locks. -/
theorem newFile {locks : Locks} (hid : file ∈ h.files.fileIds)
    (hl : Locks.Alike file h.locks locks) : ({ h with locks } : Host).newFile = h.newFile := by
  refine firstAbove_congr fun n => ?_
  simp only [List.mem_append, Locks.files, List.mem_map, hl.exclusive]
  by_cases hn : n = file
  · simp [hn, hid]
  · refine or_congr_right (or_congr_right (exists_congr fun e => and_congr_left fun he => ?_))
    refine hl.others e ?_
    rintro rfl
    exact hn he.symm

theorem openFile (hs : Similar file h h') (path : Text) :
    Agrees file (h.openFile path) (h'.openFile path) := by
  cases hs with
  | intro hid hl =>
    unfold Host.openFile
    rw [newFile hid hl, hl.newDescriptor]
    cases hopen : h.files.openOrCreate h.newFile path with
    | error e => exact .intro (.intro hid hl)
    | ok f => exact .intro (.intro (FileTree.mem_fileIds_openOrCreate hopen hid) hl)

theorem closeFile (hs : Similar file h h') (f : OpenFile) :
    Similar file (h.closeFile f) (h'.closeFile f) := by
  cases hs with
  | intro hid hl => exact .intro hid (hl.close f.descriptor f.file)

theorem takeBoth (hs : Similar file h h') (f : OpenFile) :
    Similar file { h with locks := h.locks.takeBoth f.descriptor f.file }
      { h' with locks := h'.locks.takeBoth f.descriptor f.file } := by
  cases hs with
  | intro hid hl => exact .intro hid (hl.takeBoth f.descriptor f.file)

theorem release (hs : Similar file h h') (handle : LockHandle) :
    Similar file (h.release handle) (h'.release handle) := by
  cases hs with
  | intro hid hl => exact .intro hid (hl.giveBack handle.opened.descriptor handle.opened.file)

theorem writeLocked (hs : Similar file h h') (handle : LockHandle) (text : Text) :
    Similar file (h.writeLocked handle text) (h'.writeLocked handle text) := by
  cases hs with
  | intro hid hl => exact .intro hid hl

theorem lockAnswer (hs : Similar file h h') (f : OpenFile) :
    h'.lockAnswer f = h.lockAnswer f := by
  cases hs with
  | intro hid hl =>
    rw [lockAnswer_eq, lockAnswer_eq]
    exact if_congr (hl.available_iff _ _) rfl rfl

theorem await (hs : Similar file h h') (policy : LockPolicy) (path : Text) (f : OpenFile)
    (answers : Nat → LockAnswer) :
    Agrees file (h.await policy path f answers) (h'.await policy path f answers) := by
  unfold Host.await
  split
  · exact .intro (hs.takeBoth f)
  · exact .intro (hs.closeFile f)
  · exact .intro (hs.closeFile f)

theorem acquireBy (hs : Similar file h h') (tries : LockTries) (policy : LockPolicy) (path : Text) :
    Agrees file (h.acquireBy tries policy path) (h'.acquireBy tries policy path) := by
  have hopened := hs.openFile path
  unfold Host.acquireBy
  generalize h.openFile path = x, h'.openFile path = x' at hopened ⊢
  cases hopened with
  | @intro answer _ _ hs =>
    cases answer with
    | error e => exact .intro hs
    | ok f =>
      -- The tries go by what the locks answer, and that is the same.
      dsimp only
      rw [hs.lockAnswer f]
      exact hs.await policy path f _

/-- Another process finds the same locks, unless this process would have its record lock on the very
file. -/
theorem holdFile (hs : Similar file h h') (process : Nat) {path : Text}
    (hfree : h.files.stat path = .ok (.file file) → (.this, file) ∉ h.locks.records) :
    Agrees file (h.holdFile process path) (h'.holdFile process path) := by
  cases hs with
  | @intro locks hid hl =>
    unfold Host.holdFile
    rw [newFile hid hl]
    cases hopen : h.files.openOrCreate h.newFile path with
    | error e => exact .intro (.intro hid hl)
    | ok opened =>
      obtain ⟨f, files⟩ := opened
      -- If the path leads to the file now it did before, as a file that was created is a new one.
      have hf : f = file → (.this, file) ∉ h.locks.records := by
        rintro rfl
        exact hfree (FileTree.stat_of_openOrCreate hopen fun heq => h.newFile_not_mem (heq ▸ hid))
      have hid' : file ∈ files.fileIds := FileTree.mem_fileIds_openOrCreate hopen hid
      simp only [Locks.tryRecord]
      rw [hl.recordExcludes_eq hf]
      split
      · exact .intro (.intro hid' hl)
      · exact .intro (.intro hid' (hl.takeRecord (.other process) f))

end Similar

/-! ## Calls of this process, and what else happens -/

/-- A call that asks for the locks of a file. -/
inductive LockCall where
  | acquire (policy : LockPolicy) (path : Text)
  | tryReserve (l : Ledger) (port : Port)
  | reserve (l : Ledger) (port : Port)
  | entries (l : Ledger)

/-- What is answered: to such a call, or to another process that tries for a lock. -/
inductive LockReply where
  | acquired (answer : Except Error LockHandle)
  | tried (answer : Except Error Bool)
  | reserved (answer : Bool)
  | listed (answer : Except Error Entries)
  | held (answer : Bool)

namespace LockCall

/-- The path of the file. -/
def path : LockCall → Text
  | .acquire _ path => path
  | .tryReserve l _ | .reserve l _ | .entries l => l.path

/-- What the call answers, and the host after it, where its tries answer as given. -/
def perform (tries : LockTries) (h : Host) : LockCall → LockReply × Host
  | .acquire policy path => (h.acquireBy tries policy path).map .acquired id
  | .tryReserve l port => (l.tryReserveBy tries port h).map .tried id
  | .reserve l port => (l.reserveBy tries port h).map .reserved id
  | .entries l => (l.entriesBy tries h).map .listed id

end LockCall

/-- The error of an answer, if it has one. -/
def failure? {α : Type} : Except Error α → Option Error
  | .ok _ => none
  | .error e => some e

theorem failure?_eq_some_iff {α : Type} {answer : Except Error α} {e : Error} :
    failure? answer = some e ↔ answer = .error e := by
  cases answer <;> simp [failure?]

/-- The error that a call answers, if it answers one. -/
def LockReply.error? : LockReply → Option Error
  | .acquired answer => failure? answer
  | .tried answer => failure? answer
  | .reserved _ | .held _ => none
  | .listed answer => failure? answer

/-- What happens on a host after a call. -/
inductive Later where
  | call (tries : LockTries) (c : LockCall)
  /-- A handle replaces the text of its file. -/
  | rewrite (handle : LockHandle) (text : Text)
  | release (handle : LockHandle)
  /-- Another process opens a file and tries for its record lock. -/
  | hold (process : Nat) (path : Text)
  /-- Another process gives a record lock back. -/
  | giveBack (process : Nat) (file : FileId)
  /-- Another process ends. -/
  | exit (process : Nat)
  /-- The clocks or anything else changes, but no file and no lock. -/
  | elsewhere (h : Host)

/-- The host after something happened, and what was answered. -/
def step (h : Host) : Later → Option LockReply × Host
  | .call tries c => (c.perform tries h).map some id
  | .rewrite handle text => (none, h.writeLocked handle text)
  | .release handle => (none, h.release handle)
  | .hold process path => (h.holdFile process path).map (fun held => some (.held held)) id
  | .giveBack process file =>
    (none, { h with locks := h.locks.dropRecord (.other process) file })
  | .exit process => (none, h.endProcess process)
  | .elsewhere other => (none, { other with files := h.files, locks := h.locks })

/-- What is answered one after the other, and the host at the end. -/
def run (h : Host) : List Later → List (Option LockReply) × Host
  | [] => ([], h)
  | e :: es => ((h.step e).2.run es).map ((h.step e).1 :: ·) id

/-- Whether another process tries for the record lock of a file. -/
def Later.Contends (e : Later) (h : Host) (file : FileId) : Prop :=
  ∃ process path, e = .hold process path ∧ h.files.stat path = .ok (.file file)

/-- No other process tries for the record lock of a file while this process has it. -/
def Undisputed (file : FileId) (h : Host) : List Later → Prop
  | [] => True
  | e :: es =>
    (e.Contends h file → (.this, file) ∉ h.locks.records) ∧ (h.step e).2.Undisputed file es

namespace Similar

variable {file : FileId} {h h' : Host}

/-- What is booked depends on the files and the clock only. -/
theorem book (hs : Similar file h h') (l : Ledger) (port : Port) (handle : LockHandle) :
    l.book port handle h' = l.book port handle h := by
  cases hs
  unfold Ledger.book
  cases l.clock <;> rfl

theorem store (hs : Similar file h h') (booking : Entries.Booking) (handle : LockHandle) :
    Similar file (Ledger.store booking handle h) (Ledger.store booking handle h') := by
  cases hs with
  | intro hid hl =>
    unfold Ledger.store
    split
    · exact .intro hid hl
    · exact Similar.writeLocked (.intro hid hl) handle _

theorem tryReserveBy (hs : Similar file h h') (l : Ledger) (tries : LockTries) (port : Port) :
    Agrees file (l.tryReserveBy tries port h) (l.tryReserveBy tries port h') := by
  have hacquired := hs.acquireBy tries l.policy l.path
  unfold Ledger.tryReserveBy
  generalize h.acquireBy tries l.policy l.path = x, h'.acquireBy tries l.policy l.path = x'
    at hacquired ⊢
  cases hacquired with
  | @intro answer _ _ hs =>
    cases answer with
    | error e => exact .intro hs
    | ok handle =>
      dsimp only
      rw [hs.book l port handle]
      exact .intro ((hs.store _ handle).release handle)

theorem reserveBy (hs : Similar file h h') (l : Ledger) (tries : LockTries) (port : Port) :
    Agrees file (l.reserveBy tries port h) (l.reserveBy tries port h') := by
  have htried := hs.tryReserveBy l tries port
  unfold Ledger.reserveBy
  generalize l.tryReserveBy tries port h = x, l.tryReserveBy tries port h' = x' at htried ⊢
  cases htried with
  | @intro answer _ _ hs => cases answer <;> exact .intro hs

theorem entriesBy (hs : Similar file h h') (l : Ledger) (tries : LockTries) :
    Agrees file (l.entriesBy tries h) (l.entriesBy tries h') := by
  have hacquired := hs.acquireBy tries l.policy l.path
  unfold Ledger.entriesBy
  generalize h.acquireBy tries l.policy l.path = x, h'.acquireBy tries l.policy l.path = x'
    at hacquired ⊢
  cases hacquired with
  | @intro answer h₁ h₁' hs =>
    cases answer with
    | error e => exact .intro hs
    | ok handle =>
      have hread : h₁'.readLocked handle = h₁.readLocked handle := by
        rw [readLocked, hs.files, readLocked]
      dsimp only
      rw [hread]
      exact .intro (hs.release handle)

/-- Each call is answered the same. -/
theorem perform (hs : Similar file h h') (tries : LockTries) (c : LockCall) :
    Agrees file (c.perform tries h) (c.perform tries h') := by
  cases c with
  | acquire policy path => exact (hs.acquireBy tries policy path).map LockReply.acquired
  | tryReserve l port => exact (hs.tryReserveBy l tries port).map LockReply.tried
  | reserve l port => exact (hs.reserveBy l tries port).map LockReply.reserved
  | entries l => exact (hs.entriesBy l tries).map LockReply.listed

/-- Whatever happens, similar hosts stay so. -/
theorem step (hs : Similar file h h') {e : Later}
    (hfree : e.Contends h file → (.this, file) ∉ h.locks.records) :
    Agrees file (h.step e) (h'.step e) := by
  cases e with
  | call tries c => exact (hs.perform tries c).map some
  | rewrite handle text => exact .intro (hs.writeLocked handle text)
  | release handle => exact .intro (hs.release handle)
  | hold process path =>
    exact (hs.holdFile process fun hstat => hfree ⟨process, path, rfl, hstat⟩).map fun held =>
      some (LockReply.held held)
  | giveBack process f =>
    cases hs with
    | intro hid hl => exact .intro (.intro hid (hl.dropRecord (.other process) f))
  | exit process =>
    cases hs with
    | intro hid hl => exact .intro (.intro hid (hl.endProcess (.other process)))
  | elsewhere other =>
    cases hs with
    | intro hid hl => exact .intro (.intro hid hl)

/-- All that happens later is answered the same: by induction on what happens. -/
theorem run (hs : Similar file h h') {es : List Later} (hu : h.Undisputed file es) :
    Agrees file (h.run es) (h'.run es) := by
  induction es generalizing h h' with
  | nil => exact .intro hs
  | cons e es ih =>
    obtain ⟨hfree, hu⟩ := hu
    have hstep := hs.step hfree
    rw [Host.run, Host.run, hstep.answer]
    exact (ih hstep.similar hu).map _

end Similar

/-! ## Calls that come to nothing -/

/-- What opening the file of a path leaves: the host as it was, or, where the path names a place
with nothing there, the host with a new file, which is empty. -/
inductive Touched (h : Host) (path : Text) : Host → Prop where
  | asBefore (hthere : ∀ place, h.files.slot? path = some place → h.files.nodeAt place ≠ none) :
      Touched h path h
  | created {place : Place} (hslot : h.files.slot? path = some place)
      (hmissing : h.files.nodeAt place = none) :
      Touched h path { h with files := h.files.create place h.newFile }

/-- What is as it was after a call for the file of a path that came to nothing. -/
structure Unnoticed (path : Text) (h h' : Host) : Prop where
  files : h'.files = h.files
  /-- No handle is left. -/
  exclusive : h'.locks.exclusive = h.locks.exclusive
  /-- At most the record lock of this process on the file is lost. -/
  cost : h' = h ∨ ∃ id, h.files.stat path = .ok (.file id) ∧
    h' = { h with locks := h.locks.dropRecord .this id }
  /-- Nothing is lost once a handle on the file was released. -/
  released : ∀ handle : LockHandle, h.files.stat path = .ok (.file handle.opened.file) →
    h'.release handle = h.release handle
  /-- Whatever happens later is answered, and leaves the files, as if there had been no call, if no
  other process tries for the record lock of the file while this process has it. -/
  later : ∀ es, (∀ id, h.files.stat path = .ok (.file id) → h.Undisputed id es) →
    (h'.run es).1 = (h.run es).1 ∧ (h'.run es).2.files = (h.run es).2.files

namespace Unnoticed

theorem refl (path : Text) (h : Host) : Unnoticed path h h where
  files := rfl
  exclusive := rfl
  cost := .inl rfl
  released _ _ := rfl
  later _ _ := ⟨rfl, rfl⟩

/-- The loss of a record lock on the file is not noticed. -/
theorem dropRecord {path : Text} {h : Host} {id : FileId}
    (hstat : h.files.stat path = .ok (.file id)) :
    Unnoticed path h { h with locks := h.locks.dropRecord .this id } where
  files := rfl
  exclusive := rfl
  cost := .inr ⟨id, hstat, rfl⟩
  released handle hhandle := by
    rw [hstat] at hhandle
    cases hhandle
    simp only [release, Locks.dropRecord_dropRecord]
  later es hu := by
    obtain ⟨place, -, hnode⟩ := FileTree.stat_eq_file_iff.mp hstat
    have hs : Similar id h { h with locks := h.locks.dropRecord .this id } :=
      .intro (FileTree.mem_fileIds_of_nodeAt hnode) (Locks.alike_dropRecord id h.locks)
    have hrun := hs.run (hu id hstat)
    exact ⟨hrun.answer, hrun.similar.files⟩

end Unnoticed

namespace Opened

variable {h h₁ : Host} {path : Text} {place : Place} {id : FileId}

theorem touched (ho : Opened h place id h₁) (hslot : h.files.slot? path = some place) :
    h.Touched path h₁ := by
  cases ho with
  | found hnode =>
    refine .asBefore fun other hother => ?_
    cases hslot.symm.trans hother
    simp [hnode]
  | created hnode => exact .created hslot hnode

/-- The path leads to the file then. -/
theorem stat (ho : Opened h place id h₁) (hslot : h.files.slot? path = some place) :
    h₁.files.stat path = .ok (.file id) :=
  have hne := FileTree.ne_nil_of_slot? hslot
  FileTree.stat_eq_file_iff.mpr
    ⟨place, FileTree.slot?_of_directories (ho.directories hne) hslot, ho.nodeAt hne⟩

end Opened

/-- The locks of an open file are taken where they can be had. -/
theorem await_ok {h h' : Host} {policy : LockPolicy} {path : Text} {f : OpenFile}
    {answers : Nat → LockAnswer} {handle : LockHandle}
    (ha : h.await policy path f answers = (.ok handle, h')) :
    handle = ⟨path, f⟩ ∧ h' = { h with locks := h.locks.takeBoth f.descriptor f.file } := by
  unfold await at ha
  split at ha
  · cases ha
    exact ⟨rfl, rfl⟩
  · cases ha
  · cases ha

/-- The file of an open descriptor is closed again where its locks cannot be had, and its first try
did not obtain them. -/
theorem await_error {h h' : Host} {policy : LockPolicy} {path : Text} {f : OpenFile}
    {answers : Nat → LockAnswer} {e : Error}
    (ha : h.await policy path f answers = (.error e, h')) :
    h' = h.closeFile f ∧ answers 0 ≠ .obtained := by
  constructor
  · unfold await at ha
    split at ha <;> cases ha <;> rfl
  · intro hfirst
    rw [await_of_obtained (Lock.ends_obtained_iff.mpr
      ⟨Nat.zero_le _, hfirst, fun j hj => absurd hj j.not_lt_zero⟩)] at ha
    cases ha

/-- A handle that cannot be had is not noticed, but for the file that was created for it. It is
created only if the first try for locks that can be had does not obtain them. -/
theorem unnoticed_acquireBy {h h' : Host} {tries : LockTries} {policy : LockPolicy} {path : Text}
    {e : Error} (ha : h.acquireBy tries policy path = (.error e, h')) :
    ∃ h₁, h.Touched path h₁ ∧ (tries .obtained 0 = .obtained → h₁ = h) ∧ Unnoticed path h₁ h' := by
  unfold acquireBy at ha
  rcases h.openFile_cases path with ⟨hno, e', he⟩ | ⟨place, id, h₁, hslot, ho, hopen⟩
  · -- The path cannot be opened.
    rw [he] at ha
    cases ha
    exact ⟨h, .asBefore fun place hplace => by simp [hno place hplace], fun _ => rfl,
      .refl path h⟩
  · rw [hopen] at ha
    obtain ⟨rfl, hfirst⟩ := await_error ha
    refine ⟨h₁, ho.touched hslot, fun hsteady => ?_, ?_⟩
    · cases ho with
      | found hnode => rfl
      | created hnode =>
        -- Nobody has a lock of the new file, so the first try would have obtained its locks.
        refine absurd ?_ hfirst
        rw [lockAnswer_eq, if_pos (h.available_newFile _)]
        exact hsteady
    · rw [← ho.locks_eq, closeFile, Locks.close_newDescriptor]
      exact .dropRecord (ho.stat hslot)

/-- A reservation that cannot be tried is one for which there is no handle. -/
theorem acquireBy_of_tryReserveBy {l : Ledger} {tries : LockTries} {port : Port} {h : Host}
    {e : Error} (he : (l.tryReserveBy tries port h).1 = .error e) :
    h.acquireBy tries l.policy l.path = (.error e, (l.tryReserveBy tries port h).2) := by
  unfold Ledger.tryReserveBy at he ⊢
  cases ha : h.acquireBy tries l.policy l.path with
  | mk answer h' =>
    rw [ha] at he
    cases answer <;> cases he
    rfl

theorem acquireBy_of_entriesBy {l : Ledger} {tries : LockTries} {h : Host} {e : Error}
    (he : (l.entriesBy tries h).1 = .error e) :
    h.acquireBy tries l.policy l.path = (.error e, (l.entriesBy tries h).2) := by
  unfold Ledger.entriesBy at he ⊢
  cases ha : h.acquireBy tries l.policy l.path with
  | mk answer h' =>
    rw [ha] at he
    cases answer <;> cases he
    rfl

/-- A call that fails is one for which there is no handle. -/
theorem LockCall.acquireBy_of_error {c : LockCall} {tries : LockTries} {h : Host} {e : Error}
    (he : (c.perform tries h).1.error? = some e) :
    ∃ policy, h.acquireBy tries policy c.path = (.error e, (c.perform tries h).2) := by
  cases c with
  | acquire policy path => exact ⟨policy, Prod.ext (failure?_eq_some_iff.mp he) rfl⟩
  | tryReserve l port => exact ⟨l.policy, acquireBy_of_tryReserveBy (failure?_eq_some_iff.mp he)⟩
  | reserve l port => cases he
  | entries l => exact ⟨l.policy, acquireBy_of_entriesBy (failure?_eq_some_iff.mp he)⟩

/-- To take the locks of a file for a new descriptor and to give them back is to lose the record
lock on it. -/
theorem release_takeBoth (h : Host) (path : Text) (id : FileId) :
    ({ h with locks := h.locks.takeBoth h.locks.newDescriptor id } : Host).release
        ⟨path, ⟨h.locks.newDescriptor, id⟩⟩ =
      { h with locks := h.locks.dropRecord .this id } := by
  rw [← Locks.giveBack_takeBoth]
  rfl

/-- Listing the entries of a ledger opens its file, and costs at most the record lock of this
process on it. -/
theorem unnoticed_entriesBy {l : Ledger} {tries : LockTries} {h : Host} {m : Entries}
    (hm : (l.entriesBy tries h).1 = .ok m) :
    ∃ h₁, h.Touched l.path h₁ ∧ Unnoticed l.path h₁ (l.entriesBy tries h).2 := by
  unfold Ledger.entriesBy acquireBy at hm ⊢
  rcases h.openFile_cases l.path with ⟨-, e, he⟩ | ⟨place, id, h₁, hslot, ho, hopen⟩
  · rw [he] at hm
    cases hm
  · refine ⟨h₁, ho.touched hslot, ?_⟩
    rw [hopen] at hm ⊢
    cases ha : h₁.await l.policy l.path ⟨h.locks.newDescriptor, id⟩
        (tries (h₁.lockAnswer ⟨h.locks.newDescriptor, id⟩)) with
    | mk answer h₂ =>
      simp only [ha] at hm ⊢
      cases answer with
      | error e => cases hm
      | ok handle =>
        obtain ⟨rfl, rfl⟩ := await_ok ha
        dsimp only
        rw [← ho.locks_eq, release_takeBoth]
        exact .dropRecord (ho.stat hslot)

/-- A call that cannot open or lock its file, whatever its tries answered, leaves everything as it
was once the file was opened, and is not noticed by what happens afterwards; a reservation that
cannot be tried is none. Opening creates a missing file, which is empty and stays; where the tries
answer what the locks answer, no call that fails creates one. Listing the entries of a ledger is not
noticed either, but for the file that it creates if it was missing. -/
theorem errors_unnoticed (h : Host) (tries : LockTries) :
    (∀ (c : LockCall) e, (c.perform tries h).1.error? = some e →
        ∃ h₁, h.Touched c.path h₁ ∧ (tries .obtained 0 = .obtained → h₁ = h) ∧
          Unnoticed c.path h₁ (c.perform tries h).2) ∧
      (∀ (l : Ledger) port e, (l.tryReserveBy tries port h).1 = .error e →
        l.reserveBy tries port h = (false, (l.tryReserveBy tries port h).2)) ∧
      ∀ (l : Ledger) m, (l.entriesBy tries h).1 = .ok m →
        ∃ h₁, h.Touched l.path h₁ ∧ Unnoticed l.path h₁ (l.entriesBy tries h).2 := by
  refine ⟨fun c e he => ?_, fun l port e he => ?_, fun l m hm => unnoticed_entriesBy hm⟩
  · obtain ⟨policy, ha⟩ := LockCall.acquireBy_of_error he
    exact unnoticed_acquireBy ha
  · unfold Ledger.reserveBy
    cases ht : l.tryReserveBy tries port h with
    | mk answer h' =>
      rw [ht] at he
      cases he
      rfl

/-- A ledger that asks for its lock twice. -/
def hastyLedger : Ledger := { path := ['p'], policy := { attempts := 1 } }

/-- A host on which a handle has the file of the ledger. -/
def heldHost : Host := ((bare 1000).acquire {} ['p']).2

/-- The handle is released, another process tries for the lock of another file, and then the ledger
reserves a port. -/
def heldLater : List Later :=
  [.release ⟨['p'], ⟨0, 0⟩⟩, .hold 7 ['q'], .call .steady (.reserve hastyLedger 4000)]

/-- The other file does not exist, so it is not the one that the handle had. -/
theorem undisputed_heldLater (file : FileId) : heldHost.Undisputed file heldLater := by
  refine ⟨?_, ?_, ?_, trivial⟩
  · rintro ⟨_, _, heq, -⟩
    cases heq
  · rintro ⟨_, _, heq, hstat⟩
    cases heq
    have hmissing : (heldHost.release ⟨['p'], ⟨0, 0⟩⟩).files.stat ['q'] =
        .error (.system SystemError.noSuchFile) := by cbv
    cases hmissing.symm.trans hstat
  · rintro ⟨_, _, heq, -⟩
    cases heq

/-- The file is held elsewhere at the first try, and then the system has no lock left. -/
def locklessTries : LockTries := fun _ i => if i = 0 then .contended else .failed (.system 37)

/-- A reservation while the file is held fails, and the next one after the handle was released is
granted all the same. A missing file is created by a reservation whose second try for its lock
fails, and it is the file that a listing of the entries creates. -/
theorem errors_unnoticed_heldHost :
    (hastyLedger.tryReserve 4000 heldHost).1 = .error (.lockTimeout ['p'] 1) ∧
      hastyLedger.reserve 4000 heldHost = (false, (hastyLedger.tryReserve 4000 heldHost).2) ∧
      ((hastyLedger.tryReserve 4000 heldHost).2.run heldLater).1 =
        [none, some (.held true), some (.reserved true)] ∧
      (hastyLedger.tryReserveBy locklessTries 4000 (bare 1000)).1 = .error (.io (.system 37)) ∧
      (∃ h₁, (bare 1000).Touched ['p'] h₁ ∧
        Unnoticed ['p'] h₁ (hastyLedger.tryReserveBy locklessTries 4000 (bare 1000)).2) ∧
      (hastyLedger.entries (bare 1000)).1 = .ok OrderedMap.empty ∧
      ∃ h₁, (bare 1000).Touched ['p'] h₁ ∧
        Unnoticed ['p'] h₁ (hastyLedger.entries (bare 1000)).2 := by
  have htried : (hastyLedger.tryReserve 4000 heldHost).1 = .error (.lockTimeout ['p'] 1) := by cbv
  have hbroken : (hastyLedger.tryReserveBy locklessTries 4000 (bare 1000)).1 =
      .error (.io (.system 37)) := by cbv
  have hlisted : (hastyLedger.entries (bare 1000)).1 = .ok OrderedMap.empty := by cbv
  have hrun : (heldHost.run heldLater).1 =
      [none, some (.held true), some (.reserved true)] := by cbv
  obtain ⟨hfailed, hreserve, -⟩ := errors_unnoticed heldHost .steady
  obtain ⟨hfailed', -, -⟩ := errors_unnoticed (bare 1000) locklessTries
  obtain ⟨-, -, hentries⟩ := errors_unnoticed (bare 1000) .steady
  obtain ⟨h₁, -, hsame, hunnoticed⟩ :=
    hfailed (.tryReserve hastyLedger 4000) (.lockTimeout ['p'] 1) (by cbv)
  obtain ⟨h₂, htouched, -, hunnoticed'⟩ :=
    hfailed' (.tryReserve hastyLedger 4000) (.io (.system 37)) (by cbv)
  obtain rfl := hsame rfl
  have hlater := hunnoticed.later heldLater fun id _ => undisputed_heldLater id
  exact ⟨htried, hreserve _ _ _ htried, hlater.1.trans hrun, hbroken,
    ⟨h₂, htouched, hunnoticed'⟩, hlisted, hentries _ _ hlisted⟩

/-- The handle is released only after another process tried for the lock of its file. -/
def disputedLater : List Later :=
  [.hold 7 ['p'], .release ⟨['p'], ⟨0, 0⟩⟩, .call .steady (.reserve hastyLedger 4000)]

/-- Calls that fail are noticed in two ways. A missing file is there afterwards if the locks of the
new file cannot be had. And where a handle has the file, another process that tries for its lock
gets it, as closing the file again cost this process its record lock; the next reservation then
fails, which would have been granted. -/
theorem errors_noticed :
    ((bare 1000).files.stat ['p'] = .error (.system SystemError.noSuchFile) ∧
        (hastyLedger.tryReserveBy locklessTries 4000 (bare 1000)).1 = .error (.io (.system 37)) ∧
        (hastyLedger.tryReserveBy locklessTries 4000 (bare 1000)).2.files.stat ['p'] =
          .ok (.file 0)) ∧
      (hastyLedger.tryReserve 4000 heldHost).1 = .error (.lockTimeout ['p'] 1) ∧
      (heldHost.run disputedLater).1 = [some (.held false), none, some (.reserved true)] ∧
      ((hastyLedger.tryReserve 4000 heldHost).2.run disputedLater).1 =
        [some (.held true), none, some (.reserved false)] := by
  refine ⟨⟨?_, ?_, ?_⟩, ?_, ?_, ?_⟩ <;> cbv

end Host

end PortReservation
