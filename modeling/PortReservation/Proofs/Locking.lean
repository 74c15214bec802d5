import PortReservation.Proofs.Opening
import PortReservation.Proofs.Polling

/-!
# Taking and giving back locks

The locks of a file can be had while no descriptor has its exclusive lock and no other process its
record lock. A handle that is acquired has both; giving them back leaves the exclusive locks as they
were before, and the file can be locked again.

* `acquire_cases`: what acquiring a handle does.
* `exclusive_giveBack_takeBoth`: a descriptor that takes the locks and gives them back leaves the
  exclusive locks as they were.
-/

namespace PortReservation

namespace Locks

/-- Whether this process can have the locks of a file through a descriptor. -/
def Available (l : Locks) (d : Descriptor) (f : FileId) : Prop :=
  l.excludes d f = false ∧ l.recordExcludes .this f = false

instance (l : Locks) (d : Descriptor) (f : FileId) : Decidable (l.Available d f) :=
  inferInstanceAs (Decidable (_ ∧ _))

theorem tryLock_answer (l : Locks) (d : Descriptor) (f : FileId) :
    (l.tryLock d f).1 = if l.Available d f then .obtained else .contended := by
  have hr : (l.takeExclusive d f).recordExcludes .this f = l.recordExcludes .this f := rfl
  unfold tryLock Available
  rw [hr]
  split
  · next hx => simp [hx]
  · split
    · next hr => simp [hr]
    · next hx hr => simp [hx, hr]

theorem newDescriptor_ne {l : Locks} {e : Descriptor × FileId} (h : e ∈ l.exclusive) :
    e.1 ≠ l.newDescriptor :=
  Nat.ne_of_lt (lt_firstAbove (List.mem_map_of_mem h))

/-- A new descriptor is kept out by any exclusive lock of the file. -/
theorem excludes_newDescriptor (l : Locks) (f : FileId) :
    l.excludes l.newDescriptor f = false ↔ ∀ e ∈ l.exclusive, e.2 ≠ f := by
  simp only [excludes, List.any_eq_false, decide_eq_true_eq, not_and, Classical.not_not]
  exact forall₂_congr fun e he =>
    ⟨fun h hf => newDescriptor_ne he (h hf), fun h hf => absurd hf h⟩

theorem excludes_of_forall {l : Locks} {f : FileId} (h : ∀ e ∈ l.exclusive, e.2 ≠ f)
    (d : Descriptor) : l.excludes d f = false := by
  simp only [excludes, List.any_eq_false, decide_eq_true_eq, not_and]
  exact fun e he hf => absurd hf (h e he)

theorem mem_exclusive_takeBoth {l : Locks} {d : Descriptor} {f : FileId}
    {e : Descriptor × FileId} :
    e ∈ (l.takeBoth d f).exclusive ↔ e = (d, f) ∨ e ∈ l.exclusive := by
  by_cases he : e = (d, f)
  · simp [takeBoth, takeExclusive, takeRecord, he]
  · simp [takeBoth, takeExclusive, takeRecord, he]

/-- The locks after the locks of a file were given back and its descriptor was closed. -/
def giveBack (l : Locks) (d : Descriptor) (f : FileId) : Locks :=
  ((l.dropRecord .this f).dropExclusive d f).close d f

theorem exclusive_close (l : Locks) (d : Descriptor) (f : FileId) :
    (l.close d f).exclusive = l.exclusive.filter (· ≠ (d, f)) := rfl

theorem exclusive_giveBack (l : Locks) (d : Descriptor) (f : FileId) :
    (l.giveBack d f).exclusive = l.exclusive.filter (· ≠ (d, f)) := by
  simp [giveBack, close, dropRecord, dropExclusive, List.filter_filter]

theorem filter_newDescriptor (l : Locks) (f : FileId) :
    l.exclusive.filter (· ≠ (l.newDescriptor, f)) = l.exclusive :=
  List.filter_eq_self.mpr fun e he => by
    have hne := newDescriptor_ne he
    simp only [ne_eq, decide_not, Bool.not_eq_true', decide_eq_false_iff_not]
    rintro rfl
    exact hne rfl

/-- A descriptor that takes the locks of a file and gives them back leaves the exclusive locks as
they were. -/
theorem exclusive_giveBack_takeBoth (l : Locks) (f : FileId) :
    ((l.takeBoth l.newDescriptor f).giveBack l.newDescriptor f).exclusive = l.exclusive := by
  rw [exclusive_giveBack]
  simpa [takeBoth, takeExclusive, takeRecord] using filter_newDescriptor l f

theorem mem_records_takeBoth {l : Locks} {d : Descriptor} {f : FileId} {e : Process × FileId} :
    e ∈ (l.takeBoth d f).records ↔ e = (.this, f) ∨ e ∈ l.records := by
  by_cases he : e = (.this, f)
  · simp [takeBoth, takeExclusive, takeRecord, he]
  · simp [takeBoth, takeExclusive, takeRecord, he]

/-- This process loses its record lock of a file when it closes a descriptor of the file. -/
theorem mem_records_close {l : Locks} {d : Descriptor} {f : FileId} {e : Process × FileId} :
    e ∈ (l.close d f).records ↔ e ∈ l.records ∧ e ≠ (.this, f) := by
  simp [close, dropRecord, dropExclusive]

theorem mem_records_giveBack {l : Locks} {d : Descriptor} {f : FileId} {e : Process × FileId} :
    e ∈ (l.giveBack d f).records ↔ e ∈ l.records ∧ e ≠ (.this, f) := by
  rw [giveBack, mem_records_close]
  simp [dropRecord, dropExclusive]

/-- Of the record locks, a descriptor that takes the locks of a file and gives them back costs that
of this process on the file. -/
theorem mem_records_giveBack_takeBoth {l : Locks} {d : Descriptor} {f : FileId}
    {e : Process × FileId} :
    e ∈ ((l.takeBoth d f).giveBack d f).records ↔ e ∈ l.records ∧ e ≠ (.this, f) := by
  rw [mem_records_giveBack, mem_records_takeBoth]
  exact and_congr_left fun hne => or_iff_right hne

/-- Locks that were available are so again when they were taken and given back. -/
theorem available_giveBack_takeBoth {l : Locks} {f : FileId}
    (h : l.Available l.newDescriptor f) (d : Descriptor) :
    ((l.takeBoth l.newDescriptor f).giveBack l.newDescriptor f).Available d f := by
  constructor
  · apply excludes_of_forall
    rw [exclusive_giveBack_takeBoth]
    exact (excludes_newDescriptor l f).mp h.1
  · have hrec := h.2
    simp only [recordExcludes, List.any_eq_false, decide_eq_true_eq] at hrec ⊢
    exact fun e he => hrec e (mem_records_giveBack_takeBoth.mp he).1

end Locks

namespace Host

theorem lockAnswer_eq (h : Host) (f : OpenFile) :
    h.lockAnswer f = if h.locks.Available f.descriptor f.file then .obtained else .contended :=
  Locks.tryLock_answer h.locks f.descriptor f.file

/-- What acquiring a handle does: the path cannot be opened, or its file is open but its locks are
held elsewhere at every try, or the handle has them. -/
theorem acquire_cases (h : Host) (policy : LockPolicy) (path : Text) :
    ((∀ place, h.files.slot? path = some place → h.files.nodeAt place = some .directory) ∧
        ∃ e, h.acquire policy path = (.error (.io e), h)) ∨
      ∃ place id h', h.files.slot? path = some place ∧ Opened h place id h' ∧
        (¬h.locks.Available h.locks.newDescriptor id ∧
            h.acquire policy path = (.error (.lockTimeout path policy.attempts),
              h'.closeFile ⟨h.locks.newDescriptor, id⟩) ∨
          h.locks.Available h.locks.newDescriptor id ∧
            h.acquire policy path = (.ok ⟨path, ⟨h.locks.newDescriptor, id⟩⟩,
              { h' with locks := h.locks.takeBoth h.locks.newDescriptor id })) := by
  rw [acquire_eq]
  rcases h.openFile_cases path with ⟨hno, e, he⟩ | ⟨place, id, h', hslot, hopened, hopen⟩
  · exact .inl ⟨hno, e, by rw [he]⟩
  · have hlocks : h'.locks = h.locks := by rw [hopened.eq_with_files]
    refine .inr ⟨place, id, h', hslot, hopened, ?_⟩
    by_cases hav : h.locks.Available h.locks.newDescriptor id
    · refine .inr ⟨hav, ?_⟩
      have hanswer : h'.lockAnswer ⟨h.locks.newDescriptor, id⟩ = .obtained := by
        rw [lockAnswer_eq, hlocks, if_pos hav]
      -- The first try has the locks.
      simp only [hopen]
      rw [await_of_obtained (Lock.ends_obtained_iff.mpr
        ⟨Nat.zero_le _, hanswer, fun j hj => absurd hj j.not_lt_zero⟩), hlocks]
    · refine .inl ⟨hav, ?_⟩
      have hanswer : h'.lockAnswer ⟨h.locks.newDescriptor, id⟩ = .contended := by
        rw [lockAnswer_eq, hlocks, if_neg hav]
      -- Nothing else happens meanwhile, so the locks are held elsewhere at every try.
      simp only [hopen]
      rw [await_of_timedOut (Lock.ends_timedOut_iff.mpr ⟨rfl, fun _ _ => hanswer⟩)]

theorem locks_release (h : Host) (handle : LockHandle) :
    (h.release handle).locks =
      h.locks.giveBack handle.opened.descriptor handle.opened.file := rfl

@[simp] theorem files_release (h : Host) (handle : LockHandle) :
    (h.release handle).files = h.files := rfl

@[simp] theorem now_release (h : Host) (handle : LockHandle) (c : ClockSource) :
    (h.release handle).now c = h.now c := by cases c <;> rfl

@[simp] theorem now_closeFile (h : Host) (f : OpenFile) (c : ClockSource) :
    (h.closeFile f).now c = h.now c := by cases c <;> rfl

theorem Opened.now_eq {h h' : Host} {place : Place} {id : FileId} (ho : Opened h place id h')
    (c : ClockSource) : h'.now c = h.now c := by
  rw [ho.eq_with_files]
  cases c <;> rfl

theorem Opened.locks_eq {h h' : Host} {place : Place} {id : FileId} (ho : Opened h place id h') :
    h'.locks = h.locks := by
  rw [ho.eq_with_files]

end Host

end PortReservation
