import PortReservation.Proofs.Session.Basic

/-!
# What keeps other processes out

A handle has the record lock of this process on its file too, which keeps out the processes that
take no other lock. But that lock belongs to the process: another call of this process that opens
the file finds it locked and closes it, and with that the record lock is gone, while the handle is
still there. From then on the handle keeps other processes out no more.

* `LockEvent.Tries`: which calls open a file.
* `record_lockStep`: such a call costs the record lock of a file with a handle, and nothing else
  does.
* `foreign_lockStep`: while this process has a record lock, no other process gets it.
* `record_obtained_iff`: when another process gets the record lock of a file with a handle.
-/

namespace PortReservation

namespace Locks

variable {l : Locks} {f : FileId}

/-- Another process gets a record lock that nobody else has. -/
theorem tryRecord_eq_true_iff {process : Nat} :
    (l.tryRecord (.other process) f).1 = true ↔
      (.this, f) ∉ l.records ∧ ∀ m, (.other m, f) ∈ l.records → m = process := by
  have hfree : (l.tryRecord (.other process) f).1 = true ↔
      l.recordExcludes (.other process) f = false := by
    unfold tryRecord
    cases l.recordExcludes (.other process) f <;> simp
  rw [hfree]
  simp only [recordExcludes, List.any_eq_false, decide_eq_true_eq, not_and, Classical.not_not]
  constructor
  · intro hall
    refine ⟨fun hthis => ?_, fun m hm => Process.other.inj (hall (.other m, f) hm rfl)⟩
    cases hall (.this, f) hthis rfl
  · rintro ⟨hthis, hother⟩ ⟨p, g⟩ he rfl
    cases p with
    | this => exact absurd he hthis
    | other m => rw [hother m he]

theorem mem_records_tryRecord {process : Nat} {e : Process × FileId}
    (he : e ∈ (l.tryRecord (.other process) f).2.records) :
    e ∈ l.records ∨ e = (.other process, f) ∧ (.this, f) ∉ l.records := by
  by_cases hfree : l.recordExcludes (.other process) f = true
  · rw [tryRecord, if_pos hfree] at he
    exact .inl he
  · have hgot : (l.tryRecord (.other process) f).1 = true := by rw [tryRecord, if_neg hfree]
    rw [tryRecord, if_neg hfree] at he
    rcases List.mem_cons.mp he with rfl | he
    · exact .inr ⟨rfl, (tryRecord_eq_true_iff.mp hgot).1⟩
    · exact .inl (List.mem_filter.mp he).1

end Locks

/-! ## Calls that open a file -/

/-- The path that a call of this process opens. -/
def LockEvent.path? : LockEvent → Option Text
  | .acquire _ path => some path
  | .tryReserve l _ | .reserve l _ | .entries l => some l.path
  | _ => none

/-- Whether something is a call of this process that opens a file. -/
def LockEvent.Tries (e : LockEvent) (s : Session) (f : FileId) : Prop :=
  ∃ path, e.path? = some path ∧ s.host.files.stat path = .ok (.file f)

namespace LockEvent

variable {e : LockEvent} {s : Session} {f : FileId}

theorem tries_iff {path : Text} (hpath : e.path? = some path) :
    e.Tries s f ↔ s.host.files.stat path = .ok (.file f) := by
  simp [Tries, hpath]

theorem not_tries (hpath : e.path? = none) : ¬e.Tries s f := by
  simp [Tries, hpath]

end LockEvent

namespace Host

variable {h h₁ : Host} {policy : LockPolicy} {path : Text} {handle : LockHandle} {e : Error}
  {d : Descriptor} {f : FileId}

/-- An attempt to have a handle that fails costs this process its record lock on the file that the
path leads to. -/
theorem record_of_acquire_error (ha : h.acquire policy path = (.error e, h₁)) (f : FileId) :
    (.this, f) ∈ h₁.locks.records ↔
      (.this, f) ∈ h.locks.records ∧ h.files.stat path ≠ .ok (.file f) := by
  rcases acquire_error_cases ha with ⟨hno, rfl⟩ | ⟨id, hs, -, -, rfl⟩
  · simp [hno f]
  · rw [closeFile, Locks.mem_records_close, hs]
    simp [eq_comm]

/-- A handle that can be had is not on a locked file, and neither does its path lead to one. -/
theorem ne_of_acquire_ok (hlocked : (d, f) ∈ h.locks.exclusive)
    (ha : h.acquire policy path = (.ok handle, h₁)) :
    f ≠ handle.opened.file ∧ h.files.stat path ≠ .ok (.file f) := by
  obtain ⟨place, hacq⟩ := acquire_ok ha
  refine ⟨hacq.file_ne hlocked, fun hs => ?_⟩
  rw [acquire_of_not_available hs (not_available_of_locked hlocked)] at ha
  cases ha

/-- A handle that is had changes no record lock on a locked file. -/
theorem record_of_acquire_ok (hlocked : (d, f) ∈ h.locks.exclusive)
    (ha : h.acquire policy path = (.ok handle, h₁)) :
    (.this, f) ∈ h₁.locks.records ↔
      (.this, f) ∈ h.locks.records ∧ h.files.stat path ≠ .ok (.file f) := by
  obtain ⟨hne, hstat⟩ := ne_of_acquire_ok hlocked ha
  obtain ⟨place, hacq⟩ := acquire_ok ha
  rw [hacq.locks, Locks.mem_records_takeBoth]
  simp [hne, hstat]

/-- A visit costs this process its record lock on a locked file if its path leads there. -/
theorem Visit.record (hv : h.Visit policy path h₁) (hlocked : (d, f) ∈ h.locks.exclusive) :
    (.this, f) ∈ h₁.locks.records ↔
      (.this, f) ∈ h.locks.records ∧ h.files.stat path ≠ .ok (.file f) := by
  cases hv with
  | refused ha => exact record_of_acquire_error ha f
  | served ha hlocks =>
    rw [locks_release, hlocks, Locks.mem_records_giveBack, record_of_acquire_ok hlocked ha]
    simp [(ne_of_acquire_ok hlocked ha).1]

end Host

/-! ## What an event does to record locks -/

namespace Session

variable {s : Session} {handle : LockHandle}

/-- The record lock of this process on a file with a handle is lost by a call that opens the file,
and by nothing else. -/
theorem record_lockStep (hs : s.Sound) (hhandle : handle ∈ s.handles) {e : LockEvent}
    (hkept : e ≠ .release handle) :
    (.this, handle.opened.file) ∈ (s.lockStep e).host.locks.records ↔
      (.this, handle.opened.file) ∈ s.host.locks.records ∧ ¬e.Tries s handle.opened.file := by
  have hlocked := hs.locked handle hhandle
  cases e with
  | acquire policy path =>
    rw [LockEvent.tries_iff rfl]
    show _ ∈ (s.acquire policy path).host.locks.records ↔ _
    unfold acquire
    split
    · next ha => exact Host.record_of_acquire_error ha _
    · next ha => exact Host.record_of_acquire_ok hlocked ha
  | release other =>
    rw [and_iff_left (LockEvent.not_tries rfl)]
    show _ ∈ (s.release other).host.locks.records ↔ _
    unfold release
    split
    · next hother =>
      have hne : handle.opened.file ≠ other.opened.file := by
        intro hfile
        have heq := hs.eq_of_file hhandle hother hfile
        exact hkept (heq ▸ rfl)
      rw [Host.locks_release, Locks.mem_records_giveBack]
      simp [hne]
    · rfl
  | tryReserve l port =>
    rw [LockEvent.tries_iff rfl]
    exact (l.visit_tryReserve port s.host).record hlocked
  | reserve l port =>
    rw [LockEvent.tries_iff rfl]
    exact (l.visit_reserve port s.host).record hlocked
  | entries l =>
    rw [LockEvent.tries_iff rfl]
    exact (l.visit_entries s.host).record hlocked
  | hold process path =>
    rw [and_iff_left (LockEvent.not_tries rfl)]
    simp only [lockStep]
    rcases s.host.holdFile_cases process path with heq | ⟨place, id, h', -, -, heq⟩
    · rw [heq]
    · rw [heq]
      unfold Locks.tryRecord
      split <;> simp [Locks.takeRecord]
  | giveBack process file =>
    rw [and_iff_left (LockEvent.not_tries rfl)]
    simp [lockStep, Locks.dropRecord]
  | exit process =>
    rw [and_iff_left (LockEvent.not_tries rfl)]
    simp [lockStep, Host.endProcess, Locks.endProcess]
  | elsewhere h =>
    rw [and_iff_left (LockEvent.not_tries rfl)]
    rfl

/-- While this process has the record lock of a file, no other process gets it. -/
theorem foreign_lockStep {e : LockEvent} {f : FileId} {process : Nat}
    (hthis : (.this, f) ∈ s.host.locks.records)
    (hother : (.other process, f) ∈ (s.lockStep e).host.locks.records) :
    (.other process, f) ∈ s.host.locks.records := by
  have hpassed : ∀ {h : Host}, s.host.Passed h → (.other process, f) ∈ h.locks.records →
      (.other process, f) ∈ s.host.locks.records := fun hp => (hp.others _ (by simp)).mp
  cases e with
  | acquire policy path =>
    replace hother : _ ∈ (s.acquire policy path).host.locks.records := hother
    unfold acquire at hother
    split at hother
    · next ha => exact hpassed (Host.passed_of_acquire_error ha) hother
    · next ha =>
      obtain ⟨place, hacq⟩ := Host.acquire_ok ha
      rw [hacq.locks, Locks.mem_records_takeBoth] at hother
      exact hother.resolve_left (by simp)
  | release other =>
    replace hother : _ ∈ (s.release other).host.locks.records := hother
    unfold release at hother
    split at hother
    · rw [Host.locks_release, Locks.mem_records_giveBack] at hother
      exact hother.1
    · exact hother
  | tryReserve l port => exact hpassed (l.visit_tryReserve port s.host).passed hother
  | reserve l port => exact hpassed (l.visit_reserve port s.host).passed hother
  | entries l => exact hpassed (l.visit_entries s.host).passed hother
  | hold number path =>
    simp only [lockStep] at hother
    rcases s.host.holdFile_cases number path with heq | ⟨place, id, h', -, -, heq⟩
    · rwa [heq] at hother
    · rw [heq] at hother
      refine (Locks.mem_records_tryRecord hother).resolve_right ?_
      rintro ⟨hnew, hfree⟩
      cases hnew
      exact hfree hthis
  | giveBack number file => exact (List.mem_filter.mp hother).1
  | exit number => exact (List.mem_filter.mp hother).1
  | elsewhere h => exact hother

/-! ## While a handle is there -/

/-- Whether one of some events was a call of this process that opened a file. -/
def Tried (s : Session) (es : List LockEvent) (f : FileId) : Prop :=
  ∃ before e after, es = before ++ e :: after ∧ e.Tries (s.run (before.map .locking)) f

theorem not_tried_nil (s : Session) (f : FileId) : ¬s.Tried [] f := by
  rintro ⟨before, e, after, heq, -⟩
  simp at heq

theorem tried_concat {es : List LockEvent} {e : LockEvent} {f : FileId} :
    s.Tried (es ++ [e]) f ↔ s.Tried es f ∨ e.Tries (s.run (es.map .locking)) f := by
  constructor
  · rintro ⟨before, e', after, heq, htries⟩
    rcases List.eq_nil_or_concat after with rfl | ⟨after', last, rfl⟩
    · obtain ⟨rfl, hlast⟩ := List.append_inj' heq rfl
      cases hlast
      exact .inr htries
    · rw [List.concat_eq_append, ← List.cons_append, ← List.append_assoc] at heq
      obtain ⟨rfl, -⟩ := List.append_inj' heq rfl
      exact .inl ⟨before, e', after', rfl, htries⟩
  · rintro (⟨before, e', after, rfl, htries⟩ | htries)
    · exact ⟨before, e', after ++ [e], by simp, htries⟩
    · exact ⟨es, e, [], rfl, htries⟩

/-- What is known of the record locks on the file of a handle. -/
structure Guarded (s : Session) (handle : LockHandle) (tried : Prop) : Prop where
  live : handle ∈ s.handles
  record : (.this, handle.opened.file) ∈ s.host.locks.records ↔ ¬tried
  alone : ¬tried → ∀ process, (.other process, handle.opened.file) ∉ s.host.locks.records

/-- A new handle has the record lock of its file. -/
theorem guarded_of_acquire {h : Host} {policy : LockPolicy} {path : Text}
    (ha : s.host.acquire policy path = (.ok handle, h)) :
    Guarded ⟨h, handle :: s.handles⟩ handle False := by
  obtain ⟨place, hacq⟩ := Host.acquire_ok ha
  have hfree := ((Locks.available_newDescriptor_iff _ _).mp hacq.available).2
  -- The locks were available, so no other process had a record lock.
  refine ⟨List.mem_cons_self, ?_, fun _ process hother => ?_⟩
  · rw [hacq.locks, Locks.mem_records_takeBoth]
    simp
  · rw [hacq.locks, Locks.mem_records_takeBoth] at hother
    exact hfree _ (hother.resolve_left (by simp)) (by simp) rfl

theorem Guarded.lockStep {tried : Prop} (hg : s.Guarded handle tried) (hs : s.Sound)
    {e : LockEvent} (hkept : e ≠ .release handle) :
    (s.lockStep e).Guarded handle (tried ∨ e.Tries s handle.opened.file) where
  live := mem_handles_step (e := .locking e) hg.live fun heq => hkept (Event.locking.inj heq)
  record := by rw [record_lockStep hs hg.live hkept, hg.record, not_or]
  alone hno process hother := by
    obtain ⟨hnot, -⟩ := not_or.mp hno
    exact hg.alone hnot process (foreign_lockStep (hg.record.mpr hnot) hother)

/-- The record locks on the file of a handle, after any events but its release: by induction on the
events. -/
theorem guarded_run {tried : Prop} (hg : s.Guarded handle tried) (hs : s.Sound)
    {es : List LockEvent} (hkept : .release handle ∉ es) :
    (s.run (es.map .locking)).Guarded handle (tried ∨ s.Tried es handle.opened.file) := by
  induction es using List.reverseRecOn with
  | nil =>
    have hnot : ¬s.Tried [] handle.opened.file := s.not_tried_nil _
    simpa [run, hnot] using hg
  | append_singleton es e ih =>
    have hes : .release handle ∉ es := fun hmem => hkept (List.mem_append_left _ hmem)
    have he : e ≠ .release handle := by
      rintro rfl
      exact hkept (List.mem_append_right _ List.mem_cons_self)
    rw [List.map_append, List.map_singleton, run_concat, tried_concat, ← or_assoc]
    exact (ih hes).lockStep (hs.run _) he

/-- While a handle is there, another process has the record lock of its file only if a call of this
process opened the file since the handle was acquired, and gets it exactly if one did and no third
process has it. -/
theorem record_obtained_iff {s s₁ s₂ : Session} (hs : s.Reached) {policy : LockPolicy}
    {path : Text} {handle : LockHandle}
    (hacquire : s.host.acquire policy path = (.ok handle, s₁.host))
    (hhandles : s₁.handles = handle :: s.handles) {es : List LockEvent}
    (hkept : .release handle ∉ es) (hrun : s₂ = s₁.run (es.map .locking)) :
    handle ∈ s₂.handles ∧
      (∀ process, (.other process, handle.opened.file) ∈ s₂.host.locks.records →
        s₁.Tried es handle.opened.file) ∧
      ∀ process, (s₂.host.locks.tryRecord (.other process) handle.opened.file).1 = true ↔
        s₁.Tried es handle.opened.file ∧
          ∀ third, (.other third, handle.opened.file) ∈ s₂.host.locks.records →
            third = process := by
  obtain ⟨h₁, handles⟩ := s₁
  cases hhandles
  subst hrun
  have hguarded := guarded_run (guarded_of_acquire hacquire) (hs.sound.acquired hacquire) hkept
  rw [false_or] at hguarded
  obtain ⟨hlive, hrecord, halone⟩ := hguarded
  refine ⟨hlive, fun process hother => ?_, fun process => ?_⟩
  · by_contra hnot
    exact halone hnot process hother
  · rw [Locks.tryRecord_eq_true_iff, hrecord, Classical.not_not]

/-- The handle that is acquired on a host without files. -/
def loneHandle : LockHandle := ⟨['p'], ⟨0, 0⟩⟩

/-- The session with that handle. -/
def lone : Session := ⟨((Host.bare 0).acquire {} ['p']).2, [loneHandle]⟩

/-- This process asks in vain for a second handle on the file, and then another process tries for
its record lock. -/
def secondAsked : List LockEvent := [.acquire { attempts := 0 } ['p'], .hold 7 ['p']]

/-- The other process gets it, though the handle is still there. -/
theorem record_obtained_iff_secondAsked :
    (Host.bare 0).acquire {} ['p'] = (.ok loneHandle, lone.host) ∧
      .release loneHandle ∉ secondAsked ∧
      (.other 7, loneHandle.opened.file) ∈
        (lone.run (secondAsked.map .locking)).host.locks.records ∧
      loneHandle ∈ (lone.run (secondAsked.map .locking)).handles ∧
      (∀ process, (.other process, loneHandle.opened.file) ∈
          (lone.run (secondAsked.map .locking)).host.locks.records →
        lone.Tried secondAsked loneHandle.opened.file) ∧
      ∀ process, ((lone.run (secondAsked.map .locking)).host.locks.tryRecord (.other process)
            loneHandle.opened.file).1 = true ↔
        lone.Tried secondAsked loneHandle.opened.file ∧
          ∀ third, (.other third, loneHandle.opened.file) ∈
              (lone.run (secondAsked.map .locking)).host.locks.records →
            third = process := by
  have hanswer : ((Host.bare 0).acquire {} ['p']).1 = .ok loneHandle := by cbv
  have hacquire : (Host.bare 0).acquire {} ['p'] = (.ok loneHandle, lone.host) :=
    Prod.ext hanswer rfl
  have hkept : .release loneHandle ∉ secondAsked := by simp [secondAsked]
  have hrecords : (lone.run (secondAsked.map .locking)).host.locks.records = [(.other 7, 0)] := by
    cbv
  have hstart : Reached ⟨Host.bare 0, []⟩ := ⟨Host.bare 0, [], rfl⟩
  refine ⟨hacquire, hkept, ?_, record_obtained_iff hstart hacquire rfl hkept rfl⟩
  rw [hrecords]
  exact List.mem_singleton.mpr rfl

end Session

end PortReservation
