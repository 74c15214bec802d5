import PortReservation.Host
import PortReservation.Lock.Polling
import PortReservation.Text.Utf8

/-!
# Lock handles

A handle is an open file whose locks this process holds until the handle is released. The file is
created if it is missing.

* `contents_writeLocked`: what a handle wrote is what the file holds.
-/

namespace PortReservation

/-- An open file whose locks are held. -/
structure LockHandle where
  path : Text
  opened : OpenFile
  deriving DecidableEq

namespace Host

/-- What a try for the locks of an open file answers. -/
def lockAnswer (h : Host) (f : OpenFile) : LockAnswer := (h.locks.tryLock f.descriptor f.file).1

/-- Polls for the locks of an open file, whose tries answer as given. Where the locks cannot be had,
the file is closed again. -/
def await (h : Host) (policy : LockPolicy) (path : Text) (f : OpenFile)
    (answers : Nat → LockAnswer) : Except Error LockHandle × Host :=
  match Lock.poll policy answers with
  | (.obtained, _) =>
    (.ok ⟨path, f⟩, { h with locks := h.locks.takeBoth f.descriptor f.file })
  | (.failed e, _) => (.error (.io e), h.closeFile f)
  | (.timedOut, p) => (.error (.lockTimeout path p.retries), h.closeFile f)

/-- Opens a file and polls for its locks, with tries that answer as given. -/
def acquireBy (h : Host) (tries : LockTries) (policy : LockPolicy) (path : Text) :
    Except Error LockHandle × Host :=
  match h.openFile path with
  | (.error e, h) => (.error (.io e), h)
  | (.ok f, h) => h.await policy path f (tries (h.lockAnswer f))

/-- Opens a file and polls for its locks. Nothing else happens on the host meanwhile, so every try
meets the same locks. -/
def acquire (h : Host) (policy : LockPolicy) (path : Text) : Except Error LockHandle × Host :=
  h.acquireBy .steady policy path

theorem acquire_eq (h : Host) (policy : LockPolicy) (path : Text) :
    h.acquire policy path =
      match h.openFile path with
      | (.error e, h) => (.error (.io e), h)
      | (.ok f, h) => h.await policy path f fun _ => h.lockAnswer f := rfl

/-- Gives the locks of a handle back and closes its file. -/
def release (h : Host) (handle : LockHandle) : Host :=
  let f := handle.opened
  { h with locks := (h.locks.dropRecord .this f.file).dropExclusive f.descriptor f.file }.closeFile
    f

/-- The text of a locked file; octets that are no UTF-8 are replaced. -/
def readLocked (h : Host) (handle : LockHandle) : Text :=
  Utf8.decode (h.files.contents handle.opened.file)

/-- Replaces the text of a locked file. -/
def writeLocked (h : Host) (handle : LockHandle) (text : Text) : Host :=
  { h with files := h.files.write handle.opened.file (Utf8.encode text) }

/-- What a handle wrote is what the file holds. -/
theorem contents_writeLocked (h : Host) (handle : LockHandle) (text : Text) :
    (h.writeLocked handle text).files.contents handle.opened.file = Utf8.encode text := by
  simp [writeLocked]

end Host

end PortReservation
