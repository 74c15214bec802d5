import PortReservation.Environment
import PortReservation.Lock.Table
import PortReservation.Network
import PortReservation.Time.Clock
import PortReservation.Time.Timestamp

/-!
# Hosts

The state of a machine as the reservation of ports sees it: its files and the locks on them, its
network, the environment variables of this process, and two clocks.

* `locks_openFile`: opening a file takes no lock.
-/

namespace PortReservation

/-- The state of a machine. -/
structure Host where
  files : FileTree := {}
  locks : Locks := {}
  network : Network
  environment : Environment := OrderedMap.empty
  clock : Clock := {}
  systemTime : Millis

/-- An open descriptor of a file. -/
structure OpenFile where
  descriptor : Descriptor
  file : FileId
  deriving DecidableEq

namespace Host

/-- A host without files, locks and listeners on which any address can be bound. -/
def bare (time : Millis) : Host where
  network := { bindable := fun _ => true, picks := fun _ => 49152 }
  systemTime := time

/-- The time that a clock shows. -/
def now (h : Host) : ClockSource → Millis
  | .manual => h.clock.now
  | .system => h.systemTime

/-- The time of the machine as a time stamp. -/
def timestamp (h : Host) : Text := Timestamp.render h.systemTime

/-- The value of an environment variable. -/
def variableValue (h : Host) (name : Text) : Option Text := h.environment.value? name

/-- A file that has no name and no lock. -/
def newFile (h : Host) : FileId := firstAbove (h.files.fileIds ++ h.locks.files)

/-- Opens the file of a path; a missing one is created. -/
def openFile (h : Host) (path : Text) : Except IoError OpenFile × Host :=
  match h.files.openOrCreate h.newFile path with
  | .error e => (.error e, h)
  | .ok (file, files) => (.ok ⟨h.locks.newDescriptor, file⟩, { h with files })

/-- Closes a descriptor. -/
def closeFile (h : Host) (f : OpenFile) : Host :=
  { h with locks := h.locks.close f.descriptor f.file }

/-- The octets of a file, read by this process; none if the path leads to no file. -/
def readPath (h : Host) (path : Text) : Option (List UInt8) × Host :=
  match h.files.stat path with
  | .ok (.file file) =>
    (some (h.files.contents file), h.closeFile ⟨h.locks.newDescriptor, file⟩)
  | _ => (none, h)

/-- Writes a file anew, by this process. -/
def writePath (h : Host) (path : Text) (octets : List UInt8) : Host :=
  match h.openFile path with
  | (.error _, h) => h
  | (.ok f, h) => { h with files := h.files.write f.file octets }.closeFile f

/-- Another process opens a file, which is created if it is missing, and tries for its record
lock. -/
def holdFile (h : Host) (process : Nat) (path : Text) : Bool × Host :=
  match h.files.openOrCreate h.newFile path with
  | .error _ => (false, h)
  | .ok (file, files) =>
    let (held, locks) := h.locks.tryRecord (.other process) file
    (held, { h with files, locks })

/-- Another process ends. -/
def endProcess (h : Host) (process : Nat) : Host :=
  { h with locks := h.locks.endProcess (.other process) }

theorem now_network (h : Host) (network : Network) (c : ClockSource) :
    ({ h with network } : Host).now c = h.now c := by
  cases c <;> rfl

/-- Opening a file takes no lock. -/
@[simp] theorem locks_openFile (h : Host) (path : Text) : (h.openFile path).2.locks = h.locks := by
  unfold openFile
  split <;> rfl

end Host

end PortReservation
