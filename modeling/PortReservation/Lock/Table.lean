import PortReservation.Error.Basic
import PortReservation.Files.Tree

/-!
# Locks on files

Two kinds of locks, which do not see each other. An exclusive lock belongs to an open descriptor: at
most one descriptor has it on a file. A record lock belongs to a process: at most one process has it
on a file, and a process that closes any descriptor of a file loses its record lock on that file.
This process excludes both kinds of holders by taking both locks.
-/

namespace PortReservation

/-- The number of an open descriptor of this process. -/
abbrev Descriptor := Nat

/-- A process that can hold record locks: this one, or another one. -/
inductive Process where
  | this
  | other (number : Nat)
  deriving DecidableEq

/-- What a single try for a lock answers. -/
inductive LockAnswer where
  | obtained
  /-- The lock is held elsewhere. -/
  | contended
  | failed (cause : IoError)
  deriving DecidableEq

/-- The locks that are held. -/
structure Locks where
  exclusive : List (Descriptor × FileId) := []
  records : List (Process × FileId) := []
  deriving DecidableEq

namespace Locks

/-- The files on which there is a lock. -/
def files (l : Locks) : List FileId := l.exclusive.map (·.2) ++ l.records.map (·.2)

/-- A descriptor that has no lock. -/
def newDescriptor (l : Locks) : Descriptor := firstAbove (l.exclusive.map (·.1))

/-- Whether a descriptor other than `d` has the exclusive lock of a file. -/
def excludes (l : Locks) (d : Descriptor) (f : FileId) : Bool :=
  l.exclusive.any fun e => e.2 = f ∧ e.1 ≠ d

/-- Whether a process other than `p` has the record lock of a file. -/
def recordExcludes (l : Locks) (p : Process) (f : FileId) : Bool :=
  l.records.any fun e => e.2 = f ∧ e.1 ≠ p

def takeExclusive (l : Locks) (d : Descriptor) (f : FileId) : Locks :=
  { l with exclusive := (d, f) :: l.exclusive.filter (· ≠ (d, f)) }

def dropExclusive (l : Locks) (d : Descriptor) (f : FileId) : Locks :=
  { l with exclusive := l.exclusive.filter (· ≠ (d, f)) }

def takeRecord (l : Locks) (p : Process) (f : FileId) : Locks :=
  { l with records := (p, f) :: l.records.filter (· ≠ (p, f)) }

def dropRecord (l : Locks) (p : Process) (f : FileId) : Locks :=
  { l with records := l.records.filter (· ≠ (p, f)) }

/-- The locks with both locks of a file held by a descriptor of this process. -/
def takeBoth (l : Locks) (d : Descriptor) (f : FileId) : Locks :=
  (l.takeExclusive d f).takeRecord .this f

/-- Tries for the exclusive lock of a file, then for the record lock; without the second the first
is given back. -/
def tryLock (l : Locks) (d : Descriptor) (f : FileId) : LockAnswer × Locks :=
  if l.excludes d f then (.contended, l)
  else if (l.takeExclusive d f).recordExcludes .this f then
    (.contended, (l.takeExclusive d f).dropExclusive d f)
  else (.obtained, l.takeBoth d f)

/-- Another process tries for the record lock of a file. -/
def tryRecord (l : Locks) (p : Process) (f : FileId) : Bool × Locks :=
  if l.recordExcludes p f then (false, l) else (true, l.takeRecord p f)

/-- A descriptor of a file is closed: its exclusive lock goes, and with it the record lock of this
process. -/
def close (l : Locks) (d : Descriptor) (f : FileId) : Locks :=
  (l.dropExclusive d f).dropRecord .this f

/-- Another process ends: its record locks go. -/
def endProcess (l : Locks) (p : Process) : Locks :=
  { l with records := l.records.filter (·.1 ≠ p) }

end Locks

end PortReservation
