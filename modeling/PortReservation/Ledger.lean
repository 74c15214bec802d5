import PortReservation.Config.Basic
import PortReservation.Entries.Expiry
import PortReservation.Entries.Reader
import PortReservation.Entries.Writer
import PortReservation.Lock.Handle

/-!
# Ledgers

Reservations in a file that processes share. Each reservation locks the file, reads it, books a port
in its entries and writes them back if they changed.
-/

namespace PortReservation

/-- A ledger file, how long its reservations live, how to wait for its lock, and the clock that
stamps them. -/
structure Ledger where
  path : Text
  ttl : Millis := Config.defaultTtl
  policy : LockPolicy := {}
  clock : ClockSource := .system
  deriving DecidableEq

namespace Ledger

/-- Books a port in the entries of a locked file. -/
def book (l : Ledger) (port : Port) (handle : LockHandle) (h : Host) : Entries.Booking :=
  (Entries.parse (h.readLocked handle)).book port (h.now l.clock) l.ttl

/-- Writes the entries of a booking to a locked file, if they changed. -/
def store (booking : Entries.Booking) (handle : LockHandle) (h : Host) : Host :=
  match booking.written with
  | none => h
  | some m => h.writeLocked handle (Entries.render Entries.header h.timestamp m)

/-- Tries to reserve a port, with tries for the lock that answer as given. The answer is whether the
port was free. -/
def tryReserveBy (l : Ledger) (tries : LockTries) (port : Port) (h : Host) :
    Except Error Bool × Host :=
  match h.acquireBy tries l.policy l.path with
  | (.error e, h) => (.error e, h)
  | (.ok handle, h) =>
    let booking := l.book port handle h
    (.ok booking.granted, (store booking handle h).release handle)

/-- Reserves a port. A ledger that cannot be locked reserves nothing. -/
def reserveBy (l : Ledger) (tries : LockTries) (port : Port) (h : Host) : Bool × Host :=
  match l.tryReserveBy tries port h with
  | (.ok granted, h) => (granted, h)
  | (.error _, h) => (false, h)

/-- The entries of a ledger, stale ones included. -/
def entriesBy (l : Ledger) (tries : LockTries) (h : Host) : Except Error Entries × Host :=
  match h.acquireBy tries l.policy l.path with
  | (.error e, h) => (.error e, h)
  | (.ok handle, h) => (.ok (Entries.parse (h.readLocked handle)), h.release handle)

/-! Nothing else happens on the host meanwhile. -/

/-- Tries to reserve a port. The answer is whether it was free. -/
def tryReserve (l : Ledger) (port : Port) (h : Host) : Except Error Bool × Host :=
  l.tryReserveBy .steady port h

/-- Reserves a port. A ledger that cannot be locked reserves nothing. -/
def reserve (l : Ledger) (port : Port) (h : Host) : Bool × Host := l.reserveBy .steady port h

/-- The entries of a ledger, stale ones included. -/
def entries (l : Ledger) (h : Host) : Except Error Entries × Host := l.entriesBy .steady h

theorem tryReserve_eq (l : Ledger) (port : Port) (h : Host) :
    l.tryReserve port h =
      match h.acquire l.policy l.path with
      | (.error e, h) => (.error e, h)
      | (.ok handle, h) =>
        (.ok (l.book port handle h).granted,
          (store (l.book port handle h) handle h).release handle) := rfl

theorem reserve_eq (l : Ledger) (port : Port) (h : Host) :
    l.reserve port h =
      match l.tryReserve port h with
      | (.ok granted, h) => (granted, h)
      | (.error _, h) => (false, h) := rfl

theorem entries_eq (l : Ledger) (h : Host) :
    l.entries h =
      match h.acquire l.policy l.path with
      | (.error e, h) => (.error e, h)
      | (.ok handle, h) => (.ok (Entries.parse (h.readLocked handle)), h.release handle) := rfl

end Ledger

end PortReservation
