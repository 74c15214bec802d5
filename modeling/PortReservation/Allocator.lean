import PortReservation.Ledger
import PortReservation.Locator
import PortReservation.Request

/-!
# Allocators

An allocator hands out ports. Of some candidates it takes the first that it did not hand out
recently, that can be bound at its address, and that its ledger grants, if there is one; the port is
then debounced. Every look-up first drops what is debounced long enough, which has no answer if a
time difference does not fit.

* `search_cons`: a candidate is taken, or the rest is searched in the state that trying it left.
-/

namespace PortReservation

/-- An allocator: its configuration, its clock, what it handed out, and where its ledger is. -/
structure Allocator where
  config : Config
  clock : ClockSource
  debounce : Debounce
  locator : Locator
  deriving DecidableEq

namespace Allocator

/-- An allocator that handed out nothing yet. -/
def new (config : Config) (clock : ClockSource) : Allocator where
  config := config
  clock := clock
  debounce := Debounce.new config.window
  locator := Locator.ofConfig config

/-- The ledger at a path, with the clock and the settings of an allocator. -/
def ledgerAt (a : Allocator) (path : Text) : Ledger where
  path := path
  ttl := a.config.ttl
  policy := a.config.lockPolicy
  clock := a.clock

/-- The allocator after it handed out a port. -/
def handOut (a : Allocator) (port : Port) (h : Host) : Allocator :=
  { a with debounce := a.debounce.record port (h.now a.clock) }

/-- Asks the ledger for a port that can be bound, and hands it out if there is no objection. -/
def confirm (a : Allocator) (port : Port) (h : Host) : Option Port × Allocator × Host :=
  match a.locator.resolve h with
  | (none, locator, h) => (some port, { a with locator }.handOut port h, h)
  | (some path, locator, h) =>
    match (a.ledgerAt path).reserve port h with
    | (true, h) => (some port, { a with locator }.handOut port h, h)
    | (false, h) => (none, { a with locator }, h)

/-- Binds a candidate at the address of an allocator and closes it again. For candidate 0 the system
picks the port. -/
def probe (a : Allocator) (candidate : Port) (h : Host) : Except Error Port × Host :=
  match h.network.bind a.config.bindAddress candidate with
  | (.error cause, network) => (.error (.bind candidate cause), { h with network })
  | (.ok port, network) => (.ok port, { h with network })

/-- The port that a candidate stands for, if it was not handed out recently and can be bound. -/
def screen (a : Allocator) (candidate : Port) (h : Host) : Option Port × Host :=
  if candidate ≠ 0 ∧ a.debounce.contains candidate then (none, h)
  else
    match a.probe candidate h with
    | (.error _, h) => (none, h)
    | (.ok port, h) =>
      if candidate = 0 ∧ a.debounce.contains port then (none, h) else (some port, h)

/-- Tries a candidate. -/
def tryPort (a : Allocator) (candidate : Port) (h : Host) : Option Port × Allocator × Host :=
  match a.screen candidate h with
  | (none, h) => (none, a, h)
  | (some port, h) => a.confirm port h

/-- The first candidate that is taken. -/
def search (a : Allocator) (h : Host) : List Port → Option Port × Allocator × Host
  | [] => (none, a, h)
  | candidate :: rest =>
    match a.tryPort candidate h with
    | (some port, a, h) => (some port, a, h)
    | (none, a, h) => a.search h rest

/-- The first candidate that is taken, or an error if none is. -/
def findPort (a : Allocator) (candidates : List Port) (h : Host) :
    Except Error Port × Allocator × Host :=
  match a.search h candidates with
  | (some port, a, h) => (.ok port, a, h)
  | (none, a, h) => (.error (.noFreePort (noneAccepted candidates.length)), a, h)
where
  noneAccepted (n : Nat) : Text :=
    "none of ".toList ++ Decimal.ofNat n ++ " candidate ports accepted".toList

/-- The allocator without the ports that are debounced long enough. -/
def purge (a : Allocator) (h : Host) : Except Overflow Allocator :=
  match a.debounce.purge (h.now a.clock) with
  | .error o => .error o
  | .ok debounce => .ok { a with debounce }

/-- The first free port of some candidates, tried in order, if there is one. -/
def nextFrom (a : Allocator) (candidates : List Port) (h : Host) :
    Except Overflow (Option Port) × Allocator × Host :=
  match a.purge h with
  | .error o => (.error o, a, h)
  | .ok a =>
    match a.findPort candidates h with
    | (found, a, h) => (.ok found.toOption, a, h)

/-- The first free port that a request allows. -/
def allocate (a : Allocator) (r : Request) (h : Host) :
    Except Overflow (Option Port) × Allocator × Host :=
  a.nextFrom r.candidates h

/-- The first free port of all. -/
def next (a : Allocator) (h : Host) : Except Overflow (Option Port) × Allocator × Host :=
  a.allocate Request.fullRange h

/-- The first free port from `min` to `max` outside `excluded`. -/
def nextIn (a : Allocator) (min max : Port) (excluded : List Port) (h : Host) :
    Except Overflow (Option Port) × Allocator × Host :=
  a.allocate (Request.excluding { min, max } excluded) h

/-- The ports handed out recently, ascending. -/
def debouncedPorts (a : Allocator) (h : Host) : Except Overflow (List Port) × Allocator :=
  match a.purge h with
  | .error o => (.error o, a)
  | .ok a => (.ok a.debounce.ports, a)

/-- The path of the ledger, if there is one. -/
def ledgerPath (a : Allocator) (h : Host) : Option Text × Allocator × Host :=
  match a.locator.resolve h with
  | (path, locator, h) => (path, { a with locator }, h)

/-- The allocator with another ledger where the environment names none. -/
def setLedger (a : Allocator) (path : Option Text) : Allocator :=
  { a with locator := a.locator.setProperty path }

/-- The allocator that looks for its ledger anew, in the environment only. -/
def clearLedger (a : Allocator) : Allocator := { a with locator := a.locator.clear }

/-- A candidate is taken, or the rest is searched in the state that trying it left. -/
theorem search_cons (a : Allocator) (h : Host) (candidate : Port) (rest : List Port) :
    a.search h (candidate :: rest) =
      match a.tryPort candidate h with
      | (some port, a, h) => (some port, a, h)
      | (none, a, h) => a.search h rest := rfl

end Allocator

end PortReservation
