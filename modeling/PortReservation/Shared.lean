import PortReservation.Allocator

/-!
# The shared allocator

A process has at most one shared allocator. It is installed with a configuration, or made with the
default one at its first use, and is then never replaced. Its entry points answer with integers.

* `init_some`: a shared allocator is never replaced.
-/

namespace PortReservation

/-- The shared allocator of a process, once there is one. -/
abbrev Shared := Option Allocator

namespace Shared

/-- Why a shared allocator is not installed. -/
def alreadyInstalled : Text := "global port allocator already initialised".toList

/-- Installs the shared allocator, if its configuration has no problem and there is none yet. -/
def init (s : Shared) (c : Config) : Except Error Unit × Shared :=
  match c.validate with
  | .error e => (.error e, s)
  | .ok () =>
    match s with
    | some _ => (.error (.config alreadyInstalled), s)
    | none => (.ok (), some (Allocator.new c .system))

/-- The shared allocator; it is made at its first use. -/
def get (s : Shared) : Allocator := s.getD (Allocator.new {} .system)

/-- The process with a shared allocator, which is made if there is none. -/
def use (s : Shared) : Shared := some s.get

/-- The first free port of some candidates, as an integer. -/
def nextFrom (s : Shared) (candidates : List Port) (h : Host) :
    Except Overflow Int × Shared × Host :=
  match s.get.nextFrom candidates h with
  | (port, a, h) => (port.map Port.toInteger, some a, h)

/-- The first free port that a request allows, as an integer. -/
def allocate (s : Shared) (r : Request) (h : Host) : Except Overflow Int × Shared × Host :=
  s.nextFrom r.candidates h

/-- The first free port of all, as an integer. -/
def next (s : Shared) (h : Host) : Except Overflow Int × Shared × Host :=
  s.allocate Request.fullRange h

/-- The first free port between integer bounds outside some integers. Bounds that reach no port
leave the shared allocator unused. -/
def nextIn (s : Shared) (min max : Int) (excluded : List Int) (h : Host) :
    Except Overflow Int × Shared × Host :=
  match Request.clip? min max excluded with
  | none => (.ok Port.missing, s, h)
  | some r => s.allocate r h

/-- Lets the shared allocator look for its ledger anew. -/
def clearLedger (s : Shared) : Shared := some s.get.clearLedger

/-- A text with `localhost:` and a free port in the middle. -/
def localAddress (s : Shared) (before after : Text) (h : Host) :
    Except Overflow Text × Shared × Host :=
  match s.next h with
  | (port, s, h) =>
    (port.map fun p => before ++ "localhost:".toList ++ Decimal.ofInt p ++ after, s, h)

/-- A shared allocator is never replaced. -/
theorem init_some (a : Allocator) (c : Config) : (init (some a) c).2 = some a := by
  unfold init
  cases c.validate <;> rfl

end Shared

end PortReservation
