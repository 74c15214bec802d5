import PortReservation.Config.Basic
import PortReservation.Host

/-!
# Locating the ledger

The ledger of an allocator is the file that an environment variable names, or else the one that a
property names. It is looked for once, created if it is missing, and the outcome is kept until the
property is set again. A named file that cannot serve switches the ledger off, whatever else is
named.

* `resolve_resolved`: a location that is known is not looked for again.
-/

namespace PortReservation

/-- What is known of where the ledger is. -/
inductive Location where
  | unresolved
  | disabled
  | enabled (path : Text)
  deriving DecidableEq

/-- The path of a ledger that is in use. -/
def Location.path? : Location → Option Text
  | .enabled path => some path
  | _ => none

/-- Where to look for the ledger, and what was found. -/
structure Locator where
  variableName : Text
  property : Option Text
  location : Location := .unresolved
  deriving DecidableEq

namespace Locator

/-- The locator of a configuration. -/
def ofConfig (c : Config) : Locator where
  variableName := c.variableName
  property := c.ledger

/-- The path that is named: by the environment, if it names a non-empty one, or by the property. -/
def named? (l : Locator) (h : Host) : Option Text :=
  match h.variableValue l.variableName with
  | none => l.property
  | some path => if path.isEmpty then l.property else some path

/-- Creates the file of a path that leads nowhere. -/
def touch (path : Text) (h : Host) : Except Error Unit × Host :=
  match h.files.stat path with
  | .ok _ => (.ok (), h)
  | .error _ =>
    match h.openFile path with
    | (.error e, h) => (.error (.io e), h)
    | (.ok f, h) => (.ok (), h.closeFile f)

/-- Makes sure that a path leads to a file; a missing one is created. -/
def prepare (path : Text) (h : Host) : Except Error Unit × Host :=
  match touch path h with
  | (.error e, h) => (.error e, h)
  | (.ok (), h) =>
    match h.files.stat path with
    | .ok (.file _) => (.ok (), h)
    | _ => (.error (.invalidLockFile (path ++ " is not a regular file".toList)), h)

/-- Looks for the ledger. -/
def look (l : Locator) (h : Host) : Location × Host :=
  match l.named? h with
  | none => (.disabled, h)
  | some path =>
    match prepare path h with
    | (.ok (), h) => (.enabled path, h)
    | (.error _, h) => (.disabled, h)

/-- The path of the ledger, if there is one; it is looked for if that is not known. -/
def resolve (l : Locator) (h : Host) : Option Text × Locator × Host :=
  if l.location = .unresolved then
    let (location, h) := l.look h
    (location.path?, { l with location }, h)
  else (l.location.path?, l, h)

/-- The locator with another property; what was found is forgotten. -/
def setProperty (l : Locator) (path : Option Text) : Locator :=
  { l with property := path, location := .unresolved }

/-- The locator without property; what was found is forgotten. -/
def clear (l : Locator) : Locator := l.setProperty none

/-- A location that is known is not looked for again. -/
theorem resolve_resolved {l : Locator} (hl : l.location ≠ .unresolved) (h : Host) :
    l.resolve h = (l.location.path?, l, h) := by
  rw [resolve, if_neg hl]

end Locator

end PortReservation
