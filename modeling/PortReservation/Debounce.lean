import PortReservation.Error.Basic
import PortReservation.Port
import PortReservation.Time.Millis

/-!
# Debouncing

A port that was handed out may still be lingering in the system when the next look-up runs, so it
is tracked, with the time it was handed out, until it is a window old.

* `get?_record`: recording keeps the time of a tracked port and changes no other port.
-/

namespace PortReservation

/-- A port handed out at a time. Two of them are the same if their ports are. -/
structure HandOut where
  port : Port
  time : Millis

namespace HandOut

instance : BEq HandOut := ⟨fun a b => a.port == b.port⟩

instance : Hashable HandOut := ⟨fun a => hash a.port⟩

instance : LawfulHashable HandOut where
  hash_eq a b h := by
    have hp : a.port = b.port := LawfulBEq.eq_of_beq h
    show hash a.port = hash b.port
    rw [hp]

end HandOut

/-- How long a port is tracked unless another window is given. -/
def Debounce.defaultWindow : Millis := 10000

/-- The ports handed out less than a window ago, each with the time. -/
structure Debounce where
  window : Millis := Debounce.defaultWindow
  handedOut : OrderedMap Port Millis := OrderedMap.empty
  deriving DecidableEq

namespace Debounce

/-- Tracks no port yet. -/
def new (window : Millis) : Debounce := { window }

def contains (d : Debounce) (port : Port) : Bool := d.handedOut.contains port

/-- The tracked ports, ascending. -/
def ports (d : Debounce) : List Port := d.handedOut.keys

/-- Tracks a port from a time on, unless it is tracked. -/
def record (d : Debounce) (port : Port) (now : Millis) : Debounce :=
  if d.contains port then d else { d with handedOut := d.handedOut.insert port now }

/-- Whether a port handed out at a time is still tracked at another. -/
def isRecent (window now time : Millis) : Bool :=
  match Millis.age? now time with
  | some age => age < window
  | none => false

/-- Drops the ports that are a window old. There is no answer if an age does not fit, and then the
set stays whole. A program that drops ports one by one may have dropped some before it comes to that
age; which ones they are goes by the order of its set, which has no place here. So a run that goes
on past an overflow, as `Allocator.serve` does, goes on with the whole set, where only a set of one
port is sure to be the same. -/
def purge (d : Debounce) (now : Millis) : Except Overflow Debounce :=
  if d.handedOut.toList.all fun e => (Millis.age? now e.2).isSome then
    .ok { d with handedOut := d.handedOut.filter fun _ time => isRecent d.window now time }
  else .error .subtract

/-- Recording a port gives it the time, unless it is tracked, and changes no other port. -/
theorem get?_record (d : Debounce) (port other : Port) (now : Millis) :
    (d.record port now).handedOut.get? other =
      if other = port then (d.handedOut.get? port).or (some now) else d.handedOut.get? other := by
  unfold record contains OrderedMap.contains
  split
  · next h =>
    obtain ⟨time, ht⟩ := Option.isSome_iff_exists.mp h
    split <;> simp_all
  · next h =>
    rw [OrderedMap.get?_insert]
    simp_all [Std.LawfulEqCmp.compare_eq_iff_eq]

end Debounce

end PortReservation
