import PortReservation.Entries.Basic
import PortReservation.Port
import PortReservation.Time.Millis

/-!
# Expiry and booking

An entry reserves the port of its key since the time of its value. It is live until it is older than
a time to live; a value that is no time, or whose age does not fit, is not live. A purge removes
what is not live. Booking a port purges first and then adds an entry for the port, unless a live one
is there.

* `isLive_iff`: which values are live.
* `removed_purge`: a purge counts the entries that are not live.
* `book_granted_iff`: a port is booked exactly if no live entry has its key.
-/

namespace PortReservation

namespace Entries

/-- Whether a value is the time of a reservation that still lives. -/
def isLive (now ttl : Millis) (value : Text) : Bool :=
  match Millis.read? value with
  | none => false
  | some stamp =>
    match Millis.age? now stamp with
    | none => false
    | some age => age ≤ ttl

/-- The live entries. -/
def live (now ttl : Millis) (m : Entries) : Entries := m.filter fun _ v => isLive now ttl v

/-- The outcome of a purge: the entries that it keeps, and the number of those that it removes. -/
structure Purge where
  kept : Entries
  removed : Nat
  deriving DecidableEq

/-- Removes the entries that are not live. -/
def purge (m : Entries) (now ttl : Millis) : Purge :=
  let kept := m.live now ttl
  ⟨kept, m.size - kept.size⟩

/-- The key of a port. -/
def portKey (port : Port) : Text := Decimal.ofNat port.toNat

/-- The outcome of booking a port: whether it was free, and the entries to write, if any changed. -/
structure Booking where
  granted : Bool
  written : Option Entries
  deriving DecidableEq

/-- Books a port at a time. -/
def book (m : Entries) (port : Port) (now ttl : Millis) : Booking :=
  let purged := m.purge now ttl
  if purged.kept.contains (portKey port) then
    ⟨false, if 0 < purged.removed then some purged.kept else none⟩
  else ⟨true, some (purged.kept.insert (portKey port) now.render)⟩

/-- Which values are live: the times that are at most a time to live old, where the age fits. -/
theorem isLive_iff {now ttl : Millis} {value : Text} :
    isLive now ttl value = true ↔
      ∃ stamp, Millis.read? value = some stamp ∧ Millis.Fits (now.toInt - stamp.toInt) ∧
        now.toInt - stamp.toInt ≤ ttl.toInt := by
  unfold isLive
  cases hr : Millis.read? value with
  | none => simp
  | some stamp =>
    dsimp only
    cases ha : Millis.age? now stamp with
    | none =>
      simp only [Bool.false_eq_true, Option.some.injEq, exists_eq_left', false_iff, not_and]
      intro hfits
      rw [Millis.age?, Millis.ofInt?, if_pos hfits] at ha
      cases ha
    | some age =>
      have hage := Millis.age?_eq_some_iff.mp ha
      have hfits := Millis.fits_toInt age
      simp only [decide_eq_true_eq, Option.some.injEq, exists_eq_left', Int64.le_iff_toInt_le]
      rw [← hage]
      exact ⟨fun h => ⟨hfits, h⟩, fun h => h.2⟩

@[simp] theorem kept_purge (m : Entries) (now ttl : Millis) :
    (m.purge now ttl).kept = m.live now ttl := rfl

/-- A purge counts the entries that are not live. -/
theorem removed_purge (m : Entries) (now ttl : Millis) :
    (m.purge now ttl).removed = m.toList.countP fun e => !isLive now ttl e.2 := by
  have hsplit := List.length_eq_countP_add_countP (fun e => isLive now ttl e.2) (l := m.toList)
  have hkept : (m.live now ttl).size = m.toList.countP fun e => isLive now ttl e.2 :=
    List.countP_eq_length_filter.symm
  rw [purge, hkept, OrderedMap.size, hsplit]
  simp

/-- A port is booked exactly if no live entry has its key. -/
theorem book_granted_iff (m : Entries) (port : Port) (now ttl : Millis) :
    (m.book port now ttl).granted = !(m.live now ttl).contains (portKey port) := by
  unfold book
  dsimp only
  split <;> simp_all

end Entries

end PortReservation
