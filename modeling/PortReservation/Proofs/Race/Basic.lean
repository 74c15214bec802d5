import Mathlib.Logic.Function.Basic
import PortReservation.Proofs.Phases

/-!
# Races for ports

Any number of allocators and ledgers reserve ports in one file. Their calls interleave phase by
phase, and between two phases anything else happens that leaves the file alone: locks of others come
and go, the network changes, time passes. Only the exclusive lock of the file is relied on, so it
does not matter which processes the participants belong to. A hand-out has the time of its booking;
where the clock stands still during calls, that is the time of the call.

* `Terms.Spares`, `Host.Holds`: a file that is left alone, and a handle that has its lock.
* `Acquired.not_holds`: while a handle has the lock, no other one can be had.
* `Race`, `Race.Step`: a call begins, a call goes on by a phase, or something else happens.
-/

namespace PortReservation

/-! ## Leaving the file alone -/

/-- What a race is about: the place of the file, the clock of all participants, and a time that no
reservation lives shorter than. -/
structure Terms where
  place : Place
  clock : ClockSource
  ttl : Millis

/-- The file of a race is left alone, its paths still lead to it, and the clock of the race does not
go back. -/
structure Terms.Spares (t : Terms) (h h' : Host) : Prop where
  slot : ∀ path, h.files.slot? path = some t.place → h'.files.slot? path = some t.place
  octets : h'.files.octetsAt t.place = h.files.octetsAt t.place
  file : ∀ id, h.files.nodeAt t.place = some (.file id) → h'.files.nodeAt t.place = some (.file id)
  now : h.now t.clock ≤ h'.now t.clock

namespace Host

theorem SameFiles.spares {h h' : Host} (hs : SameFiles h h') (t : Terms) : t.Spares h h' where
  slot _ := hs.slot?
  octets := hs.octets t.place
  file := hs.file t.place
  now := by rw [hs.now]; exact Int64.le_refl _

/-- A handle has the exclusive lock of the file at a place. -/
structure Holds (h : Host) (place : Place) (handle : LockHandle) : Prop where
  node : h.files.nodeAt place = some (.file handle.opened.file)
  locked : (handle.opened.descriptor, handle.opened.file) ∈ h.locks.exclusive

/-- A handle that was had just now has the lock. -/
theorem Acquired.holds {h h' : Host} {path : Text} {place : Place} {handle : LockHandle}
    (ha : Acquired h path place handle h') : h'.Holds place handle where
  node := ha.node
  locked := by
    rw [ha.locks, ha.descriptor]
    exact Locks.mem_exclusive_takeBoth.mpr (.inl rfl)

/-- While a handle has the lock, no other handle can be had. -/
theorem Acquired.not_holds {h h' : Host} {path : Text} {place : Place} {handle other : LockHandle}
    (ha : Acquired h path place handle h') : ¬h.Holds place other := by
  intro hother
  have hnode := ha.file place _ hother.node
  rw [ha.node] at hnode
  have hfile : handle.opened.file = other.opened.file := by
    injection hnode with hnode
    injection hnode
  exact (Locks.excludes_newDescriptor _ _).mp ha.available.1 _ hother.locked hfile.symm

end Host

/-! ## Races -/

/-- The handle that a stage has. -/
def Stage.handle? : Stage → Option LockHandle
  | .waiting => none
  | .locked handle => some handle
  | .booked handle _ _ => some handle
  | .stored handle _ _ => some handle

/-- The handle that an activity has. -/
def Activity.handle? : Activity → Option LockHandle
  | .listing handle => handle
  | .reserving _ stage _ => stage.handle?
  | _ => none

/-- A call begins without a handle. -/
theorem Actor.start_handle? {x : Actor} (hidle : x.activity = .idle) (call : Call) (h : Host) :
    (x.start call h).activity.handle? = none := by
  have hnone : x.activity.handle? = none := by rw [hidle]; rfl
  unfold start
  split
  · split
    · exact hnone
    · rfl
  · rfl
  · rfl
  · exact hnone

/-- After an answer there is no handle. -/
theorem Actor.conclude_handle? (x : Actor) (port : Port) (candidates : List Port) (granted : Bool)
    (h : Host) : (x.conclude port candidates granted h).activity.handle? = none := by
  unfold conclude
  split
  · rfl
  · cases granted <;> rfl

/-- Participants on a host, and what was handed out, in order. -/
structure Race (ι : Type) where
  host : Host
  actor : ι → Actor
  log : List HandOut := []

namespace Race

variable {ι : Type} [DecidableEq ι]

/-- The race after a participant did something on the host and handed something out. -/
def put (s : Race ι) (i : ι) (x : Actor) (h : Host) (out : List HandOut) : Race ι where
  host := h
  actor := Function.update s.actor i x
  log := s.log ++ out

@[simp] theorem put_actor_self (s : Race ι) (i : ι) (x : Actor) (h : Host) (out : List HandOut) :
    (s.put i x h out).actor i = x := by
  simp [put]

theorem put_actor_of_ne {i j : ι} (hne : j ≠ i) (s : Race ι) (x : Actor) (h : Host)
    (out : List HandOut) : (s.put i x h out).actor j = s.actor j := by
  simp [put, hne]

/-- A participant begins a call. -/
def start (s : Race ι) (i : ι) (call : Call) : Race ι :=
  s.put i ((s.actor i).start call s.host) s.host []

/-- A participant goes on by a phase. -/
def advance (s : Race ι) (i : ι) : Race ι :=
  match (s.actor i).advance s.host with
  | (x, h, out) => s.put i x h out

/-- What can happen next in a race. -/
inductive Step (t : Terms) : Race ι → Race ι → Prop where
  /-- Anything else happens that leaves the file alone. Nobody loses the lock that it has. -/
  | elsewhere {s : Race ι} {h : Host} (hspares : t.Spares s.host h)
      (hlocks : ∀ i handle, (s.actor i).activity.handle? = some handle →
        (handle.opened.descriptor, handle.opened.file) ∈ h.locks.exclusive) :
      Step t s { s with host := h }
  | start {s : Race ι} (i : ι) (call : Call) (hidle : (s.actor i).activity = .idle) :
      Step t s (s.start i call)
  | advance {s : Race ι} (i : ι) : Step t s (s.advance i)

end Race

end PortReservation
