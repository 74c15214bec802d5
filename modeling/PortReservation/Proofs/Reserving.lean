import PortReservation.Proofs.FileLines
import PortReservation.Proofs.Passing

/-!
# A reservation to the octet

What a reservation answers and what it leaves in the file depend on the octets of the file, the
port, the time and the time to live only. A refusal that drops no entry does not touch the file; any
other reservation writes it anew.

* `Outcome`: the answer and the octets afterwards, for the octets before.
* `outcome_book`: a booking has that outcome.
* `tryReserve_exact`: so has a reservation in a file that can be locked, and nobody has a lock of
  the file afterwards.
-/

namespace PortReservation

/-- Locks that were available to a new descriptor are nobody's after they were taken and given
back. -/
theorem Locks.not_mem_files_giveBack {l : Locks} {f : FileId}
    (h : l.Available l.newDescriptor f) :
    f ∉ ((l.takeBoth l.newDescriptor f).giveBack l.newDescriptor f).files := by
  obtain ⟨hexclusive, hrecords⟩ := (available_newDescriptor_iff l f).mp h
  rw [files, List.mem_append, not_or, exclusive_giveBack_takeBoth]
  constructor
  · intro hm
    obtain ⟨e, he, hfile⟩ := List.mem_map.mp hm
    exact hexclusive e he hfile
  · intro hm
    obtain ⟨⟨p, other⟩, he, rfl⟩ := List.mem_map.mp hm
    obtain ⟨he, hne⟩ := mem_records_giveBack_takeBoth.mp he
    -- The record lock of this process is given back, and other processes had none.
    by_cases hp : p = .this
    · exact hne (by rw [hp])
    · exact hrecords _ he hp rfl

namespace Entries

/-- The outcome of a reservation in a file: what is answered, and the octets of the file afterwards,
for the octets before, a port, a time, a time to live, and a time stamp for the file. -/
structure Outcome (before : List UInt8) (port : Port) (now ttl : Millis) (stamp : Text)
    (granted : Bool) (after : List UInt8) : Prop where
  /-- The port is granted exactly if its number is not the key of a live entry. -/
  granted_iff : granted = true ↔
    ∀ value, (Decimal.ofNat port.toNat, value) ∉ ((ofOctets before).live now ttl).toList
  /-- A refusal with no stale entry around leaves every octet as it is. -/
  untouched : granted = false → (∀ e ∈ (ofOctets before).toList, isLive now ttl e.2 = true) →
    after = before
  /-- Otherwise the file has two comment lines and then, ascending by key, a line for each live
  entry and for the port, if it was granted. -/
  rewritten : (granted = true ∨ ∃ e ∈ (ofOctets before).toList, isLive now ttl e.2 = false) →
    ∃ written : Entries,
      (∀ e, e ∈ written.toList ↔ e ∈ ((ofOctets before).live now ttl).toList ∨
        granted = true ∧ e = (Decimal.ofNat port.toNat, Decimal.ofInt now.toInt)) ∧
      after = Utf8.encode ("#Port reservations\n#".toList ++ stamp ++ '\n' ::
        written.toList.flatMap fun e => escapeKey e.1 ++ '=' :: escapeValue e.2 ++ ['\n'])

/-- The octets of a file after a booking: what was written, or what was there. -/
def octetsAfter (before : List UInt8) (stamp : Text) (b : Booking) : List UInt8 :=
  b.written.elim before fun m => Utf8.encode (render header stamp m)

/-- A booking has the outcome of a reservation. -/
theorem outcome_book (before : List UInt8) (port : Port) (now ttl : Millis) (stamp : Text) :
    Outcome before port now ttl stamp ((ofOctets before).book port now ttl).granted
      (octetsAfter before stamp ((ofOctets before).book port now ttl)) where
  granted_iff := by
    rw [book_granted_iff, Bool.not_eq_true', OrderedMap.contains, Option.isSome_eq_false_iff,
      Option.isNone_iff_eq_none, Option.eq_none_iff_forall_ne_some]
    exact forall_congr' fun value => not_congr OrderedMap.get?_eq_some_iff
  untouched hrefused hlive := by
    rw [octetsAfter, written_eq_none_iff.mpr ⟨hrefused, hlive⟩]
    rfl
  rewritten hwrites := by
    cases hw : ((ofOctets before).book port now ttl).written with
    | none =>
      obtain ⟨hrefused, hlive⟩ := written_eq_none_iff.mp hw
      rcases hwrites with hgranted | ⟨e, he, hstale⟩
      · rw [hrefused] at hgranted
        cases hgranted
      · rw [hlive e he] at hstale
        cases hstale
    | some m =>
      refine ⟨m, fun e => ?_, ?_⟩
      · rw [eq_of_written_eq_some hw, mem_afterBooking, mem_live]
        rfl
      · rw [octetsAfter, hw, Option.elim_some]
        rfl

end Entries

namespace Ledger

/-- The octets of a locked file after a booking was stored. -/
theorem contents_store_self (b : Entries.Booking) (handle : LockHandle) (h : Host) :
    (store b handle h).files.contents handle.opened.file =
      Entries.octetsAfter (h.files.contents handle.opened.file) h.timestamp b := by
  unfold store Entries.octetsAfter
  split
  · next hw => rw [hw]; rfl
  · next m hw => rw [hw]; exact Host.contents_writeLocked h handle _

/-- A reservation in a file that can be locked has an answer, whatever octets the file holds, or if
it is missing, and whatever the time and the time to live are. Afterwards the file can be locked as
before: no descriptor and no process has a lock of it. -/
theorem tryReserve_exact {l : Ledger} {h : Host} {place : Place} (hl : h.Lockable l.path place)
    (port : Port) :
    ∃ granted h' id, l.tryReserve port h = (.ok granted, h') ∧
      h'.files.nodeAt place = some (.file id) ∧
      Entries.Outcome (h.files.octetsAt place) port (h.now l.clock) l.ttl h.timestamp granted
        (h'.files.contents id) ∧
      id ∉ h'.locks.files ∧ h'.Lockable l.path place := by
  obtain ⟨handle, h₁, ha, hacq⟩ := Host.acquire_of_lockable hl l.policy
  have hbook : l.book port handle h₁ =
      (Entries.ofOctets (h.files.octetsAt place)).book port (h.now l.clock) l.ttl := by
    rw [book_eq l port hacq.node, hacq.entriesAt, hacq.now]
    rfl
  have hbefore : h₁.files.contents handle.opened.file = h.files.octetsAt place := by
    rw [← FileTree.octetsAt_of_file hacq.node, hacq.octets]
  have hreserve : l.tryReserve port h =
      (.ok (l.book port handle h₁).granted,
        (store (l.book port handle h₁) handle h₁).release handle) := by
    rw [tryReserve_eq, ha]
  obtain ⟨place', hlock, hlock', -⟩ := tryReserve_ok hreserve
  cases hlock.1.symm.trans hl.1
  refine ⟨_, _, handle.opened.file, hreserve, ?_, ?_, ?_, hlock'⟩
  · rw [Host.files_release, nodeAt_store]
    exact hacq.node
  · rw [Host.files_release, contents_store_self, hbefore, hacq.timestamp, hbook]
    exact Entries.outcome_book _ _ _ _ _
  · rw [Host.locks_release, locks_store, hacq.locks, hacq.descriptor]
    exact Locks.not_mem_files_giveBack hacq.available

/-- A file with an octet that is no UTF-8, a comment, a key that comes twice and a stale entry. -/
def wornOctets : List UInt8 :=
  0xFF :: Utf8.encode "=1\n! note\n5000:7\n5000 = 1000\nold=x\n".toList

/-- A host with such a file. -/
def wornHost : Host :=
  { Host.bare 1000 with files := (({} : FileTree).create [['p']] 0).write 0 wornOctets }

/-- What the file is written as: in place of the octet there is a replacement character. -/
def mendedText : Text :=
  "#Port reservations\n#1970-01-01T00:00:01.000+00:00\n5000=1000\n\uFFFD=1\n".toList

/-- The port is refused, as its last entry is live, and the file is written without what is
stale. -/
theorem tryReserve_exact_wornHost :
    wornHost.Lockable ['p'] [['p']] ∧
      (Ledger.tryReserve { path := ['p'] } 5000 wornHost).1 = .ok false ∧
      (Ledger.tryReserve { path := ['p'] } 5000 wornHost).2.files.contents 0 =
        Utf8.encode mendedText ∧
      ∃ granted h' id, Ledger.tryReserve { path := ['p'] } 5000 wornHost = (.ok granted, h') ∧
        h'.files.nodeAt [['p']] = some (.file id) ∧
        Entries.Outcome (wornHost.files.octetsAt [['p']]) 5000 1000 Config.defaultTtl
          wornHost.timestamp granted (h'.files.contents id) ∧
        id ∉ h'.locks.files ∧ h'.Lockable ['p'] [['p']] := by
  have hlockable : wornHost.Lockable ['p'] [['p']] :=
    ⟨by cbv, .inr ⟨0, by cbv, by decide⟩⟩
  have hanswer : (Ledger.tryReserve { path := ['p'] } 5000 wornHost).1 = .ok false := by cbv
  have hwritten : (Ledger.tryReserve { path := ['p'] } 5000 wornHost).2.files.contents 0 =
      Utf8.encode mendedText := by cbv
  exact ⟨hlockable, hanswer, hwritten, tryReserve_exact hlockable 5000⟩

end Ledger

end PortReservation
