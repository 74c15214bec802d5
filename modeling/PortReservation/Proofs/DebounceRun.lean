import PortReservation.Proofs.Lookup
import PortReservation.Proofs.Tracking

/-!
# Runs of an allocator

An allocator looks up ports and lists what it debounces, again and again. The clock moves forward
between its calls; everything else on the host is as it likes, at every candidate. Whatever the run,
the allocator debounces exactly the ports that it handed out less than a window ago.

* `Lookup.tracks`: what a look-up does to what is tracked.
* `Run.tracks`: what is tracked after a run are the hand-outs of the run.
* `Run.debounced_exactly`: what the next listing and the next look-up of a run answer.
-/

namespace PortReservation

namespace Allocator

open Debounce

/-- Runs of a new allocator: what it handed out, the time of its clock, and the allocator. -/
inductive Run (config : Config) (clock : ClockSource) :
    List HandOut → Millis → Allocator → Prop where
  | new (now : Millis) : Run config clock [] now (Allocator.new config clock)
  | wait {log : List HandOut} {now later : Millis} {a : Allocator}
      (run : Run config clock log now a) (hle : now ≤ later) : Run config clock log later a
  /-- The ledger is looked for elsewhere from now on. -/
  | relocate {log : List HandOut} {now : Millis} {a : Allocator}
      (run : Run config clock log now a) (locator : Locator) :
      Run config clock log now { a with locator }
  | lookup {log : List HandOut} {now : Millis} {a a' : Allocator}
      {answer : Except Overflow (Option Port)} (run : Run config clock log now a) (q : Inquiry)
      (hl : Lookup now a q.candidates answer a') :
      Run config clock (log ++ HandOut.ofAnswer now answer) now a'
  | list {log : List HandOut} {now : Millis} {a : Allocator}
      (run : Run config clock log now a) (h : Host) (hnow : h.now clock = now) :
      Run config clock log now (a.debouncedPorts h).2

variable {config : Config} {clock : ClockSource} {log : List HandOut} {window now : Millis}
  {a a' : Allocator} {h : Host}

/-- Where every age fits, a purge leaves exactly the recent hand-outs debounced. -/
theorem purge_ok (ht : Tracks log window now a.debounce) (hnow : h.now a.clock = now)
    (hfits : ∀ e ∈ log, Millis.Fits (now.toInt - e.time.toInt)) :
    ∃ debounce, a.purge h = .ok { a with debounce } ∧ Tracks log window now debounce ∧
      ∀ port, debounce.contains port = true ↔ Recent log window now port := by
  obtain ⟨debounce, hpurge, ht', hrecent⟩ := ht.purge hfits
  exact ⟨debounce, by rw [purge, hnow, hpurge], ht', hrecent⟩

/-- A look-up hands out no recent port, and what it hands out is tracked. -/
theorem Lookup.tracks {candidates : List Port} {answer : Except Overflow (Option Port)}
    (hl : Lookup now a candidates answer a') (ht : Tracks log window now a.debounce)
    (hfits : ∀ e ∈ log, Millis.Fits (now.toInt - e.time.toInt)) :
    ∃ found, answer = .ok found ∧ (∀ port, found = some port → ¬Recent log window now port) ∧
      ∃ debounce locator, a' = { a with debounce, locator } ∧
        Tracks (log ++ HandOut.ofAnswer now answer) window now debounce := by
  cases hl with
  | overflow hnow hpurge =>
    obtain ⟨debounce, hok, -⟩ := purge_ok ht hnow hfits
    rw [hok] at hpurge
    cases hpurge
  | @answered h a₁ _ found hnow hpurge htried =>
    obtain ⟨debounce, hok, ht', hrecent⟩ := purge_ok ht hnow hfits
    rw [hok] at hpurge
    cases hpurge
    refine ⟨found, rfl, ?_⟩
    obtain ⟨locator, ⟨rfl, rfl⟩ | ⟨port, rfl, hnew, rfl⟩⟩ := htried.cases
    · refine ⟨fun _ hp => (nomatch hp), debounce, locator, rfl, ?_⟩
      simpa [HandOut.ofAnswer] using ht'
    · -- What is handed out passed the screening, so the purge had dropped it or never had it.
      refine ⟨?_, _, locator, rfl, ht'.record hnew⟩
      intro p hp hport
      cases hp
      rw [(hrecent port).mpr hport] at hnew
      cases hnew

/-- Listing the debounced ports drops those that are not recent. -/
theorem debouncedPorts_ok (ht : Tracks log window now a.debounce) (hnow : h.now a.clock = now)
    (hfits : ∀ e ∈ log, Millis.Fits (now.toInt - e.time.toInt)) :
    ∃ debounce, a.debouncedPorts h = (.ok debounce.ports, { a with debounce }) ∧
      Tracks log window now debounce ∧
      ∀ port, debounce.contains port = true ↔ Recent log window now port := by
  obtain ⟨debounce, hok, ht', hrecent⟩ := purge_ok ht hnow hfits
  exact ⟨debounce, by rw [debouncedPorts, hok], ht', hrecent⟩

/-- No hand-out of a run is in the future. -/
theorem Run.time_le (run : Run config clock log now a) : ∀ e ∈ log, e.time.toInt ≤ now.toInt := by
  induction run with
  | new now => exact fun _ he => nomatch he
  | wait run hle ih => exact fun e he => Int.le_trans (ih e he) (Int64.le_iff_toInt_le.mp hle)
  | relocate run locator ih => exact ih
  | list run h hnow ih => exact ih
  | @lookup log now a a' answer run q hl ih =>
    intro e he
    rcases List.mem_append.mp he with he | he
    · exact ih e he
    · unfold HandOut.ofAnswer at he
      split at he
      · cases List.mem_singleton.mp he
        exact Int.le_refl _
      · cases he

/-- The age of a hand-out fits unless it is too high. -/
theorem Run.fits (run : Run config clock log now a)
    (hspan : ∀ e ∈ log, now.toInt - e.time.toInt ≤ 9223372036854775807) :
    ∀ e ∈ log, Millis.Fits (now.toInt - e.time.toInt) := by
  intro e he
  have hle := run.time_le e he
  have hmax := hspan e he
  unfold Millis.Fits
  omega

/-- What is tracked after a run are its hand-outs: by induction on the run. Ages that fit at the end
fit all along, as they only grow. -/
theorem Run.tracks (run : Run config clock log now a)
    (hspan : ∀ e ∈ log, now.toInt - e.time.toInt ≤ 9223372036854775807) :
    a.clock = clock ∧ Tracks log config.window now a.debounce := by
  induction run with
  | new now => exact ⟨rfl, tracks_new _ now⟩
  | @wait log now later a run hle ih =>
    have hle := Int64.le_iff_toInt_le.mp hle
    obtain ⟨hclock, ht⟩ := ih fun e he => by
      have hmax := hspan e he
      omega
    exact ⟨hclock, ht.later hle⟩
  | relocate run locator ih => exact ih hspan
  | lookup run q hl ih =>
    have hspan' := fun e he => hspan e (List.mem_append_left _ he)
    obtain ⟨hclock, ht⟩ := ih hspan'
    obtain ⟨found, -, -, debounce, locator, rfl, ht'⟩ := hl.tracks ht (run.fits hspan')
    exact ⟨hclock, ht'⟩
  | list run h hnow ih =>
    obtain ⟨hclock, ht⟩ := ih hspan
    obtain ⟨debounce, heq, ht', -⟩ := debouncedPorts_ok ht (hclock ▸ hnow) (run.fits hspan)
    rw [heq]
    exact ⟨hclock, ht'⟩

/-- After any run, listing the debounced ports gives exactly those that the run handed out less than
a window ago, in strictly ascending order, and the next look-up of any form has an answer and hands
out none of them. -/
theorem Run.debounced_exactly (run : Run config clock log now a)
    (hspan : ∀ e ∈ log, now.toInt - e.time.toInt ≤ 9223372036854775807) :
    (∀ h : Host, h.now clock = now →
      ∃ ports, (a.debouncedPorts h).1 = .ok ports ∧ ports.Pairwise (· < ·) ∧
        ∀ port, port ∈ ports ↔ Recent log config.window now port) ∧
    (∀ (q : Inquiry) (answer : Except Overflow (Option Port)) (a' : Allocator),
      Lookup now a q.candidates answer a' →
      ∃ found, answer = .ok found ∧ ∀ port, found = some port →
        ¬Recent log config.window now port) ∧
    ∀ (q : Inquiry) (h : Host), h.now clock = now →
      ∃ found, (a.inquire q h).1 = .ok found ∧ ∀ port, found = some port →
        ¬Recent log config.window now port := by
  obtain ⟨hclock, ht⟩ := run.tracks hspan
  have hlookup : ∀ (q : Inquiry) (answer : Except Overflow (Option Port)) (a' : Allocator),
      Lookup now a q.candidates answer a' →
      ∃ found, answer = .ok found ∧ ∀ port, found = some port →
        ¬Recent log config.window now port := by
    intro q answer a' hl
    obtain ⟨found, hanswer, hfree, -⟩ := hl.tracks ht (run.fits hspan)
    exact ⟨found, hanswer, hfree⟩
  refine ⟨?_, hlookup, ?_⟩
  · intro h hnow
    obtain ⟨debounce, heq, -, hrecent⟩ :=
      debouncedPorts_ok ht (h := h) (hclock ▸ hnow) (run.fits hspan)
    refine ⟨debounce.ports, by rw [heq], debounce.ports_ascending, fun port => ?_⟩
    rw [mem_ports]
    exact hrecent port
  · intro q h hnow
    have hl := a.lookup_inquire q h
    rw [hclock, hnow] at hl
    exact hlookup q _ _ hl

/-- What a new allocator answers when the system picks its port. -/
def pickedOnce : Except Overflow (Option Port) × Allocator × Host :=
  (Allocator.new {} .system).inquire (.among [0]) (Host.bare 5)

/-- The port that the system picked is debounced two milliseconds later. -/
theorem Run.debounced_exactly_pickedOnce :
    pickedOnce.1 = .ok (some 49152) ∧
      (∀ h : Host, h.now .system = 7 →
        ∃ ports, (pickedOnce.2.1.debouncedPorts h).1 = .ok ports ∧ ports.Pairwise (· < ·) ∧
          ∀ port, port ∈ ports ↔ Recent [⟨49152, 5⟩] Debounce.defaultWindow 7 port) ∧
      (∀ (q : Inquiry) (answer : Except Overflow (Option Port)) (a' : Allocator),
        Lookup 7 pickedOnce.2.1 q.candidates answer a' →
        ∃ found, answer = .ok found ∧ ∀ port, found = some port →
          ¬Recent [⟨49152, 5⟩] Debounce.defaultWindow 7 port) ∧
      ∀ (q : Inquiry) (h : Host), h.now .system = 7 →
        ∃ found, (pickedOnce.2.1.inquire q h).1 = .ok found ∧ ∀ port, found = some port →
          ¬Recent [⟨49152, 5⟩] Debounce.defaultWindow 7 port := by
  have hpicked : pickedOnce.1 = .ok (some 49152) := by cbv
  have hl : Lookup 5 (Allocator.new {} .system) [0] pickedOnce.1 pickedOnce.2.1 :=
    (Allocator.new {} .system).lookup_inquire (.among [0]) (Host.bare 5)
  have hrun : Run {} .system [⟨49152, 5⟩] 5 pickedOnce.2.1 := by
    have hnew : Run {} .system [] 5 (Allocator.new {} .system) := .new 5
    have hone := hnew.lookup (.among [0]) hl
    rw [hpicked] at hone
    exact hone
  have hlater : Run {} .system [⟨49152, 5⟩] 7 pickedOnce.2.1 := hrun.wait (by decide)
  exact ⟨hpicked, hlater.debounced_exactly (by simp)⟩

end Allocator

end PortReservation
