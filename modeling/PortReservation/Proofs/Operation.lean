import PortReservation.Proofs.Lookup

/-!
# Operations of an allocator

What a process can ask of an allocator, with one type of answers: the forms of a look-up, listing
what is debounced, asking for the ledger, naming another one, and forgetting it.

* `perform`: an operation on a host.
* `Operation.Purges`: the operations that drop what is debounced long enough.
* `perform_eq_error_iff`: those are the only ones that can have no answer.
-/

namespace PortReservation

namespace Allocator

/-- What can be asked of an allocator. -/
inductive Operation where
  | look (q : Inquiry)
  /-- The debounced ports are listed. -/
  | list
  /-- The path of the ledger is asked for. -/
  | locate
  | setLedger (path : Option Text)
  | clearLedger

/-- What an operation answers. -/
inductive Answer where
  | port (found : Option Port)
  | ports (ports : List Port)
  | path (path : Option Text)
  | done
  deriving DecidableEq

/-- An operation on a host. -/
def perform (a : Allocator) (op : Operation) (h : Host) :
    Except Overflow Answer × Allocator × Host :=
  match op with
  | .look q =>
    match a.inquire q h with
    | (found, a, h) => (found.map .port, a, h)
  | .list =>
    match a.debouncedPorts h with
    | (ports, a) => (ports.map .ports, a, h)
  | .locate =>
    match a.ledgerPath h with
    | (path, a, h) => (.ok (.path path), a, h)
  | .setLedger path => (.ok .done, a.setLedger path, h)
  | .clearLedger => (.ok .done, a.clearLedger, h)

/-- Whether an operation drops what is debounced long enough, to begin with. -/
def Operation.Purges : Operation → Prop
  | .look _ | .list => True
  | _ => False

variable {a : Allocator} {h : Host} {o : Overflow}

theorem inquire_eq_error_iff {q : Inquiry} :
    (a.inquire q h).1 = .error o ↔ a.debounce.purge (h.now a.clock) = .error o := by
  rw [inquire_eq, nextFrom, purge]
  cases a.debounce.purge (h.now a.clock) <;> simp

theorem debouncedPorts_eq_error_iff :
    (a.debouncedPorts h).1 = .error o ↔ a.debounce.purge (h.now a.clock) = .error o := by
  rw [debouncedPorts, purge]
  cases a.debounce.purge (h.now a.clock) <;> simp

theorem map_eq_error_iff {α β : Type} {f : α → β} {x : Except Overflow α} :
    x.map f = .error o ↔ x = .error o := by
  cases x <;> simp [Except.map]

/-- An operation has no answer exactly if it purges and the purge has none. -/
theorem perform_eq_error_iff {op : Operation} :
    (a.perform op h).1 = .error o ↔
      op.Purges ∧ a.debounce.purge (h.now a.clock) = .error o := by
  cases op with
  | look q =>
    have hanswer : (a.perform (.look q) h).1 = (a.inquire q h).1.map .port := rfl
    rw [hanswer, map_eq_error_iff, inquire_eq_error_iff]
    exact (and_iff_right trivial).symm
  | list =>
    have hanswer : (a.perform .list h).1 = (a.debouncedPorts h).1.map .ports := rfl
    rw [hanswer, map_eq_error_iff, debouncedPorts_eq_error_iff]
    exact (and_iff_right trivial).symm
  | locate => simp [perform, Operation.Purges]
  | setLedger path => simp [perform, Operation.Purges]
  | clearLedger => simp [perform, Operation.Purges]

end Allocator

end PortReservation
