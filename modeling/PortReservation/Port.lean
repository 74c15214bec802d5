import PortReservation.OrderedMap

/-!
# Ports

TCP ports and finite sets of them. Ports below `Port.lowest` are never handed out. Where an integer
is wanted for a port that may be missing, `Port.missing` stands for none.

* `Port.ofInteger?_eq_some_iff`: an integer that is a port is that port.
-/

namespace PortReservation

/-- A TCP port. -/
abbrev Port := UInt16

namespace Port

/-- The lowest port that is handed out. -/
def lowest : Port := 1024

/-- The highest port that is handed out. -/
def highest : Port := 65535

/-- Stands for a missing port. -/
def missing : Int := -1

/-- A port as an integer. -/
def toInteger : Option Port → Int
  | some port => port.toNat
  | none => missing

/-- The port that an integer is, if it is one. -/
def ofInteger? (n : Int) : Option Port :=
  if 0 ≤ n ∧ n < 65536 then some (UInt16.ofNat n.toNat) else none

theorem exists_toNat_eq {n : Int} (h0 : 0 ≤ n) (h1 : n < 65536) :
    ∃ port : Port, (port.toNat : Int) = n := by
  refine ⟨UInt16.ofNat n.toNat, ?_⟩
  rw [UInt16.toNat_ofNat', Nat.mod_eq_of_lt (by omega)]
  omega

theorem ofInteger?_eq_some_iff {n : Int} {port : Port} :
    ofInteger? n = some port ↔ (port.toNat : Int) = n := by
  unfold ofInteger?
  have hport := port.toNat_lt
  split
  · next h =>
    rw [Option.some.injEq, ← UInt16.toNat_inj, UInt16.toNat_ofNat', Nat.mod_eq_of_lt (by omega)]
    omega
  · next h => exact iff_of_false (by simp) (by omega)

end Port

/-- A finite set of ports. -/
abbrev PortSet := OrderedMap Port Unit

namespace PortSet

def ofList (ports : List Port) : PortSet := OrderedMap.ofList (ports.map fun p => (p, ()))

/-- The set with further ports. -/
def insertAll (s : PortSet) (ports : List Port) : PortSet :=
  OrderedMap.insertAll s (ports.map fun p => (p, ()))

end PortSet

end PortReservation
