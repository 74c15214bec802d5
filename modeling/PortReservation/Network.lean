import PortReservation.Address.Basic
import PortReservation.Error.Basic
import PortReservation.Port

/-!
# Network

The listeners of a machine. A port can be bound at an address if the machine lets that address be
bound and no listener is at the same port of an overlapping address. For port 0 the system picks a
port; which one is open, so the picks are a sequence given with the machine.

* `bind_port`: a port other than 0 is bound itself or not at all.
-/

namespace PortReservation

/-- A port at an address. -/
structure Endpoint where
  address : IpAddress
  port : Port
  deriving DecidableEq

/-- Whether a listener at one address keeps another address from being bound. -/
def IpAddress.overlaps (a b : IpAddress) : Bool := a = b || a.isUnspecified || b.isUnspecified

/-- The listeners, the addresses that can be bound, and the ports that the system picks. -/
structure Network where
  listeners : List Endpoint := []
  bindable : IpAddress → Bool
  picks : Nat → Port
  picked : Nat := 0

namespace Network

/-- Whether a listener keeps a port from being bound at an address. -/
def isTaken (n : Network) (address : IpAddress) (port : Port) : Bool :=
  n.listeners.any fun e => e.port = port && e.address.overlaps address

/-- Whether a port can be bound at an address. -/
def isFree (n : Network) (address : IpAddress) (port : Port) : Bool :=
  n.bindable address && !n.isTaken address port

/-- Binds a port at an address and closes it again: the port that was bound, and the network behind
it. -/
def bind (n : Network) (address : IpAddress) (port : Port) : Except IoError Port × Network :=
  if !n.bindable address then (.error (.system SystemError.cannotAssignAddress), n)
  else if port = 0 then (.ok (n.picks n.picked), { n with picked := n.picked + 1 })
  else if n.isTaken address port then (.error (.system SystemError.addressInUse), n)
  else (.ok port, n)

/-- The network with a listener. -/
def listen (n : Network) (e : Endpoint) : Network := { n with listeners := e :: n.listeners }

/-- The network without a listener. -/
def close (n : Network) (e : Endpoint) : Network :=
  { n with listeners := n.listeners.filter (· ≠ e) }

/-- A port other than 0 is bound itself or not at all. -/
theorem bind_port {port : Port} (h : port ≠ 0) (n : Network) (address : IpAddress) :
    (n.bind address port).1.toOption = (if n.isFree address port then some port else none) ∧
      (n.bind address port).2 = n := by
  unfold bind isFree
  rw [if_neg h]
  cases n.bindable address <;> cases n.isTaken address port <;> exact ⟨rfl, rfl⟩

end Network

end PortReservation
