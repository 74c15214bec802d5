import PortReservation.Address.Reader

/-!
# Local addresses

Whether an address, or the first address of a host, belongs to this machine.
-/

namespace PortReservation

/-- The addresses that a machine knows: those of its interfaces, and the first one that each host
name stands for. -/
structure AddressBook where
  interfaces : List IpAddress
  hosts : Text → Option IpAddress

namespace AddressBook

/-- A text with its ASCII capitals in lower case. -/
def asciiLower (t : Text) : Text := t.map Char.toLower

/-- A machine that owns only the loopback addresses and knows only the host `localhost`. -/
def loopbackOnly : AddressBook where
  interfaces := [.loopbackV4, .loopbackV6]
  hosts name := if asciiLower name = "localhost".toList then some .loopbackV4 else none

/-- Whether an address is a wildcard, a loopback, or that of an interface. -/
def isLocal (b : AddressBook) (ip : IpAddress) : Bool :=
  ip.isUnspecified || ip.isLoopback || b.interfaces.contains ip

/-- A text without the brackets around it, if it has both. -/
def stripBrackets (t : Text) : Text :=
  match t with
  | '[' :: r => if r.getLast? = some ']' then r.dropLast else t
  | _ => t

/-- The address that a host stands for: the address that it is, or the one that its name has. -/
def resolve (b : AddressBook) (host : Text) : Option IpAddress :=
  (IpAddress.read? host).or (b.hosts host)

/-- Whether a host is this machine. Blanks around it do not count, and an empty host is loopback;
brackets may stand around an address. A host that stands for no address is not local. -/
def isLocalHost (b : AddressBook) (host : Text) : Bool :=
  let t := Text.trim host
  t.isEmpty || (b.resolve (stripBrackets t)).any b.isLocal

end AddressBook

end PortReservation
