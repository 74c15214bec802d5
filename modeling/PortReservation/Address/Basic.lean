/-!
# IP addresses

An address of version 4 is four octets, one of version 6 eight groups of 16 bits.
-/

namespace PortReservation

/-- An address of version 4: four octets. -/
structure Ipv4 where
  a : UInt8
  b : UInt8
  c : UInt8
  d : UInt8
  deriving DecidableEq

/-- An address of version 6: eight groups of 16 bits. -/
structure Ipv6 where
  groups : List UInt16
  length_eq : groups.length = 8 := by rfl
  deriving DecidableEq

/-- An IP address of either version. -/
inductive IpAddress where
  | v4 (address : Ipv4)
  | v6 (address : Ipv6)
  deriving DecidableEq

/-- The address of eight groups. -/
def Ipv6.ofGroups? (groups : List UInt16) : Option Ipv6 :=
  if h : groups.length = 8 then some ⟨groups, h⟩ else none

/-- Two octets as one group. -/
def groupOfOctets (high low : UInt8) : UInt16 := high.toUInt16 * 256 + low.toUInt16

/-- The two groups of an address of version 4. -/
def Ipv4.groups (q : Ipv4) : List UInt16 := [groupOfOctets q.a q.b, groupOfOctets q.c q.d]

/-- The address of version 4 whose octets are those of two groups. -/
def Ipv4.ofGroups (high low : UInt16) : Ipv4 :=
  ⟨(high >>> 8).toUInt8, high.toUInt8, (low >>> 8).toUInt8, low.toUInt8⟩

namespace IpAddress

/-- The wildcard of version 4. -/
def anyV4 : IpAddress := .v4 ⟨0, 0, 0, 0⟩

/-- The wildcard of version 6. -/
def anyV6 : IpAddress := .v6 ⟨[0, 0, 0, 0, 0, 0, 0, 0], rfl⟩

def loopbackV4 : IpAddress := .v4 ⟨127, 0, 0, 1⟩

def loopbackV6 : IpAddress := .v6 ⟨[0, 0, 0, 0, 0, 0, 0, 1], rfl⟩

/-- Whether an address stands for every address of the machine. -/
def isUnspecified (ip : IpAddress) : Bool := ip = anyV4 || ip = anyV6

/-- Whether an address is the machine itself: 127.0.0.0/8 and ::1. -/
def isLoopback : IpAddress → Bool
  | .v4 q => q.a == 127
  | .v6 g => IpAddress.v6 g = loopbackV6

end IpAddress

end PortReservation
