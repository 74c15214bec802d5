import PortReservation.Address.Basic
import PortReservation.Text.Decimal
import PortReservation.Text.Hex

/-!
# Writing IP addresses

Version 4: four decimal numbers with a dot between. Version 6: eight hexadecimal groups without
leading zeros, with a colon between; the first longest run of two or more groups of zero is written
`::`; an address that maps one of version 4 is written `::ffff:` and that one.
-/

namespace PortReservation

/-- An address of version 4 in decimal. -/
def Ipv4.render (q : Ipv4) : Text :=
  Decimal.ofNat q.a.toNat ++ '.' :: Decimal.ofNat q.b.toNat ++ '.' :: Decimal.ofNat q.c.toNat ++
    '.' :: Decimal.ofNat q.d.toNat

namespace Ipv6

/-- Groups with a colon between. -/
def renderGroups : List UInt16 → Text
  | [] => []
  | [g] => Hex.ofNat g.toNat
  | g :: gs => Hex.ofNat g.toNat ++ ':' :: renderGroups gs

/-- How many zeros stand at the start of some groups. -/
def leadingZeros (gs : List UInt16) : Nat := (gs.takeWhile (· == 0)).length

/-- Where the first longest run of zeros starts, counted from `i`, and its length. -/
def longestZeros : (i : Nat) → List UInt16 → Nat × Nat
  | i, [] => (i, 0)
  | i, g :: gs =>
    let here := leadingZeros (g :: gs)
    let later := longestZeros (i + 1) gs
    if later.2 ≤ here then (i, here) else later

/-- An address of version 6 in its canonical form. -/
def render (g : Ipv6) : Text :=
  match g.groups with
  | [0, 0, 0, 0, 0, 0xFFFF, high, low] => "::ffff:".toList ++ (Ipv4.ofGroups high low).render
  | groups =>
    let (start, length) := longestZeros 0 groups
    if 1 < length then
      renderGroups (groups.take start) ++ ':' :: ':' ::
        renderGroups (groups.drop (start + length))
    else renderGroups groups

end Ipv6

/-- An IP address in its canonical form. -/
def IpAddress.render : IpAddress → Text
  | .v4 q => q.render
  | .v6 g => g.render

end PortReservation
