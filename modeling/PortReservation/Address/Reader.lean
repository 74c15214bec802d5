import PortReservation.Address.Basic
import PortReservation.Text.Hex

/-!
# Reading IP addresses

Version 4: four decimal numbers below 256 with a dot between, each of one to three digits and
without leading zeros. Version 6: eight groups of one to four hexadecimal digits with a colon
between; the last two groups may be written as an address of version 4; `::` stands for one or more
groups of zero, once. The whole text has to be an address.
-/

namespace PortReservation

namespace IpAddress

/-- Reads an octet: decimal, below 256, up to three digits, no leading zero. -/
def readOctet (t : Text) : Option (UInt8 × Text) :=
  let digits := t.takeWhile Char.isDigit
  let n := Nat.ofDigitChars 10 digits 0
  if (digits.length == 1 || (digits.length == 2 || digits.length == 3) && digits.head? != some '0')
      && n < 256 then
    some (UInt8.ofNat n, t.dropWhile Char.isDigit)
  else none

/-- Reads an address of version 4 at the start of a text. -/
def readIpv4 (t : Text) : Option (Ipv4 × Text) := do
  let (a, t) ← readOctet t
  let (b, t) ← readOctet (← Text.after? ['.'] t)
  let (c, t) ← readOctet (← Text.after? ['.'] t)
  let (d, t) ← readOctet (← Text.after? ['.'] t)
  return (⟨a, b, c, d⟩, t)

/-- Reads a group: one to four hexadecimal digits. -/
def readGroup (t : Text) : Option (UInt16 × Text) :=
  let digits := t.takeWhile Hex.isDigit
  if 1 ≤ digits.length && digits.length ≤ 4 then
    some (UInt16.ofNat (Hex.ofDigits digits), t.dropWhile Hex.isDigit)
  else none

/-- The groups read at the start of a text, whether the last two were an address of version 4, and
the rest. -/
structure Groups where
  groups : List UInt16
  endsInIpv4 : Bool
  rest : Text

/-- Reads up to `limit` groups with a colon between; only behind another group does a colon come
first. Where two are left, an address of version 4 is tried before a group, and ends them. -/
def readGroups : (limit : Nat) → (first : Bool) → Text → Groups
  | 0, _, t => ⟨[], false, t⟩
  | limit + 1, first, t =>
    match if first then some t else Text.after? [':'] t with
    | none => ⟨[], false, t⟩
    | some s =>
      match if limit = 0 then none else readIpv4 s with
      | some (q, r) => ⟨q.groups, true, r⟩
      | none =>
        match readGroup s with
        | none => ⟨[], false, t⟩
        | some (g, r) =>
          let more := readGroups limit false r
          ⟨g :: more.groups, more.endsInIpv4, more.rest⟩

/-- Reads an address of version 6 at the start of a text. -/
def readIpv6 (t : Text) : Option (Ipv6 × Text) :=
  let head := readGroups 8 true t
  match Ipv6.ofGroups? head.groups with
  | some g => some (g, head.rest)
  | none =>
    if head.endsInIpv4 then none
    else do
      let rest ← Text.after? [':'] (← Text.after? [':'] head.rest)
      let tail := readGroups (7 - head.groups.length) true rest
      let zeros := List.replicate (8 - head.groups.length - tail.groups.length) 0
      let g ← Ipv6.ofGroups? (head.groups ++ zeros ++ tail.groups)
      return (g, tail.rest)

/-- The address that a text is. -/
def read? (t : Text) : Option IpAddress :=
  match readIpv4 t with
  | some (q, rest) => if rest.isEmpty then some (.v4 q) else none
  | none =>
    match readIpv6 t with
    | some (g, rest) => if rest.isEmpty then some (.v6 g) else none
    | none => none

end IpAddress

end PortReservation
