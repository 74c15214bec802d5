import PortReservation.Text.Utf8

/-!
# Paths

A path is a text of names with slashes between. Empty names and `.` stay where they are, `..` goes
up; the last name is what the path names, in the directory that the names before it lead to.
-/

namespace PortReservation

namespace Path

/-- The most octets of a path. -/
def maxPathOctets : Nat := 4095

/-- The most octets of a name. -/
def maxNameOctets : Nat := 255

def octets (t : Text) : Nat := (Utf8.encode t).length

/-- The names of a path, empty ones included. -/
def names : Text → List Text
  | [] => [[]]
  | c :: t => if c = '/' then [] :: names t else Text.consFirst c (names t)

/-- A path in parts: the names that lead to its directory, its last name that is not empty, and
whether a slash follows that. -/
structure Parts where
  leading : List Text
  last : Text
  slash : Bool
  deriving DecidableEq

/-- The parts of a path that has a name. -/
def parts? (path : Text) : Option Parts :=
  match (names path).reverse.dropWhile List.isEmpty with
  | [] => none
  | last :: before =>
    some ⟨before.reverse, last, (names path).getLast?.any List.isEmpty⟩

end Path

end PortReservation
