import PortReservation.Error.Basic
import PortReservation.Files.Path
import PortReservation.OrderedMap

/-!
# File trees

Directories and files below a root directory. A file has an identity of its own, so what is open
stays the same file when its name goes or is given to another one. Names lead to files by the rules
of Linux: the errors are those of opening and of looking up a path, in their order.

* `contents_write_self`, `contents_write_of_ne`: a write replaces the contents of one file.
-/

namespace PortReservation

/-- The identity of a file. -/
abbrev FileId := Nat

/-- A place below the root: the names that lead there. -/
abbrev Place := List Text

/-- What is at a place. -/
inductive Node where
  | directory
  | file (id : FileId)
  deriving DecidableEq

/-- Directories and files, and what the files hold. The root is a directory that is not listed. -/
structure FileTree where
  nodes : OrderedMap Place Node := OrderedMap.empty
  contents : FileId → List UInt8 := fun _ => []

/-- A number that some numbers leave free. -/
def firstAbove (ns : List Nat) : Nat := ns.foldr (fun n m => Max.max (n + 1) m) 0

theorem lt_firstAbove {ns : List Nat} {n : Nat} (h : n ∈ ns) : n < firstAbove ns := by
  induction ns with
  | nil => simp at h
  | cons k ns ih =>
    rw [firstAbove, List.foldr_cons, ← firstAbove]
    rcases List.mem_cons.mp h with rfl | h
    · omega
    · have := ih h
      omega

namespace FileTree

/-- The files that have a name. -/
def fileIds (t : FileTree) : List FileId :=
  t.nodes.toList.filterMap fun e =>
    match e.2 with
    | .directory => none
    | .file id => some id

/-- What is at a place. -/
def nodeAt (t : FileTree) (place : Place) : Option Node :=
  if place.isEmpty then some .directory else t.nodes.get? place

/-- The directory that some names lead to from a place. -/
def walk (t : FileTree) (place : Place) : List Text → Except IoError Place
  | [] => .ok place
  | n :: ns =>
    if n = [] ∨ n = ['.'] then t.walk place ns
    else if n = ['.', '.'] then t.walk place.dropLast ns
    else if Path.maxNameOctets < Path.octets n then .error (.system SystemError.nameTooLong)
    else
      match t.nodeAt (place ++ [n]) with
      | none => .error (.system SystemError.noSuchFile)
      | some (.file _) => .error (.system SystemError.notADirectory)
      | some .directory => t.walk (place ++ [n]) ns

/-- Where a path leads. -/
inductive Lead where
  /-- To a directory that needs no look-up: the root, or one that dots stand for. -/
  | directory
  /-- To a name in a directory, with or without a slash behind it. -/
  | entry (directory : Place) (name : Text) (slash : Bool)
  deriving DecidableEq

/-- Where a path leads, if the names before its last one are directories. -/
def lead (t : FileTree) (path : Text) : Except IoError Lead :=
  if path.contains '\x00' then .error .nulInPath
  else if path.isEmpty then .error (.system SystemError.noSuchFile)
  else if Path.maxPathOctets < Path.octets path then .error (.system SystemError.nameTooLong)
  else
    match Path.parts? path with
    | none => .ok .directory
    | some p =>
      match t.walk [] p.leading with
      | .error e => .error e
      | .ok directory =>
        if p.last = ['.'] ∨ p.last = ['.', '.'] then .ok .directory
        else .ok (.entry directory p.last p.slash)

/-- What a name in a directory stands for, if anything. -/
def child (t : FileTree) (directory : Place) (name : Text) : Except IoError (Option Node) :=
  if Path.maxNameOctets < Path.octets name then .error (.system SystemError.nameTooLong)
  else .ok (t.nodeAt (directory ++ [name]))

/-- What a path leads to. -/
def stat (t : FileTree) (path : Text) : Except IoError Node :=
  match t.lead path with
  | .error e => .error e
  | .ok .directory => .ok .directory
  | .ok (.entry directory name slash) =>
    match t.child directory name with
    | .error e => .error e
    | .ok none => .error (.system SystemError.noSuchFile)
    | .ok (some .directory) => .ok .directory
    | .ok (some (.file id)) =>
      if slash then .error (.system SystemError.notADirectory) else .ok (.file id)

/-- The tree with other contents of a file. -/
def write (t : FileTree) (id : FileId) (octets : List UInt8) : FileTree :=
  { t with contents := fun other => if other = id then octets else t.contents other }

/-- The tree with an empty file at a place. -/
def create (t : FileTree) (place : Place) (id : FileId) : FileTree :=
  { t with nodes := t.nodes.insert place (.file id) }.write id []

/-- Opens the file of a path for writing. A missing one is created, as the file `new`. -/
def openOrCreate (t : FileTree) (new : FileId) (path : Text) : Except IoError (FileId × FileTree) :=
  match t.lead path with
  | .error e => .error e
  | .ok .directory => .error (.system SystemError.isADirectory)
  | .ok (.entry directory name slash) =>
    if slash then .error (.system SystemError.isADirectory)
    else
      match t.child directory name with
      | .error e => .error e
      | .ok (some .directory) => .error (.system SystemError.isADirectory)
      | .ok (some (.file id)) => .ok (id, t)
      | .ok none => .ok (new, t.create (directory ++ [name]) new)

/-- The tree without the file that a path leads to. -/
def remove (t : FileTree) (path : Text) : FileTree :=
  match t.lead path with
  | .ok (.entry directory name false) =>
    match t.child directory name with
    | .ok (some (.file _)) => { t with nodes := t.nodes.erase (directory ++ [name]) }
    | _ => t
  | _ => t

/-- The tree with a directory wherever the names of a path lead and nothing is. -/
def makeDirectories (t : FileTree) (place : Place) : List Text → FileTree
  | [] => t
  | n :: ns =>
    if n = [] ∨ n = ['.'] then t.makeDirectories place ns
    else if n = ['.', '.'] then t.makeDirectories place.dropLast ns
    else
      match t.nodeAt (place ++ [n]) with
      | some (.file _) => t
      | some .directory => t.makeDirectories (place ++ [n]) ns
      | none =>
        { t with nodes := t.nodes.insert (place ++ [n]) .directory }.makeDirectories
          (place ++ [n]) ns

/-- The tree with the directory that a path names, and those that lead to it. -/
def makeDirectory (t : FileTree) (path : Text) : FileTree :=
  t.makeDirectories [] (Path.names path)

/-- The directories and the files with their contents, each at its place, in ascending order. -/
def listing (t : FileTree) : List (Place × Option (List UInt8)) :=
  t.nodes.toList.map fun e =>
    match e.2 with
    | .directory => (e.1, none)
    | .file id => (e.1, some (t.contents id))

@[simp] theorem contents_write_self (t : FileTree) (id : FileId) (octets : List UInt8) :
    (t.write id octets).contents id = octets := by
  simp [write]

theorem contents_write_of_ne {id other : FileId} (h : other ≠ id) (t : FileTree)
    (octets : List UInt8) : (t.write id octets).contents other = t.contents other := by
  simp [write, h]

end FileTree

end PortReservation
