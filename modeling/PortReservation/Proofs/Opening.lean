import PortReservation.Host
import PortReservation.Proofs.OrderedMap

/-!
# Opening files

A path that can be opened for writing names a place: the directory that its leading names reach,
and its last name there. Opening creates an empty file at that place if nothing is there, under an
identity that no other file has, so no file that is there already is touched.

* `openFile_cases`: what opening a path does.
* `octetsAt_create`: creating a missing file changes the octets at no place.
* `slot?_of_directories`: a path keeps its place while the directories stay.
-/

namespace PortReservation

namespace FileTree

/-- The place whose file a path opens, if it can open one. -/
def slot? (t : FileTree) (path : Text) : Option Place :=
  match t.lead path with
  | .ok (.entry directory name false) =>
    if Path.maxNameOctets < Path.octets name then none else some (directory ++ [name])
  | _ => none

/-- The octets of the file at a place; a missing file has none. -/
def octetsAt (t : FileTree) (place : Place) : List UInt8 :=
  match t.nodeAt place with
  | some (.file id) => t.contents id
  | _ => []

/-! ## Places -/

theorem slot?_eq_some_iff {t : FileTree} {path : Text} {place : Place} :
    t.slot? path = some place ↔
      ∃ directory name, t.lead path = .ok (.entry directory name false) ∧
        ¬Path.maxNameOctets < Path.octets name ∧ place = directory ++ [name] := by
  unfold slot?
  cases hl : t.lead path with
  | error e => simp
  | ok l =>
    cases l with
    | directory => simp
    | entry directory name slash =>
      cases slash with
      | true => simp
      | false =>
        dsimp only
        constructor
        · intro h
          split at h
          · cases h
          · next hlong => cases h; exact ⟨directory, name, rfl, hlong, rfl⟩
        · rintro ⟨d, n, heq, hlong, rfl⟩
          cases heq
          exact if_neg hlong

/-- A path leads to a file exactly if it names a place where the file is. -/
theorem stat_eq_file_iff {t : FileTree} {path : Text} {id : FileId} :
    t.stat path = .ok (.file id) ↔
      ∃ place, t.slot? path = some place ∧ t.nodeAt place = some (.file id) := by
  unfold stat slot? child
  cases t.lead path with
  | error e => simp
  | ok l =>
    cases l with
    | directory => simp
    | entry directory name slash =>
      by_cases hlong : Path.maxNameOctets < Path.octets name
      · cases slash <;> simp [hlong]
      cases hnode : t.nodeAt (directory ++ [name]) with
      | none => cases slash <;> simp [hlong, hnode]
      | some n => cases n <;> cases slash <;> simp [hlong, hnode]

theorem ne_nil_of_slot? {t : FileTree} {path : Text} {place : Place}
    (h : t.slot? path = some place) : place ≠ [] := by
  obtain ⟨directory, name, -, -, rfl⟩ := slot?_eq_some_iff.mp h
  simp

theorem nodeAt_insert {t : FileTree} {place : Place} (hne : place ≠ []) (n : Node) (p : Place) :
    nodeAt { t with nodes := t.nodes.insert place n } p =
      if p = place then some n else t.nodeAt p := by
  unfold nodeAt
  by_cases hp : p = place
  · subst hp
    simp [hne, OrderedMap.get?_insert]
  · have hcmp : ¬compare p place = .eq := fun h => hp (Std.LawfulEqCmp.eq_of_compare h)
    simp [hp, OrderedMap.get?_insert, hcmp]

theorem nodeAt_create {t : FileTree} {place : Place} (hne : place ≠ []) (id : FileId)
    (p : Place) :
    (t.create place id).nodeAt p = if p = place then some (.file id) else t.nodeAt p :=
  nodeAt_insert hne (.file id) p

theorem nodeAt_write (t : FileTree) (id : FileId) (octets : List UInt8) (p : Place) :
    (t.write id octets).nodeAt p = t.nodeAt p := rfl

/-- A file at a place is one of the files that have a name. -/
theorem mem_fileIds_of_nodeAt {t : FileTree} {p : Place} {id : FileId}
    (h : t.nodeAt p = some (.file id)) : id ∈ t.fileIds := by
  unfold nodeAt at h
  split at h
  · cases h
  · exact List.mem_filterMap.mpr ⟨(p, .file id), OrderedMap.get?_eq_some_iff.mp h, rfl⟩

/-! ## Octets -/

theorem octetsAt_of_file {t : FileTree} {p : Place} {id : FileId}
    (h : t.nodeAt p = some (.file id)) : t.octetsAt p = t.contents id := by
  simp [octetsAt, h]

theorem octetsAt_write {t : FileTree} {p : Place} {id : FileId}
    (h : t.nodeAt p = some (.file id)) (octets : List UInt8) :
    (t.write id octets).octetsAt p = octets := by
  rw [octetsAt_of_file (nodeAt_write t id octets p ▸ h), contents_write_self]

/-- Creating a missing file changes the octets at no place. -/
theorem octetsAt_create {t : FileTree} {place : Place} {id : FileId} (hne : place ≠ [])
    (hmissing : t.nodeAt place = none) (hid : id ∉ t.fileIds) (p : Place) :
    (t.create place id).octetsAt p = t.octetsAt p := by
  by_cases hp : p = place
  · subst hp
    have hnode : (t.create p id).nodeAt p = some (.file id) := by simp [nodeAt_create hne]
    rw [octetsAt_of_file hnode, octetsAt, hmissing]
    exact contents_write_self _ id []
  · have hnode : (t.create place id).nodeAt p = t.nodeAt p := by simp [nodeAt_create hne, hp]
    unfold octetsAt
    rw [hnode]
    split
    · next other hother =>
      have hfresh : other ≠ id := fun h => hid (h ▸ mem_fileIds_of_nodeAt hother)
      exact contents_write_of_ne hfresh _ []
    · rfl

/-! ## Paths while the directories stay -/

section

variable {t t' : FileTree}
  (hdir : ∀ p, t.nodeAt p = some .directory → t'.nodeAt p = some .directory)

include hdir

theorem walk_of_directories {place directory : Place} {ns : List Text}
    (h : t.walk place ns = .ok directory) : t'.walk place ns = .ok directory := by
  induction ns generalizing place with
  | nil => exact h
  | cons n ns ih =>
    rw [walk] at h ⊢
    -- A path that was walked stays in its directory, goes up or enters a directory that is still
    -- there.
    split at h
    · next hstay => rw [if_pos hstay]; exact ih h
    · next hstay =>
      rw [if_neg hstay]
      split at h
      · next hup => rw [if_pos hup]; exact ih h
      · next hup =>
        rw [if_neg hup]
        split at h
        · cases h
        · next hlong =>
          rw [if_neg hlong]
          split at h
          · cases h
          · cases h
          · next hnode => rw [hdir _ hnode]; exact ih h

theorem lead_of_directories {path : Text} {l : Lead} (h : t.lead path = .ok l) :
    t'.lead path = .ok l := by
  unfold lead at h ⊢
  split at h
  · cases h
  · next hnul =>
    rw [if_neg hnul]
    split at h
    · cases h
    · next hempty =>
      rw [if_neg hempty]
      split at h
      · cases h
      · next hlong =>
        rw [if_neg hlong]
        split at h
        · exact h
        · split at h
          · cases h
          · next hwalk => rw [walk_of_directories hdir hwalk]; exact h

/-- A path keeps its place while the directories stay. -/
theorem slot?_of_directories {path : Text} {place : Place} (h : t.slot? path = some place) :
    t'.slot? path = some place := by
  obtain ⟨directory, name, hlead, hrest⟩ := slot?_eq_some_iff.mp h
  exact slot?_eq_some_iff.mpr ⟨directory, name, lead_of_directories hdir hlead, hrest⟩

end

/-- Paths name the same places while the directories are the same. -/
theorem slot?_congr {t t' : FileTree}
    (hdir : ∀ p, t'.nodeAt p = some .directory ↔ t.nodeAt p = some .directory) (path : Text) :
    t'.slot? path = t.slot? path :=
  Option.ext fun _ =>
    ⟨slot?_of_directories fun p => (hdir p).mp, slot?_of_directories fun p => (hdir p).mpr⟩

theorem directories_create {t : FileTree} {place : Place} {id : FileId} (hne : place ≠ [])
    (hmissing : t.nodeAt place = none) (p : Place) (h : t.nodeAt p = some .directory) :
    (t.create place id).nodeAt p = some .directory := by
  have hp : p ≠ place := by
    rintro rfl
    rw [hmissing] at h
    cases h
  simp [nodeAt_create hne, hp, h]

/-- What opening a path for writing does to a tree: it fails if the path names no place or if a
directory is there. -/
theorem openOrCreate_cases (t : FileTree) (new : FileId) (path : Text) :
    ((∀ place, t.slot? path = some place → t.nodeAt place = some .directory) ∧
        ∃ e, t.openOrCreate new path = .error e) ∨
      ∃ place, t.slot? path = some place ∧
        ((∃ id, t.nodeAt place = some (.file id) ∧ t.openOrCreate new path = .ok (id, t)) ∨
          t.nodeAt place = none ∧ t.openOrCreate new path = .ok (new, t.create place new)) := by
  unfold openOrCreate slot? child
  cases hl : t.lead path with
  | error e => exact .inl ⟨by simp, e, rfl⟩
  | ok l =>
    cases l with
    | directory => exact .inl ⟨by simp, _, rfl⟩
    | entry directory name slash =>
      cases slash with
      | true => exact .inl ⟨by simp, _, rfl⟩
      | false =>
        by_cases hlong : Path.maxNameOctets < Path.octets name
        · exact .inl ⟨by simp [hlong], .system SystemError.nameTooLong, by simp [hlong]⟩
        cases hnode : t.nodeAt (directory ++ [name]) with
        | none =>
          exact .inr ⟨directory ++ [name], by simp [hlong], .inr ⟨hnode, by simp [hlong, hnode]⟩⟩
        | some n =>
          cases n with
          | directory =>
            exact .inl ⟨by simp [hlong, hnode], .system SystemError.isADirectory,
              by simp [hlong, hnode]⟩
          | file id =>
            exact .inr ⟨directory ++ [name], by simp [hlong],
              .inl ⟨id, hnode, by simp [hlong, hnode]⟩⟩

end FileTree

namespace Host

theorem newFile_not_mem (h : Host) : h.newFile ∉ h.files.fileIds := fun hm =>
  absurd (lt_firstAbove (List.mem_append_left h.locks.files hm)) (Nat.lt_irrefl _)

theorem newFile_not_locked (h : Host) : h.newFile ∉ h.locks.files := fun hm =>
  absurd (lt_firstAbove (List.mem_append_right h.files.fileIds hm)) (Nat.lt_irrefl _)

/-- A host that opened a file at a place: the file was there, or it was created. -/
inductive Opened (h : Host) (place : Place) : FileId → Host → Prop where
  | found {id : FileId} (hnode : h.files.nodeAt place = some (.file id)) : Opened h place id h
  | created (hnode : h.files.nodeAt place = none) :
      Opened h place h.newFile { h with files := h.files.create place h.newFile }

/-- What opening a path does. -/
theorem openFile_cases (h : Host) (path : Text) :
    ((∀ place, h.files.slot? path = some place → h.files.nodeAt place = some .directory) ∧
        ∃ e, h.openFile path = (.error e, h)) ∨
      ∃ place id h', h.files.slot? path = some place ∧ Opened h place id h' ∧
        h.openFile path = (.ok ⟨h.locks.newDescriptor, id⟩, h') := by
  unfold openFile
  rcases h.files.openOrCreate_cases h.newFile path with
    ⟨hno, e, he⟩ | ⟨place, hslot, ⟨id, hnode, hopen⟩ | ⟨hnode, hopen⟩⟩
  · exact .inl ⟨hno, e, by rw [he]⟩
  · exact .inr ⟨place, id, h, hslot, .found hnode, by rw [hopen]⟩
  · exact .inr ⟨place, _, _, hslot, .created hnode, by rw [hopen]⟩

namespace Opened

variable {h h' : Host} {place : Place} {id : FileId}

theorem nodeAt (ho : Opened h place id h') (hne : place ≠ []) :
    h'.files.nodeAt place = some (.file id) := by
  cases ho with
  | found hnode => exact hnode
  | created hnode => simp [FileTree.nodeAt_create hne]

theorem octetsAt (ho : Opened h place id h') (hne : place ≠ []) (p : Place) :
    h'.files.octetsAt p = h.files.octetsAt p := by
  cases ho with
  | found hnode => rfl
  | created hnode => exact FileTree.octetsAt_create hne hnode h.newFile_not_mem p

/-- A file that is at a place stays there. -/
theorem nodeAt_file (ho : Opened h place id h') (hne : place ≠ []) {p : Place} {other : FileId}
    (hp : h.files.nodeAt p = some (.file other)) : h'.files.nodeAt p = some (.file other) := by
  cases ho with
  | found hnode => exact hp
  | created hnode =>
    have hpp : p ≠ place := by
      rintro rfl
      rw [hnode] at hp
      cases hp
    simp [FileTree.nodeAt_create hne, hpp, hp]

theorem directories (ho : Opened h place id h') (hne : place ≠ []) (p : Place)
    (hp : h.files.nodeAt p = some .directory) : h'.files.nodeAt p = some .directory := by
  cases ho with
  | found hnode => exact hp
  | created hnode => exact FileTree.directories_create hne hnode p hp

/-- Opening changes the files only. -/
theorem eq_with_files (ho : Opened h place id h') : h' = { h with files := h'.files } := by
  cases ho <;> rfl

end Opened

end Host

end PortReservation
