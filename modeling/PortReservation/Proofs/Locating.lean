import PortReservation.Proofs.History
import PortReservation.Proofs.Passing

/-!
# Which ledger is found

A locator is asked for its ledger again and again, while its property is set, and the environment
and the files change. It looks when it is asked first after its property was set, and that decides
what it answers until the property is set again.

* `Names`, `Usable`: which path is looked at, and when it serves.
* `Event`, `run`: what can happen to a locator and its host.
* `Split`: the events before and after the look that decides.
* `resolve_run`: what a locator answers after any events, and what that does to the files.
-/

namespace PortReservation

/-- A path that names a place leads to what is there. -/
theorem FileTree.stat_of_slot? {t : FileTree} {path : Text} {place : Place}
    (hslot : t.slot? path = some place) :
    t.stat path = match t.nodeAt place with
      | none => .error (.system SystemError.noSuchFile)
      | some n => .ok n := by
  obtain ⟨directory, name, hlead, hlong, rfl⟩ := slot?_eq_some_iff.mp hslot
  rw [stat, hlead]
  simp only [child, if_neg hlong]
  cases t.nodeAt (directory ++ [name]) with
  | none => rfl
  | some n => cases n <;> rfl

namespace Locator

/-! ## Looking for a ledger -/

/-- Whether a path is named: by a variable of the environment, if that has a value that is not
empty, and else by a property. -/
def Names (h : Host) (variableName : Text) (property : Option Text) (path : Text) : Prop :=
  h.environment.value? variableName = some path ∧ path ≠ [] ∨
    (h.environment.value? variableName = none ∨ h.environment.value? variableName = some []) ∧
      property = some path

/-- Whether a path leads to a file, or a missing one can be created there. -/
def Usable (h : Host) (path : Text) : Prop :=
  (∃ id, h.files.stat path = .ok (.file id)) ∨
    ∃ place, h.files.slot? path = some place ∧ h.files.nodeAt place = none

/-- What becomes of the files: those that are there stay as they are, and others are created empty,
at some places. -/
structure Touched (h h' : Host) (At : Place → Prop) : Prop where
  kept : ∀ p id, h.files.nodeAt p = some (.file id) →
    h'.files.nodeAt p = some (.file id) ∧ h'.files.contents id = h.files.contents id
  created : ∀ p, h'.files.nodeAt p ≠ h.files.nodeAt p → At p ∧ h.files.nodeAt p = none ∧
    ∃ id, h'.files.nodeAt p = some (.file id) ∧ h'.files.contents id = []

variable {l : Locator} {h : Host} {path : Text}

theorem named?_eq_some_iff :
    l.named? h = some path ↔ Names h l.variableName l.property path := by
  unfold named? Names Host.variableValue
  cases h.environment.value? l.variableName with
  | none => simp
  | some value =>
    cases value with
    | nil => simp
    | cons c value => simp only [List.isEmpty_cons]; grind

theorem Touched.mono {h h' : Host} {At At' : Place → Prop} (ht : Touched h h' At)
    (hat : ∀ p, At p → At' p) : Touched h h' At' :=
  ⟨ht.kept, fun p hp => (ht.created p hp).imp_left (hat p)⟩

theorem touched_refl (h : Host) (At : Place → Prop) : Touched h h At :=
  ⟨fun _ _ hp => ⟨hp, rfl⟩, fun _ hp => absurd rfl hp⟩

/-- Creating the file of a path that leads nowhere. -/
theorem touch_cases (path : Text) (h : Host) :
    (∃ n, h.files.stat path = .ok n ∧ touch path h = (.ok (), h)) ∨
      (¬Usable h path ∧ ∃ e, touch path h = (.error e, h)) ∨
      ∃ place, h.files.slot? path = some place ∧ h.files.nodeAt place = none ∧
        touch path h = (.ok (), { h with files := h.files.create place h.newFile }.closeFile
          ⟨h.locks.newDescriptor, h.newFile⟩) := by
  unfold touch
  cases hs : h.files.stat path with
  | ok n => exact .inl ⟨n, rfl, rfl⟩
  | error e =>
    refine .inr ?_
    rcases h.openFile_cases path with ⟨hno, e', he⟩ | ⟨place, id, h', hslot, ho, hopen⟩
    · rw [he]
      refine .inl ⟨?_, _, rfl⟩
      rintro (⟨id, hfile⟩ | ⟨place, hslot, hnode⟩)
      · rw [hs] at hfile
        cases hfile
      · rw [hno place hslot] at hnode
        cases hnode
    · cases ho with
      | found hnode =>
        rw [FileTree.stat_of_slot? hslot, hnode] at hs
        cases hs
      | created hnode =>
        rw [hopen]
        exact .inr ⟨place, hslot, hnode, rfl⟩

/-- A path leads to the file that was created for it. -/
theorem stat_create {t : FileTree} {place : Place} (hslot : t.slot? path = some place)
    (hmissing : t.nodeAt place = none) (id : FileId) :
    (t.create place id).stat path = .ok (.file id) := by
  have hne := FileTree.ne_nil_of_slot? hslot
  have hslot' : (t.create place id).slot? path = some place :=
    FileTree.slot?_of_directories (FileTree.directories_create hne hmissing) hslot
  exact FileTree.stat_eq_file_iff.mpr ⟨place, hslot', by simp [FileTree.nodeAt_create hne]⟩

/-- A path can be prepared exactly if it is usable. -/
theorem prepare_eq_ok_iff : (prepare path h).1 = .ok () ↔ Usable h path := by
  rcases touch_cases path h with ⟨n, hs, ht⟩ | ⟨hno, e, ht⟩ | ⟨place, hslot, hnode, ht⟩
  · rw [prepare, ht]
    dsimp only
    rw [hs]
    constructor
    · intro hok
      cases n with
      | directory => cases hok
      | file id => exact .inl ⟨id, hs⟩
    · rintro (⟨id, hfile⟩ | ⟨place, hslot, hnode⟩)
      · cases hs.symm.trans hfile
        rfl
      · rw [FileTree.stat_of_slot? hslot, hnode] at hs
        cases hs
  · rw [prepare, ht]
    -- Nothing is there, and nothing can be created.
    exact iff_of_false (fun hok => nomatch hok) hno
  · rw [prepare, ht]
    -- The file is created, so the path leads to it now.
    refine iff_of_true ?_ (.inr ⟨place, hslot, hnode⟩)
    have hstat := stat_create hslot hnode h.newFile
    dsimp only [Host.closeFile]
    rw [hstat]

/-- Preparing a path creates at most the file at its place. -/
theorem touched_prepare (path : Text) (h : Host) :
    Touched h (prepare path h).2 fun p => h.files.slot? path = some p := by
  rw [host_prepare]
  rcases touch_cases path h with ⟨n, -, ht⟩ | ⟨-, e, ht⟩ | ⟨place, hslot, hnode, ht⟩
  · rw [ht]
    exact touched_refl h _
  · rw [ht]
    exact touched_refl h _
  · rw [ht]
    have hne := FileTree.ne_nil_of_slot? hslot
    have hcreate := FileTree.nodeAt_create (t := h.files) hne h.newFile
    refine ⟨fun p id hp => ⟨?_, ?_⟩, fun p hp => ?_⟩
    · -- What was there is not at the place of the new file, and has another number.
      have hother : p ≠ place := by
        rintro rfl
        rw [hnode] at hp
        cases hp
      exact (hcreate p).trans ((if_neg hother).trans hp)
    · refine FileTree.contents_write_of_ne ?_ _ []
      rintro rfl
      exact h.newFile_not_mem (FileTree.mem_fileIds_of_nodeAt hp)
    · have hthere : p = place := by
        by_contra hother
        exact hp ((hcreate p).trans (if_neg hother))
      subst hthere
      exact ⟨hslot, hnode, h.newFile, (hcreate p).trans (if_pos rfl),
        FileTree.contents_write_self _ h.newFile []⟩

/-- Looking finds the path that is named, if it is usable. -/
theorem look_eq_some_iff :
    (l.look h).1.path? = some path ↔
      Names h l.variableName l.property path ∧ Usable h path := by
  rw [← named?_eq_some_iff, ← prepare_eq_ok_iff]
  unfold look
  cases l.named? h with
  | none => simp [Location.path?]
  | some named =>
    cases hp : prepare named h with
    | mk answer h' =>
      cases answer with
      | error e =>
        simp only [Location.path?, hp]
        constructor
        · intro heq
          cases heq
        · rintro ⟨heq, hok⟩
          cases heq
          rw [hp] at hok
          cases hok
      | ok =>
        simp only [Location.path?, hp]
        constructor
        · intro heq
          cases heq
          exact ⟨rfl, congrArg Prod.fst hp⟩
        · exact fun heq => heq.1

/-- Looking creates at most the file at the place of the path that is named. -/
theorem touched_look (l : Locator) (h : Host) :
    Touched h (l.look h).2 fun p =>
      ∃ path, Names h l.variableName l.property path ∧ h.files.slot? path = some p := by
  unfold look
  cases hn : l.named? h with
  | none => exact touched_refl h _
  | some path =>
    have hnames := named?_eq_some_iff.mp hn
    have hprepare := (touched_prepare path h).mono fun p hp =>
      (⟨path, hnames, hp⟩ : ∃ path, Names h l.variableName l.property path ∧
        h.files.slot? path = some p)
    dsimp only
    cases hp : prepare path h with
    | mk answer h' =>
      rw [hp] at hprepare
      cases answer <;> exact hprepare

/-! ## Runs -/

/-- What can happen to a locator and its host. -/
inductive Event where
  | resolve
  | setProperty (path : Option Text)
  | clear
  /-- The environment, the files or anything else of the host changes. -/
  | change (h : Host)

/-- Whether an event makes a locator forget what it found. -/
def Event.Resets : Event → Prop
  | .setProperty _ | .clear => True
  | _ => False

/-- The property after an event. -/
def Event.property (property : Option Text) : Event → Option Text
  | .setProperty path => path
  | .clear => none
  | _ => property

/-- The property that was set last. -/
def propertyAfter (property : Option Text) (es : List Event) : Option Text :=
  es.foldl Event.property property

/-- An event happens. -/
def step (s : Locator × Host) : Event → Locator × Host
  | .resolve => (s.1.resolve s.2).2
  | .setProperty path => (s.1.setProperty path, s.2)
  | .clear => (s.1.clear, s.2)
  | .change h => (s.1, h)

/-- Some events happen, in order. -/
def run (s : Locator × Host) (es : List Event) : Locator × Host := es.foldl step s

/-- A new locator on a host. -/
def fresh (variableName : Text) (property : Option Text) (h : Host) : Locator × Host :=
  ({ variableName, property }, h)

theorem run_concat (s : Locator × Host) (es : List Event) (e : Event) :
    run s (es ++ [e]) = step (run s es) e := by
  rw [run, List.foldl_append]
  rfl

theorem propertyAfter_concat (property : Option Text) (es : List Event) (e : Event) :
    propertyAfter property (es ++ [e]) = e.property (propertyAfter property es) := by
  rw [propertyAfter, List.foldl_append]
  rfl

/-- The events before and after the look that decides what a locator answers: before it, the locator
was not asked since its property was set last, and after it, the property is not set. If there was
no such look yet, all events are before it. -/
structure Split (es before after : List Event) : Prop where
  eq_append : es = before ++ after
  not_asked : ¬Since before .resolve fun e => ¬e.Resets
  not_reset : ∀ e ∈ after, ¬e.Resets
  asked : after = [] ∨ ∃ rest, after = .resolve :: rest

theorem Split.nil : Split [] [] [] :=
  ⟨rfl, not_since_nil, fun _ he => (nomatch he), .inl rfl⟩

/-- The property was set. -/
theorem Split.reset {es : List Event} {e : Event} (hreset : e.Resets) :
    Split (es ++ [e]) (es ++ [e]) [] := by
  refine ⟨(List.append_nil _).symm, ?_, fun _ he => (nomatch he), .inl rfl⟩
  rw [since_concat]
  rintro (rfl | ⟨-, hkeep⟩)
  · exact hreset
  · exact hkeep hreset

/-- The locator is asked for the first time. -/
theorem Split.ask {es : List Event} (hs : Split es es []) :
    Split (es ++ [.resolve]) es [.resolve] where
  eq_append := rfl
  not_asked := hs.not_asked
  not_reset e he hreset := by
    cases List.mem_singleton.mp he
    exact hreset
  asked := .inr ⟨[], rfl⟩

/-- The locator is not asked yet. -/
theorem Split.wait {es : List Event} (hs : Split es es []) (h : Host) :
    Split (es ++ [.change h]) (es ++ [.change h]) [] := by
  refine ⟨(List.append_nil _).symm, ?_, fun _ he => (nomatch he), .inl rfl⟩
  rw [since_concat]
  rintro (heq | ⟨hasked, -⟩)
  · cases heq
  · exact hs.not_asked hasked

/-- Something happens after the locator was asked. -/
theorem Split.later {es before after : List Event} (hs : Split es before after)
    (hasked : after ≠ []) {e : Event} (hkeep : ¬e.Resets) :
    Split (es ++ [e]) before (after ++ [e]) where
  eq_append := by rw [hs.eq_append, List.append_assoc]
  not_asked := hs.not_asked
  not_reset d hd := by
    rcases List.mem_append.mp hd with hd | hd
    · exact hs.not_reset d hd
    · cases List.mem_singleton.mp hd
      exact hkeep
  asked := by
    rcases hs.asked with hnil | ⟨rest, rfl⟩
    · exact absurd hnil hasked
    · exact .inr ⟨rest ++ [e], rfl⟩

/-- What a locator knows that was new: nothing before the look that decides, and after it what was
found by it. -/
structure Knows (s : Locator × Host) (es before after : List Event) : Prop
    extends Split es before after where
  before_look : (run s before).1 = { s.1 with property := propertyAfter s.1.property before }
  after_look : after ≠ [] → (run s es).1 = ((run s before).1.resolve (run s before).2).2.1

/-- A locator looks at one variable for good. -/
theorem run_variableName (s : Locator × Host) (es : List Event) :
    (run s es).1.variableName = s.1.variableName := by
  induction es using List.reverseRecOn with
  | nil => rfl
  | append_singleton es e ih =>
    rw [run_concat]
    cases e with
    | resolve =>
      rw [← ih, step, resolve]
      split <;> rfl
    | setProperty path => exact ih
    | clear => exact ih
    | change h => exact ih

/-- What is known after some events: by induction on them, from the last one. -/
theorem knows_run {s : Locator × Host} (hs : s.1.location = .unresolved) (es : List Event) :
    ∃ before after, Knows s es before after := by
  induction es using List.reverseRecOn with
  | nil => exact ⟨[], [], .nil, rfl, fun hasked => absurd rfl hasked⟩
  | append_singleton es e ih =>
    obtain ⟨before, after, hk⟩ := ih
    have hname := run_variableName s es
    cases e with
    | setProperty path =>
      refine ⟨_, [], .reset (e := .setProperty path) trivial, ?_, fun hasked => absurd rfl hasked⟩
      rw [run_concat, propertyAfter_concat, step, setProperty, hname, ← hs]
      rfl
    | clear =>
      refine ⟨_, [], .reset (e := .clear) trivial, ?_, fun hasked => absurd rfl hasked⟩
      rw [run_concat, propertyAfter_concat, step, clear, setProperty, hname, ← hs]
      rfl
    | resolve =>
      by_cases hasked : after = []
      · subst hasked
        obtain rfl : es = before := by simpa using hk.eq_append
        -- The first look since the property was set is the one that decides.
        refine ⟨es, [.resolve], hk.toSplit.ask, hk.before_look, fun _ => ?_⟩
        rw [run_concat, step]
      · refine ⟨before, after ++ [.resolve], hk.toSplit.later hasked id,
          hk.before_look, fun _ => ?_⟩
        rw [run_concat, step, hk.after_look hasked, resolve_resolve]
    | change h =>
      by_cases hasked : after = []
      · subst hasked
        obtain rfl : es = before := by simpa using hk.eq_append
        refine ⟨_, [], hk.toSplit.wait h, ?_, fun hasked => absurd rfl hasked⟩
        rw [run_concat, propertyAfter_concat]
        exact hk.before_look
      · refine ⟨before, after ++ [.change h], hk.toSplit.later hasked id,
          hk.before_look, fun _ => ?_⟩
        rw [run_concat]
        exact hk.after_look hasked

/-- However often a locator that was new was asked, its property was set, and the host changed: it
answers the path that was named at the look that decides, if that was usable then, and nothing
otherwise. To answer changes no file; it creates one at most, which was missing, and this only if
the locator looks now. -/
theorem resolve_run (variableName : Text) (property : Option Text) (h : Host) (es : List Event) :
    ∃ before after, Split es before after ∧
      (∀ path,
        ((run (fresh variableName property h) es).1.resolve
            (run (fresh variableName property h) es).2).1 = some path ↔
          Names (run (fresh variableName property h) before).2 variableName
              (propertyAfter property before) path ∧
            Usable (run (fresh variableName property h) before).2 path) ∧
      Touched (run (fresh variableName property h) es).2
        (run (fresh variableName property h) (es ++ [.resolve])).2
        fun p => after = [] ∧ ∃ path,
          Names (run (fresh variableName property h) es).2 variableName
              (propertyAfter property es) path ∧
            (run (fresh variableName property h) es).2.files.slot? path = some p := by
  obtain ⟨before, after, hk⟩ := knows_run (s := fresh variableName property h) rfl es
  have hlook := resolve_unresolved (l := (run (fresh variableName property h) before).1)
    (by rw [hk.before_look]; rfl)
  -- What the look that decides finds depends on the host and the property at that time alone.
  have hfound : ∀ path,
      ((run (fresh variableName property h) before).1.resolve
          (run (fresh variableName property h) before).2).1 = some path ↔
        Names (run (fresh variableName property h) before).2 variableName
            (propertyAfter property before) path ∧
          Usable (run (fresh variableName property h) before).2 path := by
    intro path
    rw [hlook, look_eq_some_iff, hk.before_look]
    rfl
  refine ⟨before, after, hk.toSplit, ?_⟩
  rw [run_concat, step]
  by_cases hasked : after = []
  · -- The locator looks now.
    subst hasked
    obtain rfl : es = before := by simpa using hk.eq_append
    refine ⟨hfound, ?_⟩
    have htouched := touched_look (run (fresh variableName property h) es).1
      (run (fresh variableName property h) es).2
    rw [hlook]
    refine htouched.mono fun p hp => ⟨rfl, ?_⟩
    rwa [hk.before_look] at hp
  · -- It was asked before, so it answers what it found then.
    rw [hk.after_look hasked, resolve_resolve]
    exact ⟨hfound, touched_refl _ _⟩

/-- A host on which a variable names a file. -/
def namedHost : Host := { Host.bare 1000 with environment := OrderedMap.empty.insert ['v'] ['q'] }

/-- The host with the variable set to nothing. -/
def emptiedHost : Host := { Host.bare 1000 with environment := OrderedMap.empty.insert ['v'] [] }

/-- What a locator answers that looks at the variable and has a property, after some events. -/
def namedAnswer (es : List Event) : Option Text :=
  ((run (fresh ['v'] (some ['p']) namedHost) es).1.resolve
    (run (fresh ['v'] (some ['p']) namedHost) es).2).1

/-- The variable wins over the property, and what was found stays when the variable is emptied. A
locator that looks only then finds what its property names. -/
theorem resolve_run_namedHost :
    namedHost.environment.value? ['v'] = some ['q'] ∧ namedAnswer [] = some ['q'] ∧
      emptiedHost.environment.value? ['v'] = some [] ∧
      namedAnswer [.change emptiedHost] = some ['p'] ∧
      namedAnswer [.resolve, .change emptiedHost] = some ['q'] ∧
      ∃ before after, Split [.resolve, .change emptiedHost] before after ∧
        Names (run (fresh ['v'] (some ['p']) namedHost) before).2 ['v']
            (propertyAfter (some ['p']) before) ['q'] ∧
          Usable (run (fresh ['v'] (some ['p']) namedHost) before).2 ['q'] := by
  have hkept : namedAnswer [.resolve, .change emptiedHost] = some ['q'] := by cbv
  obtain ⟨before, after, hsplit, hanswer, -⟩ :=
    resolve_run ['v'] (some ['p']) namedHost [.resolve, .change emptiedHost]
  exact ⟨by cbv, by cbv, by cbv, by cbv, hkept, before, after, hsplit, (hanswer _).mp hkept⟩

end Locator

end PortReservation
