import PortReservation.Proofs.Session.Basic

/-!
# What happens to a locked file

From the time that a handle is acquired to its release, its file belongs to it: nobody in this
process gets another handle on the file or reserves a port in it, and only what is written through
the handle changes its octets. So the handle reads back what it wrote last.

* `contents_step`: what an event writes to the file of a handle.
* `contents_run`: what some events leave in it, by induction on the events.
* `isolated`: no other handle, no reservation, and what the handle reads.
-/

namespace PortReservation

namespace Host

variable {h : Host} {e : Descriptor × FileId}

/-- Asking for a handle writes to no locked file. -/
theorem contents_acquire (he : e ∈ h.locks.exclusive) (policy : LockPolicy) (path : Text) :
    (h.acquire policy path).2.files.contents e.2 = h.files.contents e.2 := by
  rcases h.acquire_cases policy path with
    ⟨-, e', heq⟩ | ⟨place, id, h', hslot, ho, ⟨-, heq⟩ | ⟨-, heq⟩⟩
  · rw [heq]
  · rw [heq]
    exact (ho.passed (FileTree.ne_nil_of_slot? hslot)).contents e he
  · rw [heq]
    exact (ho.passed (FileTree.ne_nil_of_slot? hslot)).contents e he

/-- Another process that tries for a record lock writes to no locked file. -/
theorem contents_holdFile (he : e ∈ h.locks.exclusive) (process : Nat) (path : Text) :
    (h.holdFile process path).2.files.contents e.2 = h.files.contents e.2 := by
  rcases h.holdFile_cases process path with heq | ⟨place, id, h', hne, ho, heq⟩
  · rw [heq]
  · rw [heq]
    exact (ho.passed hne).contents e he

end Host

/-- No port can be reserved in a locked file. -/
theorem Ledger.tryReserve_of_locked {l : Ledger} {h : Host} {e : Descriptor × FileId}
    (he : e ∈ h.locks.exclusive) (hpath : h.files.stat l.path = .ok (.file e.2)) (port : Port) :
    (l.tryReserve port h).1 = .error (.lockTimeout l.path l.policy.attempts) := by
  rw [tryReserve_eq, Host.acquire_of_not_available hpath (Host.not_available_of_locked he)]

/-- The text that something writes through a handle. -/
def Event.written? (handle : LockHandle) : Event → Option Text
  | .rewrite other text => if other = handle then some text else none
  | _ => none

namespace Session

/-- The text that some events wrote last through a handle. -/
def lastRewrite (handle : LockHandle) (es : List Event) : Option Text :=
  es.reverse.findSome? (Event.written? handle)

/-- Whether what else changes on the host leaves a file as it is. -/
def Spared (s : Session) (es : List Event) (f : FileId) : Prop :=
  ∀ before h after, es = before ++ .locking (.elsewhere h) :: after →
    h.files.contents f = (s.run before).host.files.contents f

variable {s : Session} {handle : LockHandle}

theorem lastRewrite_concat (handle : LockHandle) (es : List Event) (e : Event) :
    lastRewrite handle (es ++ [e]) = (e.written? handle).or (lastRewrite handle es) := by
  rw [lastRewrite, List.reverse_append, List.reverse_singleton, List.singleton_append,
    List.findSome?_cons]
  cases e.written? handle <;> rfl

theorem Spared.left {es : List Event} {e : Event} {f : FileId} (h : s.Spared (es ++ [e]) f) :
    s.Spared es f := by
  rintro before h' after rfl
  exact h before h' (after ++ [e]) (by simp)

theorem Spared.last {es : List Event} {e : Event} {f : FileId} (h : s.Spared (es ++ [e]) f)
    {h' : Host} (he : e = .locking (.elsewhere h')) :
    h'.files.contents f = (s.run es).host.files.contents f :=
  h es h' [] (by rw [he])

/-- What an event leaves in the file of a handle: the text that it writes through the handle, if it
does, and what was there, if it does not. -/
theorem contents_step (hs : s.Sound) (hhandle : handle ∈ s.handles) {e : Event}
    (hspared : ∀ h, e = .locking (.elsewhere h) →
      h.files.contents handle.opened.file = s.host.files.contents handle.opened.file) :
    (s.step e).host.files.contents handle.opened.file =
      (e.written? handle).elim (s.host.files.contents handle.opened.file) Utf8.encode := by
  have hlocked := hs.locked handle hhandle
  cases e with
  | locking e =>
    cases e with
    | acquire policy path =>
      rw [← Host.contents_acquire hlocked policy path]
      show (s.acquire policy path).host.files.contents _ = _
      unfold acquire
      split <;> next heq => rw [heq]; rfl
    | release other =>
      show (s.release other).host.files.contents _ = _
      unfold release
      split <;> rfl
    | tryReserve l port => exact (l.visit_tryReserve port s.host).passed.contents _ hlocked
    | reserve l port => exact (l.visit_reserve port s.host).passed.contents _ hlocked
    | entries l => exact (l.visit_entries s.host).passed.contents _ hlocked
    | hold process path => exact Host.contents_holdFile hlocked process path
    | giveBack process file => rfl
    | exit process => rfl
    | elsewhere h => exact hspared h rfl
  | rewrite other text =>
    show (s.rewrite other text).host.files.contents _ =
      (if other = handle then some text else none).elim _ _
    unfold rewrite
    by_cases heq : other = handle
    · subst heq
      rw [if_pos hhandle, if_pos rfl]
      exact s.host.contents_writeLocked other text
    · rw [if_neg heq]
      split
      · next hother =>
        have hne : handle.opened.file ≠ other.opened.file := fun hfile =>
          heq (hs.eq_of_file hother hhandle hfile.symm)
        exact FileTree.contents_write_of_ne hne _ _
      · rfl
  | look a q => exact (a.passed_inquire q s.host).contents _ hlocked
  | resolve l => exact (l.passed_resolve s.host).contents _ hlocked

/-- What some events leave in the file of a handle that they do not release. -/
theorem contents_run (hs : s.Sound) (hhandle : handle ∈ s.handles) {es : List Event}
    (hkept : .locking (.release handle) ∉ es) (hspared : s.Spared es handle.opened.file) :
    handle ∈ (s.run es).handles ∧ (s.run es).host.files.contents handle.opened.file =
      (lastRewrite handle es).elim (s.host.files.contents handle.opened.file) Utf8.encode := by
  induction es using List.reverseRecOn with
  | nil => exact ⟨hhandle, rfl⟩
  | append_singleton es e ih =>
    have hes : .locking (.release handle) ∉ es := fun hmem =>
      hkept (List.mem_append_left _ hmem)
    have he : e ≠ .locking (.release handle) := by
      rintro rfl
      exact hkept (List.mem_append_right _ List.mem_cons_self)
    obtain ⟨hlive, hcontents⟩ := ih hes hspared.left
    have hstep := contents_step (hs.run es) hlive fun _ heq => hspared.last heq
    rw [run_concat, lastRewrite_concat]
    refine ⟨mem_handles_step hlive he, hstep.trans ?_⟩
    cases e.written? handle with
    | none => exact hcontents
    | some text => rfl

/-- Until a handle is released, and while nothing else writes to its file: it is the only handle on
the file, and no other one can be had; no port can be reserved in the file; the file has the octets
of the text that was written last through the handle, or those that it had when the handle was
acquired; and the handle reads that text, or those octets. -/
theorem isolated {s s₁ s₂ : Session} (hs : s.Reached) {policy : LockPolicy} {path : Text}
    {handle : LockHandle} (hacquire : s.host.acquire policy path = (.ok handle, s₁.host))
    (hhandles : s₁.handles = handle :: s.handles) {es : List Event}
    (hkept : .locking (.release handle) ∉ es) (hspared : s₁.Spared es handle.opened.file)
    (hrun : s₂ = s₁.run es) :
    handle ∈ s₂.handles ∧
      (∀ other ∈ s₂.handles, other.opened.file = handle.opened.file → other = handle) ∧
      (∀ policy path other h, s₂.host.acquire policy path = (.ok other, h) →
        other.opened.file ≠ handle.opened.file) ∧
      (∀ l : Ledger, s₂.host.files.stat l.path = .ok (.file handle.opened.file) →
        ∀ port, (l.tryReserve port s₂.host).1 =
          .error (.lockTimeout l.path l.policy.attempts)) ∧
      s₂.host.files.contents handle.opened.file =
        (lastRewrite handle es).elim (s₁.host.files.contents handle.opened.file) Utf8.encode ∧
      s₂.host.readLocked handle =
        (lastRewrite handle es).getD
          (Utf8.decode (s₁.host.files.contents handle.opened.file)) := by
  obtain ⟨h₁, handles⟩ := s₁
  cases hhandles
  subst hrun
  have hsound := hs.sound.acquired hacquire
  obtain ⟨hlive, hcontents⟩ := contents_run hsound List.mem_cons_self hkept hspared
  have hlater := hsound.run es
  have hlocked := hlater.locked handle hlive
  refine ⟨hlive, fun other hother => hlater.eq_of_file hother hlive, ?_, ?_, hcontents, ?_⟩
  · intro policy path other h ha
    obtain ⟨place, hacq⟩ := Host.acquire_ok ha
    exact (hacq.file_ne hlocked).symm
  · intro l hpath port
    exact Ledger.tryReserve_of_locked hlocked hpath port
  · rw [Host.readLocked, hcontents]
    cases lastRewrite handle es with
    | none => rfl
    | some text => exact Utf8.decode_encode text

/-- A host with a file that is no UTF-8. -/
def oddHost : Host :=
  { Host.bare 0 with files := (({} : FileTree).create [['p']] 0).write 0 [255, 97] }

/-- The handle that is acquired on it. -/
def oddHandle : LockHandle := ⟨['p'], ⟨0, 0⟩⟩

/-- The session with that handle. -/
def oddSession : Session := ⟨(oddHost.acquire {} ['p']).2, [oddHandle]⟩

/-- Time passes, two texts are written, and meanwhile others ask for the file and a ledger. -/
def oddEvents : List Event :=
  [.locking (.elsewhere { oddSession.host with systemTime := 5 }),
    .rewrite oddHandle "4000=1".toList, .locking (.acquire { attempts := 0 } ['.', '/', 'p']),
    .look (.new { ledger := some ['p'] } .system) (.among [4000]), .rewrite oddHandle ['é'],
    .locking (.tryReserve { path := ['p'] } 4000)]

/-- The handle reads the second text. -/
theorem isolated_oddEvents :
    oddHost.acquire {} ['p'] = (.ok oddHandle, oddSession.host) ∧
      .locking (.release oddHandle) ∉ oddEvents ∧ oddSession.Spared oddEvents 0 ∧
      oddHandle ∈ (oddSession.run oddEvents).handles ∧
      (∀ other ∈ (oddSession.run oddEvents).handles, other.opened.file = 0 → other = oddHandle) ∧
      (∀ policy path other h,
        (oddSession.run oddEvents).host.acquire policy path = (.ok other, h) →
          other.opened.file ≠ 0) ∧
      (∀ l : Ledger, (oddSession.run oddEvents).host.files.stat l.path = .ok (.file 0) →
        ∀ port, (l.tryReserve port (oddSession.run oddEvents).host).1 =
          .error (.lockTimeout l.path l.policy.attempts)) ∧
      (oddSession.run oddEvents).host.files.contents 0 = Utf8.encode ['é'] ∧
      (oddSession.run oddEvents).host.readLocked oddHandle = ['é'] := by
  have hanswer : (oddHost.acquire {} ['p']).1 = .ok oddHandle := by cbv
  have hacquire : oddHost.acquire {} ['p'] = (.ok oddHandle, oddSession.host) :=
    Prod.ext hanswer rfl
  have hkept : .locking (.release oddHandle) ∉ oddEvents := by simp [oddEvents]
  have hspared : oddSession.Spared oddEvents 0 := by
    rintro before h after heq
    cases before with
    | nil =>
      cases heq
      rfl
    | cons e before =>
      -- Nothing but the first event is one that happens elsewhere.
      have hmem : .locking (.elsewhere h) ∈ oddEvents.tail := by
        rw [heq]
        exact List.mem_append_right before List.mem_cons_self
      simp [oddEvents] at hmem
  have hstart : Reached ⟨oddHost, []⟩ := ⟨oddHost, [], rfl⟩
  exact ⟨hacquire, hkept, hspared, isolated hstart hacquire rfl hkept hspared rfl⟩

end Session

end PortReservation
