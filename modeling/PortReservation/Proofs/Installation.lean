import PortReservation.Proofs.Unlinked
import PortReservation.Shared

/-!
# The one shared allocator

A process starts without a shared allocator. It is made by an installation whose configuration has
no problem, or with the default configuration by the first call that needs it, whichever comes
first. From then on every call works on that allocator, and no installation succeeds.

* `Call`, `after`: what a process can call, and what becomes of the shared allocator.
* `Event.Creates`: the events that make a shared allocator if there is none.
* `step_some`, `step_none_of_creates`: an event with a shared allocator and without one.
* `run_some`: a shared allocator is served what is asked of it, and nothing else happens to it.
* `run_installed`: the shared allocator after any calls of a process.
-/

namespace PortReservation

namespace Allocator

variable {a a' : Allocator}

/-- A look-up keeps the configuration. -/
theorem Lookup.config_eq {now : Millis} {candidates : List Port}
    {answer : Except Overflow (Option Port)} (hl : Lookup now a candidates answer a') :
    a'.config = a.config := by
  cases hl with
  | overflow => rfl
  | answered hnow hpurge ht =>
    obtain ⟨debounce, -, rfl⟩ := purge_eq_ok hpurge
    obtain ⟨locator, ⟨-, rfl⟩ | ⟨port, -, -, rfl⟩⟩ := ht.cases <;> rfl

/-- No operation changes the configuration. -/
theorem config_perform (a : Allocator) (op : Operation) (h : Host) :
    (a.perform op h).2.1.config = a.config := by
  cases op with
  | look q => exact (a.lookup_inquire q h).config_eq
  | list =>
    have hlist : (a.perform .list h).2.1 = (a.debouncedPorts h).2 := rfl
    rw [hlist, debouncedPorts]
    cases hp : a.purge h with
    | error o => rfl
    | ok a' =>
      obtain ⟨debounce, -, rfl⟩ := purge_eq_ok hp
      rfl
  | locate => rfl
  | setLedger path => rfl
  | clearLedger => rfl

theorem config_serve (a : Allocator) (h : Host) (es : List Event) :
    (a.serve h es).2.1.config = a.config := by
  induction es generalizing a h with
  | nil => rfl
  | cons e es ih =>
    cases e with
    | call op => exact (ih _ _).trans (a.config_perform op h)
    | change h' => exact ih a h'

end Allocator

namespace Shared

/-! ## Calls -/

/-- What a process can call that concerns its shared allocator. -/
inductive Call where
  | init (c : Config)
  | next
  | nextFrom (candidates : List Port)
  | nextIn (min max : Int) (excluded : List Int)
  | clearLedger
  | localAddress (before after : Text)
  /-- The process gets hold of the shared allocator. -/
  | get
  /-- It does so, and asks something of the allocator. -/
  | perform (op : Allocator.Operation)

/-- The shared allocator and the host after a call. -/
def after (s : Shared) (h : Host) : Call → Shared × Host
  | .init c => ((s.init c).2, h)
  | .next => (s.next h).2
  | .nextFrom candidates => (s.nextFrom candidates h).2
  | .nextIn min max excluded => (s.nextIn min max excluded h).2
  | .clearLedger => (s.clearLedger, h)
  | .localAddress before after => (s.localAddress before after h).2
  | .get => (s.use, h)
  | .perform op => (some (s.get.perform op h).2.1, (s.get.perform op h).2.2)

/-- What can happen in a process. -/
inductive Event where
  | call (c : Call)
  /-- Files, locks, the clocks or anything else of the host changes. -/
  | change (h : Host)

namespace Event

/-- Whether a shared allocator is made if there is none: by an installation whose configuration has
no problem, and by every call that needs one, which integer bounds do if they reach a port. -/
def Creates : Event → Prop
  | .call (.init c) => c.validate = .ok ()
  | .call (.nextIn min max _) => ∃ p : Int, min ≤ p ∧ p ≤ max ∧ 1024 ≤ p ∧ p ≤ 65535
  | .call _ => True
  | .change _ => False

/-- The configuration of a shared allocator that is made then. -/
def config : Event → Config
  | .call (.init c) => c
  | _ => {}

/-- What is asked of a shared allocator then, or happens around it. -/
def asked : Event → List Allocator.Event
  | .call (.init _) | .call .get => []
  | .call .next | .call (.localAddress _ _) => [.call (.look .any)]
  | .call (.nextFrom candidates) => [.call (.look (.among candidates))]
  | .call (.nextIn min max excluded) =>
    (Request.clip? min max excluded).toList.map fun r => .call (.look (.request r))
  | .call .clearLedger => [.call .clearLedger]
  | .call (.perform op) => [.call op]
  | .change h => [.change h]

end Event

/-- What becomes of a process. -/
def step (s : Shared × Host) : Event → Shared × Host
  | .call c => s.1.after s.2 c
  | .change h => (s.1, h)

def run (s : Shared × Host) (es : List Event) : Shared × Host := es.foldl step s

theorem run_append (s : Shared × Host) (before after : List Event) :
    run s (before ++ after) = run (run s before) after :=
  List.foldl_append

/-! ## One event -/

variable {s : Shared} {h : Host} {e : Event}

/-- A look-up with integers is one of the shared allocator, which is made for it. -/
theorem nextFrom_eq_serve (s : Shared) (q : Allocator.Inquiry) (h : Host) :
    (s.nextFrom q.candidates h).2 = Prod.map some id (s.get.serve h [.call (.look q)]).2 := by
  have hserve : (s.get.serve h [.call (.look q)]).2 = (s.get.inquire q h).2 := rfl
  rw [hserve, Allocator.inquire_eq, nextFrom]
  rfl

/-- Bounds that reach a port need a shared allocator, and other bounds leave everything alone. -/
theorem nextIn_eq_serve (s : Shared) (min max : Int) (excluded : List Int) (h : Host) :
    (s.nextIn min max excluded h).2 =
      match Request.clip? min max excluded with
      | none => (s, h)
      | some r => Prod.map some id (s.get.serve h [.call (.look (.request r))]).2 := by
  rw [nextIn]
  cases Request.clip? min max excluded with
  | none => rfl
  | some r => exact s.nextFrom_eq_serve (.request r) h

/-- An event that makes a shared allocator if there is none asks something of the one that there is
then, unless it is an installation. -/
theorem step_of_creates (hc : e.Creates) (hinit : ∀ c, e ≠ .call (.init c)) :
    step (s, h) e = Prod.map some id (s.get.serve h e.asked).2 := by
  cases e with
  | change h' => exact hc.elim
  | call c =>
    cases c with
    | init c => exact absurd rfl (hinit c)
    | next => exact s.nextFrom_eq_serve .any h
    | nextFrom candidates => exact s.nextFrom_eq_serve (.among candidates) h
    | nextIn min max excluded =>
      rw [step, after, nextIn_eq_serve, Event.asked]
      cases hr : Request.clip? min max excluded with
      | none => exact absurd hc (Request.clip?_eq_none_iff.mp hr)
      | some r => rfl
    | clearLedger => rfl
    | localAddress before after => exact s.nextFrom_eq_serve .any h
    | get => rfl
    | perform op => rfl

/-- A shared allocator is served what is asked of it. -/
theorem step_some (a : Allocator) (h : Host) (e : Event) :
    step (some a, h) e = Prod.map some id (a.serve h e.asked).2 := by
  cases e with
  | change h' => rfl
  | call c =>
    cases c with
    | init c => exact congrArg (·, h) (init_some a c)
    | nextIn min max excluded =>
      rw [step, after, nextIn_eq_serve, Event.asked]
      cases Request.clip? min max excluded <;> rfl
    | _ => exact step_of_creates trivial (by simp)

/-- Without a shared allocator, an event that makes one does what it does with that one. -/
theorem step_none_of_creates (hc : e.Creates) :
    step (none, h) e = step (some (Allocator.new e.config .system), h) e := by
  by_cases hinit : ∃ c, e = .call (.init c)
  · obtain ⟨c, rfl⟩ := hinit
    have hvalid : c.validate = .ok () := hc
    simp only [step, after, init, hvalid, Event.config]
  · have hother : ∀ c, e ≠ .call (.init c) := fun c heq => hinit ⟨c, heq⟩
    have hconfig : e.config = {} := by
      unfold Event.config
      split
      · next c => exact absurd rfl (hother c)
      · rfl
    rw [step_of_creates hc hother, step_some, hconfig]
    rfl

/-- Any other event makes none. -/
theorem step_none_of_not_creates (hc : ¬e.Creates) : (step (none, h) e).1 = none := by
  cases e with
  | change h' => rfl
  | call c =>
    cases c with
    | init c =>
      have hproblem : c.validate ≠ .ok () := hc
      rw [step, after, init]
      cases hv : c.validate with
      | error error => rfl
      | ok u => exact absurd hv hproblem
    | nextIn min max excluded =>
      rw [step, after, nextIn, Request.clip?_eq_none_iff.mpr hc]
    | _ => exact absurd trivial hc

/-! ## Runs -/

/-- A shared allocator is served what is asked of it by and by, and nothing else happens to it. -/
theorem run_some (a : Allocator) (h : Host) (es : List Event) :
    run (some a, h) es = Prod.map some id (a.serve h (es.flatMap Event.asked)).2 := by
  induction es generalizing a h with
  | nil => rfl
  | cons e es ih =>
    have hcons : run (some a, h) (e :: es) = run (step (some a, h) e) es := rfl
    rw [hcons, step_some, List.flatMap_cons, Allocator.serve_append]
    exact ih _ _

/-- There is no shared allocator exactly as long as no event made one. -/
theorem run_none_iff (h : Host) (es : List Event) :
    (run (none, h) es).1 = none ↔ ∀ e ∈ es, ¬e.Creates := by
  induction es generalizing h with
  | nil => exact iff_of_true rfl fun _ he => nomatch he
  | cons e es ih =>
    have hcons : run (none, h) (e :: es) = run (step (none, h) e) es := rfl
    rw [hcons, List.forall_mem_cons]
    by_cases hc : e.Creates
    · rw [step_none_of_creates hc, step_some]
      refine iff_of_false (fun hnone => ?_) fun hnot => hnot.1 hc
      rw [Prod.map, run_some] at hnone
      cases hnone
    · rw [and_iff_right hc, ← ih (step (none, h) e).2]
      have hstep : step (none, h) e = (none, (step (none, h) e).2) :=
        Prod.ext (step_none_of_not_creates hc) rfl
      rw [← hstep]

/-- The event that makes the shared allocator, and everything after it, is what the allocator with
its configuration is served. -/
theorem run_of_first {before later : List Event} (hbefore : ∀ d ∈ before, ¬d.Creates)
    (hc : e.Creates) :
    run (none, h) (before ++ e :: later) =
      Prod.map some id ((Allocator.new e.config .system).serve (run (none, h) before).2
        ((e :: later).flatMap Event.asked)).2 := by
  have hnone : run (none, h) before = (none, (run (none, h) before).2) :=
    Prod.ext ((run_none_iff h before).mpr hbefore) rfl
  rw [run_append, hnone, ← run_some]
  exact congrArg (run · later) (step_none_of_creates hc)

/-- An installation succeeds exactly if its configuration has no problem and there is no shared
allocator. -/
theorem init_eq_ok_iff {s : Shared} {c : Config} :
    (s.init c).1 = .ok () ↔ c.validate = .ok () ∧ s = none := by
  unfold init
  cases c.validate with
  | error error => simp
  | ok u => cases s <;> simp

/-- One that fails changes nothing. -/
theorem init_of_error {s : Shared} {c : Config} {error : Error} (hi : (s.init c).1 = .error error) :
    (s.init c).2 = s := by
  cases s with
  | some a => exact init_some a c
  | none =>
    unfold init at hi ⊢
    cases hv : c.validate with
    | error error => rfl
    | ok u => rw [hv] at hi; cases hi

/-- Whatever a process called in which order, while the host changed. Its shared allocator is made
by the first event that makes one, and there is none before. An installation succeeds exactly if its
configuration has no problem and no earlier event made a shared allocator, and one that fails
changes nothing. The shared allocator has the configuration that it was made with, and its state and
the host are what the operations that were asked of it lead to: it is never replaced. -/
theorem run_installed (h : Host) (es : List Event) :
    ((run (none, h) es).1 = none ↔ ∀ e ∈ es, ¬e.Creates) ∧
      (∀ c, ((run (none, h) es).1.init c).1 = .ok () ↔
        c.validate = .ok () ∧ ∀ e ∈ es, ¬e.Creates) ∧
      (∀ c error, ((run (none, h) es).1.init c).1 = .error error →
        ((run (none, h) es).1.init c).2 = (run (none, h) es).1) ∧
      ∀ before e later, es = before ++ e :: later → (∀ d ∈ before, ¬d.Creates) → e.Creates →
        ∃ a h', run (none, h) es = (some a, h') ∧ a.config = e.config ∧
          (a, h') = ((Allocator.new e.config .system).serve (run (none, h) before).2
            ((e :: later).flatMap Event.asked)).2 := by
  refine ⟨run_none_iff h es, fun c => ?_, fun c error => init_of_error, ?_⟩
  · rw [init_eq_ok_iff, run_none_iff]
  · rintro before e later rfl hbefore hc
    exact ⟨_, _, run_of_first hbefore hc, Allocator.config_serve _ _ _, rfl⟩

/-- A configuration with a short window. -/
def briefConfig : Config := { window := 5 }

/-- Two calls that make no shared allocator: the configuration names no variable, and the bounds
reach no port. -/
def idleEvents : List Event := [.call (.init { variableName := [] }), .call (.nextIn 6000 5000 [])]

/-- An installation after them, and calls that find the shared allocator there. -/
def briefEvents : List Event :=
  [.call (.init briefConfig), .call (.init {}), .call (.nextFrom [4000])]

/-- The shared allocator is the one with the short window, and it handed a port out. Another
installation fails and leaves it. -/
theorem run_installed_briefEvents :
    (∀ d ∈ idleEvents, ¬d.Creates) ∧ (Event.call (.init briefConfig)).Creates ∧
      (run (none, Host.bare 7) (idleEvents ++ briefEvents)).1.map
        (fun a => (a.config, a.debounce.ports)) = some (briefConfig, [4000]) ∧
      ((run (none, Host.bare 7) (idleEvents ++ briefEvents)).1.init {}).1 =
        .error (.config alreadyInstalled) ∧
      ((run (none, Host.bare 7) (idleEvents ++ briefEvents)).1.init {}).2 =
        (run (none, Host.bare 7) (idleEvents ++ briefEvents)).1 ∧
      ∃ a h', run (none, Host.bare 7) (idleEvents ++ briefEvents) = (some a, h') ∧
        a.config = briefConfig ∧
        (a, h') = ((Allocator.new briefConfig .system).serve
          (run (none, Host.bare 7) idleEvents).2 [.call (.look (.among [4000]))]).2 := by
  have hidle : ∀ d ∈ idleEvents, ¬d.Creates := by
    intro d hd
    rcases List.mem_cons.mp hd with rfl | hd
    · exact fun hvalid => nomatch hvalid
    · cases List.mem_singleton.mp hd
      rintro ⟨p, hmin, hmax, -⟩
      omega
  have hbrief : (Event.call (.init briefConfig)).Creates := rfl
  have hrun : run (none, Host.bare 7) (idleEvents ++ briefEvents) =
      run (none, Host.bare 7) briefEvents := rfl
  have hstate : (run (none, Host.bare 7) (idleEvents ++ briefEvents)).1.map
      (fun a => (a.config, a.debounce.ports)) = some (briefConfig, [4000]) := by
    rw [hrun]
    cbv
  have hagain : ((run (none, Host.bare 7) (idleEvents ++ briefEvents)).1.init {}).1 =
      .error (.config alreadyInstalled) := by
    rw [hrun]
    cbv
  obtain ⟨-, -, hfails, hmade⟩ := run_installed (Host.bare 7) (idleEvents ++ briefEvents)
  exact ⟨hidle, hbrief, hstate, hagain, hfails {} _ hagain, hmade _ _ _ rfl hidle hbrief⟩

end Shared

end PortReservation
