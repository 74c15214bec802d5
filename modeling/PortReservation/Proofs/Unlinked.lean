import PortReservation.Proofs.Operation

/-!
# Without a ledger

An allocator has no ledger if it knows of none, its property names none and neither does the
environment, as after its ledger was forgotten. What it answers then depends on what is debounced,
on its clock and on which ports can be bound, and on nothing else: not on files, locks or an earlier
ledger. It changes no file and no lock either.

* `Locator.Blank`: a locator that knows of no ledger.
* `Twins`, `Agree`: two allocators without a ledger that cannot be told apart, and calls that keep
  it so; `Twins.perform`: every operation does.
* `serve`: a run of operations while the host changes.
* `serve_forgotten`: the answers of a run after the ledger was forgotten, and what it leaves alone.
-/

namespace PortReservation

/-! ## Networks that are alike -/

/-- Two networks on which the same ports can be bound. -/
structure Network.Alike (n m : Network) : Prop where
  bindable : n.bindable = m.bindable
  taken : ∀ address port, n.isTaken address port = m.isTaken address port
  picks : n.picks = m.picks
  picked : n.picked = m.picked

/-- Binding a port answers the same on both. -/
theorem Network.Alike.bind {n m : Network} (hn : n.Alike m) (address : IpAddress) (port : Port) :
    (n.bind address port).1 = (m.bind address port).1 ∧
      (n.bind address port).2.Alike (m.bind address port).2 := by
  unfold Network.bind
  rw [hn.bindable, hn.taken, hn.picks, hn.picked]
  split
  · exact ⟨rfl, hn⟩
  · split
    · exact ⟨rfl, ⟨rfl, hn.taken, rfl, rfl⟩⟩
    · split <;> exact ⟨rfl, hn⟩

/-! ## No ledger to be found -/

/-- Whether a variable of the environment is not set, or empty. -/
def Host.Unset (h : Host) (variableName : Text) : Prop :=
  h.environment.value? variableName = none ∨ h.environment.value? variableName = some []

namespace Locator

/-- A locator that knows of no ledger and has no property, so that only a variable of the
environment could name one. -/
structure Blank (l : Locator) (variableName : Text) : Prop where
  variableName_eq : l.variableName = variableName
  property_eq : l.property = none
  not_enabled : ∀ path, l.location ≠ .enabled path

/-- A locator that forgot its ledger is blank. -/
theorem blank_clear (l : Locator) : l.clear.Blank l.variableName :=
  ⟨rfl, rfl, fun _ heq => nomatch heq⟩

/-- Where nothing is named, a blank locator finds nothing and does nothing for that. -/
theorem Blank.resolve {l : Locator} {variableName : Text} {h : Host} (hl : l.Blank variableName)
    (hunset : h.Unset variableName) :
    ∃ l', l'.Blank variableName ∧ l.resolve h = (none, l', h) := by
  obtain ⟨rfl, hproperty, hlocation⟩ := hl
  -- It looks and finds nothing named, or it knows already that there is nothing.
  by_cases hknown : l.location = .unresolved
  · have hnamed : l.named? h = none := by
      unfold named? Host.variableValue
      rcases hunset with hnone | hempty
      · rw [hnone]
        exact hproperty
      · rw [hempty]
        exact hproperty
    refine ⟨{ l with location := .disabled }, ⟨rfl, hproperty, fun _ heq => nomatch heq⟩, ?_⟩
    rw [resolve_unresolved hknown, look, hnamed]
    rfl
  · have hpath : l.location.path? = none := by
      cases hl : l.location with
      | unresolved => rfl
      | disabled => rfl
      | enabled path => exact absurd hl (hlocation path)
    refine ⟨l, ⟨rfl, hproperty, hlocation⟩, ?_⟩
    rw [resolve_resolved hknown, hpath]

end Locator

namespace Allocator

/-! ## Twins -/

/-- Two hosts that show the same time and let the same ports be bound. On each, a variable names no
ledger. -/
structure Hosts (c : ClockSource) (v v' : Text) (h k : Host) : Prop where
  network : h.network.Alike k.network
  now : h.now c = k.now c
  left : h.Unset v
  right : k.Unset v'

/-- Two allocators without a ledger, each on its host, that cannot be told apart. -/
structure Twins (c : ClockSource) (v v' : Text) (a b : Allocator) (h k : Host) : Prop where
  left_clock : a.clock = c
  right_clock : b.clock = c
  address : a.config.bindAddress = b.config.bindAddress
  debounce : a.debounce = b.debounce
  left : a.locator.Blank v
  right : b.locator.Blank v'
  hosts : Hosts c v v' h k

/-- Two calls that answer the same and leave twins behind. The first changes of its host at most the
network. -/
structure Agree (c : ClockSource) (v v' : Text) {α : Type} (h : Host) (x y : α × Allocator × Host) :
    Prop where
  answer : x.1 = y.1
  twins : Twins c v v' x.2.1 y.2.1 x.2.2 y.2.2
  host : ∃ network, x.2.2 = { h with network }

variable {c : ClockSource} {v v' : Text} {a b : Allocator} {h k : Host}

/-- The network had changed before. -/
theorem Agree.of_network {α : Type} {x y : α × Allocator × Host} {network : Network}
    (ha : Agree c v v' { h with network } x y) : Agree c v v' h x y :=
  ⟨ha.answer, ha.twins, ha.host⟩

namespace Twins

/-- Both bind ports. -/
theorem rebind (ht : Twins c v v' a b h k) {n m : Network} (hnetwork : n.Alike m) :
    Twins c v v' a b { h with network := n } { k with network := m } := by
  refine { ht with hosts := ⟨hnetwork, ?_, ht.hosts.left, ht.hosts.right⟩ }
  exact (h.now_network n c).trans (ht.hosts.now.trans (k.now_network m c).symm)

theorem probe (ht : Twins c v v' a b h k) (candidate : Port) :
    (a.probe candidate h).1 = (b.probe candidate k).1 ∧
      Twins c v v' a b (a.probe candidate h).2 (b.probe candidate k).2 := by
  obtain ⟨hanswer, halike⟩ := ht.hosts.network.bind a.config.bindAddress candidate
  unfold Allocator.probe
  rw [← ht.address]
  cases hn : h.network.bind a.config.bindAddress candidate with
  | mk x n =>
    cases hm : k.network.bind a.config.bindAddress candidate with
    | mk y m =>
      rw [hn, hm] at hanswer halike
      cases hanswer
      cases x <;> exact ⟨rfl, ht.rebind halike⟩

/-- Both screen a candidate the same way. -/
theorem screen (ht : Twins c v v' a b h k) (candidate : Port) :
    (a.screen candidate h).1 = (b.screen candidate k).1 ∧
      Twins c v v' a b (a.screen candidate h).2 (b.screen candidate k).2 := by
  obtain ⟨hanswer, htwins⟩ := ht.probe candidate
  unfold Allocator.screen
  rw [← ht.debounce]
  split
  · exact ⟨rfl, ht⟩
  · cases hx : a.probe candidate h with
    | mk x h' =>
      cases hy : b.probe candidate k with
      | mk y k' =>
        rw [hx, hy] at hanswer htwins
        cases hanswer
        cases x with
        | error e => exact ⟨rfl, htwins⟩
        | ok port =>
          dsimp only
          split <;> exact ⟨rfl, htwins⟩

/-- Both hand a port out that passed, as there is no ledger to ask. -/
theorem confirm (ht : Twins c v v' a b h k) (port : Port) :
    Agree c v v' h (a.confirm port h) (b.confirm port k) := by
  obtain ⟨l, hl, hresolve⟩ := ht.left.resolve ht.hosts.left
  obtain ⟨l', hl', hresolve'⟩ := ht.right.resolve ht.hosts.right
  unfold Allocator.confirm
  rw [hresolve, hresolve']
  -- Without a ledger nothing is asked, so each records the port at the time that both clocks show.
  refine ⟨rfl, { ht with debounce := ?_, left := hl, right := hl' }, h.network, rfl⟩
  dsimp only [handOut]
  rw [ht.debounce, ht.left_clock, ht.right_clock, ht.hosts.now]

theorem tryPort (ht : Twins c v v' a b h k) (candidate : Port) :
    Agree c v v' h (a.tryPort candidate h) (b.tryPort candidate k) := by
  obtain ⟨hanswer, htwins⟩ := ht.screen candidate
  obtain ⟨network, hnetwork⟩ := a.screen_host candidate h
  unfold Allocator.tryPort
  cases hx : a.screen candidate h with
  | mk x h' =>
    cases hy : b.screen candidate k with
    | mk y k' =>
      rw [hx, hy] at hanswer htwins
      rw [hx] at hnetwork
      cases hanswer
      cases hnetwork
      cases x with
      | none => exact ⟨rfl, htwins, network, rfl⟩
      | some port => exact (htwins.confirm port).of_network

theorem search (ht : Twins c v v' a b h k) (candidates : List Port) :
    Agree c v v' h (a.search h candidates) (b.search k candidates) := by
  induction candidates generalizing a b h k with
  | nil => exact ⟨rfl, ht, h.network, rfl⟩
  | cons candidate rest ih =>
    obtain ⟨hanswer, htwins, network, hnetwork⟩ := ht.tryPort candidate
    rw [search_cons, search_cons]
    cases hx : a.tryPort candidate h with
    | mk x state =>
      obtain ⟨a', h'⟩ := state
      cases hy : b.tryPort candidate k with
      | mk y state =>
        obtain ⟨b', k'⟩ := state
        rw [hx, hy] at hanswer htwins
        rw [hx] at hnetwork
        cases hanswer
        cases hnetwork
        cases x with
        | none => exact (ih htwins).of_network
        | some port => exact ⟨rfl, htwins, network, rfl⟩

/-- A purge leaves twins, or neither has one. -/
theorem purge (ht : Twins c v v' a b h k) :
    (∃ o, a.purge h = .error o ∧ b.purge k = .error o) ∨
      ∃ a' b', a.purge h = .ok a' ∧ b.purge k = .ok b' ∧ Twins c v v' a' b' h k := by
  have hnow : h.now a.clock = k.now b.clock := by
    rw [ht.left_clock, ht.right_clock, ht.hosts.now]
  unfold Allocator.purge
  rw [← ht.debounce, ← hnow]
  cases a.debounce.purge (h.now a.clock) with
  | error o => exact .inl ⟨o, rfl, rfl⟩
  | ok debounce => exact .inr ⟨_, _, rfl, rfl, { ht with debounce := rfl }⟩

/-- A look-up of any form. -/
theorem inquire (ht : Twins c v v' a b h k) (q : Inquiry) :
    Agree c v v' h (a.inquire q h) (b.inquire q k) := by
  rw [inquire_eq, inquire_eq, nextFrom, nextFrom]
  rcases ht.purge with ⟨o, ha, hb⟩ | ⟨a', b', ha, hb, ht'⟩
  · rw [ha, hb]
    exact ⟨rfl, ht, h.network, rfl⟩
  · have hsearch := ht'.search q.candidates
    rw [← findPort_toOption, ← findPort_toOption] at hsearch
    rw [ha, hb]
    exact ⟨congrArg Except.ok hsearch.answer, hsearch.twins, hsearch.host⟩

/-- Every operation that names no ledger. -/
theorem perform (ht : Twins c v v' a b h k) {op : Operation}
    (hop : ∀ path, op ≠ .setLedger (some path)) :
    Agree c v v' h (a.perform op h) (b.perform op k) := by
  have hclear : Agree c v v' h (Except.ok (ε := Overflow) Answer.done, a.clearLedger, h)
      (Except.ok Answer.done, b.clearLedger, k) := by
    refine ⟨rfl, { ht with left := ?_, right := ?_ }, h.network, rfl⟩
    · exact ht.left.variableName_eq ▸ a.locator.blank_clear
    · exact ht.right.variableName_eq ▸ b.locator.blank_clear
  cases op with
  | look q =>
    have hq := ht.inquire q
    exact ⟨congrArg (Except.map Answer.port) hq.answer, hq.twins, hq.host⟩
  | list =>
    unfold Allocator.perform debouncedPorts
    rcases ht.purge with ⟨o, ha, hb⟩ | ⟨a', b', ha, hb, ht'⟩
    · rw [ha, hb]
      exact ⟨rfl, ht, h.network, rfl⟩
    · rw [ha, hb]
      refine ⟨?_, ht', h.network, rfl⟩
      dsimp only
      rw [ht'.debounce]
  | locate =>
    obtain ⟨l, hl, hresolve⟩ := ht.left.resolve ht.hosts.left
    obtain ⟨l', hl', hresolve'⟩ := ht.right.resolve ht.hosts.right
    unfold Allocator.perform ledgerPath
    rw [hresolve, hresolve']
    exact ⟨rfl, { ht with left := hl, right := hl' }, h.network, rfl⟩
  | setLedger path =>
    cases path with
    | none => exact hclear
    | some path => exact absurd rfl (hop path)
  | clearLedger => exact hclear

end Twins

/-! ## Runs -/

/-- What can happen to an allocator and its host. -/
inductive Event where
  | call (op : Operation)
  /-- Files, locks, the clocks or anything else of the host changes. -/
  | change (h : Host)

/-- What an allocator answers while things happen, and what becomes of it and the host. -/
def serve (a : Allocator) (h : Host) : List Event → List (Except Overflow Answer) × Allocator × Host
  | [] => ([], a, h)
  | .call op :: es =>
    match a.perform op h with
    | (answer, a, h) =>
      match a.serve h es with
      | (answers, state) => (answer :: answers, state)
  | .change h :: es => a.serve h es

/-- The same happens to two allocators that can see no difference between their hosts: neither call
names a ledger, or both hosts change. -/
inductive Parallel (c : ClockSource) (v v' : Text) : Event → Event → Prop where
  | call {op : Operation} (hop : ∀ path, op ≠ .setLedger (some path)) :
      Parallel c v v' (.call op) (.call op)
  | change {h k : Host} (hhosts : Hosts c v v' h k) : Parallel c v v' (.change h) (.change k)

variable {es fs : List Event}

/-- Twins stay twins and answer the same: by induction on what happens. -/
theorem Twins.serve (ht : Twins c v v' a b h k) (hes : List.Forall₂ (Parallel c v v') es fs) :
    (a.serve h es).1 = (b.serve k fs).1 ∧
      Twins c v v' (a.serve h es).2.1 (b.serve k fs).2.1 (a.serve h es).2.2 (b.serve k fs).2.2 := by
  induction hes generalizing a b h k with
  | nil => exact ⟨rfl, ht⟩
  | cons hevent hrest ih =>
    cases hevent with
    | change hhosts => exact ih { ht with hosts := hhosts }
    | call hop =>
      obtain ⟨hanswer, htwins, -⟩ := ht.perform hop
      obtain ⟨hanswers, htwins'⟩ := ih htwins
      exact ⟨List.cons_eq_cons.mpr ⟨hanswer, hanswers⟩, htwins'⟩

theorem serve_append (a : Allocator) (h : Host) (es fs : List Event) :
    (a.serve h (es ++ fs)).2 = ((a.serve h es).2.1.serve (a.serve h es).2.2 fs).2 := by
  induction es generalizing a h with
  | nil => rfl
  | cons e es ih =>
    cases e with
    | call op => exact ih _ _
    | change h => exact ih _ _

end Allocator

end PortReservation
