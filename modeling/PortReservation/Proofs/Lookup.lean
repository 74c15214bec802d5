import PortReservation.Allocator
import PortReservation.Proofs.Passing

/-!
# Look-ups

A look-up drops what is debounced long enough and then tries its candidates in order. The clocks
stand still meanwhile, but the network, the files and the locks are those that each candidate meets.

* `tryPort_cases`: what trying a candidate does.
* `Tried`, `Lookup`: a look-up whose candidates each meet a host of their own.
* `Inquiry`, `lookup_inquire`: the forms of a look-up; on one host, each of them is one.
-/

namespace PortReservation

/-- What an answer hands out. -/
def HandOut.ofAnswer (now : Millis) : Except Overflow (Option Port) → List HandOut
  | .ok (some port) => [⟨port, now⟩]
  | _ => []

namespace Allocator

variable {a a' : Allocator} {h h' : Host} {candidate port : Port} {found : Option Port}

/-! ## Trying a candidate -/

/-- Screening a candidate changes nothing but how many ports the system picked. -/
theorem screen_picked (a : Allocator) (candidate : Port) (h : Host) :
    ∃ picked, (a.screen candidate h).2 = { h with network := { h.network with picked } } := by
  have hnetwork : ∃ picked, (h.network.bind a.config.bindAddress candidate).2 =
      { h.network with picked } := by
    unfold Network.bind
    split
    · exact ⟨_, rfl⟩
    · split
      · exact ⟨_, rfl⟩
      · split <;> exact ⟨_, rfl⟩
  have hprobe : ∃ picked, (a.probe candidate h).2 =
      { h with network := { h.network with picked } } := by
    obtain ⟨picked, hn⟩ := hnetwork
    refine ⟨picked, ?_⟩
    rw [← hn]
    unfold probe
    split <;> next heq => rw [heq]
  unfold screen
  split
  · exact ⟨h.network.picked, rfl⟩
  · obtain ⟨picked, hp⟩ := hprobe
    split
    · next heq => exact ⟨picked, by rw [← hp, heq]⟩
    · next heq => split <;> exact ⟨picked, by rw [← hp, heq]⟩

/-- Screening a candidate changes the network only. -/
theorem screen_host (a : Allocator) (candidate : Port) (h : Host) :
    ∃ network, (a.screen candidate h).2 = { h with network } := by
  obtain ⟨picked, hp⟩ := a.screen_picked candidate h
  exact ⟨_, hp⟩

theorem passed_screen (a : Allocator) (candidate : Port) (h : Host) :
    h.Passed (a.screen candidate h).2 := by
  obtain ⟨picked, hp⟩ := a.screen_picked candidate h
  rw [hp]
  exact ⟨rfl, fun _ _ => Iff.rfl, fun _ => .inl rfl, fun _ _ => rfl, fun _ _ => rfl,
    fun c => by cases c <;> rfl⟩

/-- A port that is bound for a candidate other than 0 is the candidate. -/
theorem probe_eq_candidate (hc : candidate ≠ 0) (hp : a.probe candidate h = (.ok port, h')) :
    port = candidate := by
  have hbind := (Network.bind_port hc h.network a.config.bindAddress).1
  unfold probe at hp
  split at hp
  · cases hp
  · next p network heq =>
    rw [heq] at hbind
    cases hp
    split at hbind
    · exact Option.some.inj hbind
    · cases hbind

/-- A candidate that passes the screening stands for a port that is not debounced. -/
theorem contains_of_screen (hs : a.screen candidate h = (some port, h')) :
    a.debounce.contains port = false := by
  unfold screen at hs
  split at hs
  · cases hs
  · next hnot =>
    split at hs
    · cases hs
    · next p h₁ hp =>
      split at hs
      · cases hs
      · next hpick =>
        cases hs
        -- A port that the system picked is looked up itself, any other one is the candidate.
        by_cases hc : candidate = 0
        · simpa [hc] using hpick
        · rw [probe_eq_candidate hc hp]
          simpa [hc] using hnot

/-- Asking the ledger for a port hands it out or changes nothing but the locator. -/
theorem confirm_cases (a : Allocator) (port : Port) (h : Host) :
    ∃ locator, (∀ c, (a.confirm port h).2.2.now c = h.now c) ∧
      ((a.confirm port h).1 = none ∧ (a.confirm port h).2.1 = { a with locator } ∨
        (a.confirm port h).1 = some port ∧
          (a.confirm port h).2.1 =
            { a with locator, debounce := a.debounce.record port (h.now a.clock) }) := by
  unfold confirm
  have hresolve := (a.locator.passed_resolve h).now
  split
  · next locator h₁ heq =>
    rw [heq] at hresolve
    refine ⟨locator, hresolve, .inr ⟨rfl, ?_⟩⟩
    rw [handOut, hresolve]
  · next path locator h₁ heq =>
    rw [heq] at hresolve
    have hreserve := ((a.ledgerAt path).visit_reserve port h₁).passed.now
    split
    · next h₂ hres =>
      rw [hres] at hreserve
      refine ⟨locator, fun c => (hreserve c).trans (hresolve c), .inr ⟨rfl, ?_⟩⟩
      rw [handOut, hreserve, hresolve]
    · next h₂ hres =>
      rw [hres] at hreserve
      exact ⟨locator, fun c => (hreserve c).trans (hresolve c), .inl ⟨rfl, rfl⟩⟩

/-- What trying a candidate does: a port that is not debounced is handed out, or the debounced ports
stay as they are. -/
theorem tryPort_cases (htry : a.tryPort candidate h = (found, a', h')) :
    (∀ c, h'.now c = h.now c) ∧
      ∃ locator, found = none ∧ a' = { a with locator } ∨
        ∃ port, found = some port ∧ a.debounce.contains port = false ∧
          a' = { a with locator, debounce := a.debounce.record port (h.now a.clock) } := by
  have hnow := (a.passed_screen candidate h).now
  unfold tryPort at htry
  split at htry
  · next h₁ hs =>
    rw [hs] at hnow
    cases htry
    exact ⟨hnow, a.locator, .inl ⟨rfl, rfl⟩⟩
  · next port h₁ hs =>
    rw [hs] at hnow
    obtain ⟨locator, hclocks, hcases⟩ := a.confirm_cases port h₁
    rw [htry] at hclocks hcases
    refine ⟨fun c => (hclocks c).trans (hnow c), locator, hcases.imp id ?_⟩
    rintro ⟨hfound, ha'⟩
    exact ⟨port, hfound, contains_of_screen hs, ha'.trans (by rw [hnow])⟩

theorem passed_confirm (a : Allocator) (port : Port) (h : Host) :
    h.Passed (a.confirm port h).2.2 := by
  have hresolve := a.locator.passed_resolve h
  unfold confirm
  split
  · next heq => rwa [heq] at hresolve
  · next path locator h₁ heq =>
    rw [heq] at hresolve
    have hreserve := ((a.ledgerAt path).visit_reserve port h₁).passed
    split
    · next hres =>
      rw [hres] at hreserve
      exact hresolve.trans hreserve
    · next hres =>
      rw [hres] at hreserve
      exact hresolve.trans hreserve

theorem passed_tryPort (a : Allocator) (candidate : Port) (h : Host) :
    h.Passed (a.tryPort candidate h).2.2 := by
  have hscreen := a.passed_screen candidate h
  unfold tryPort
  split
  · next heq => rwa [heq] at hscreen
  · next port h₁ heq =>
    rw [heq] at hscreen
    exact hscreen.trans (a.passed_confirm port h₁)

/-! ## Trying candidates in order -/

/-- Candidates are tried in order until one is taken, each on some host that shows the time. -/
inductive Tried (now : Millis) : Allocator → List Port → Option Port → Allocator → Prop where
  | exhausted (a : Allocator) : Tried now a [] none a
  | taken {a a' : Allocator} {candidate port : Port} {rest : List Port} {h h' : Host}
      (hnow : h.now a.clock = now) (htry : a.tryPort candidate h = (some port, a', h')) :
      Tried now a (candidate :: rest) (some port) a'
  | skipped {a a' a'' : Allocator} {candidate : Port} {rest : List Port} {found : Option Port}
      {h h' : Host} (hnow : h.now a.clock = now)
      (htry : a.tryPort candidate h = (none, a', h')) (ht : Tried now a' rest found a'') :
      Tried now a (candidate :: rest) found a''

theorem passed_search (candidates : List Port) (a : Allocator) (h : Host) :
    h.Passed (a.search h candidates).2.2 := by
  induction candidates generalizing a h with
  | nil => exact .refl h
  | cons candidate rest ih =>
    have htry := a.passed_tryPort candidate h
    rw [search_cons]
    split
    · next heq => rwa [heq] at htry
    · next a' h' heq =>
      rw [heq] at htry
      exact htry.trans (ih a' h')

/-- The candidates of a search are tried. -/
theorem tried_search (candidates : List Port) (a : Allocator) (h : Host) :
    Tried (h.now a.clock) a candidates (a.search h candidates).1 (a.search h candidates).2.1 := by
  induction candidates generalizing a h with
  | nil => exact .exhausted a
  | cons candidate rest ih =>
    rw [search_cons]
    split
    · next port a' h' htry => exact .taken rfl htry
    · next a' h' htry =>
      obtain ⟨hclocks, locator, hcases⟩ := tryPort_cases htry
      have ha' : a'.clock = a.clock := by
        rcases hcases with ⟨-, rfl⟩ | ⟨port, hfound, -⟩
        · rfl
        · cases hfound
      -- The rest is searched by the same clock, which shows the same time.
      refine .skipped rfl htry ?_
      rw [← hclocks a.clock, ← ha']
      exact ih a' h'

/-- What trying candidates does: a port that is not debounced is handed out, or the debounced ports
stay as they are. -/
theorem Tried.cases {now : Millis} {candidates : List Port}
    (ht : Tried now a candidates found a') :
    ∃ locator, found = none ∧ a' = { a with locator } ∨
      ∃ port, found = some port ∧ a.debounce.contains port = false ∧
        a' = { a with locator, debounce := a.debounce.record port now } := by
  induction ht with
  | exhausted a => exact ⟨a.locator, .inl ⟨rfl, rfl⟩⟩
  | taken hnow htry =>
    subst hnow
    exact (tryPort_cases htry).2
  | skipped hnow htry ht ih =>
    obtain ⟨-, locator, ⟨-, rfl⟩ | ⟨port, hfound, -⟩⟩ := tryPort_cases htry
    · exact ih
    · cases hfound

/-! ## Whole look-ups -/

/-- A look-up at a time: what is debounced long enough is dropped, and then candidates are tried. -/
inductive Lookup (now : Millis) (a : Allocator) (candidates : List Port) :
    Except Overflow (Option Port) → Allocator → Prop where
  | overflow {h : Host} {o : Overflow} (hnow : h.now a.clock = now)
      (hpurge : a.purge h = .error o) : Lookup now a candidates (.error o) a
  | answered {h : Host} {a₁ a₂ : Allocator} {found : Option Port} (hnow : h.now a.clock = now)
      (hpurge : a.purge h = .ok a₁) (ht : Tried now a₁ candidates found a₂) :
      Lookup now a candidates (.ok found) a₂

/-- An answer is the port that was found, if one was. -/
theorem findPort_toOption (a : Allocator) (candidates : List Port) (h : Host) :
    ((a.findPort candidates h).1.toOption, (a.findPort candidates h).2) =
      a.search h candidates := by
  unfold findPort
  split <;> next heq => rw [heq]; rfl

/-- A purge is one of the debounced ports. -/
theorem purge_eq_ok (hpurge : a.purge h = .ok a') :
    ∃ debounce, a.debounce.purge (h.now a.clock) = .ok debounce ∧ a' = { a with debounce } := by
  unfold purge at hpurge
  cases hdebounce : a.debounce.purge (h.now a.clock) with
  | error o => simp [hdebounce] at hpurge
  | ok debounce =>
    rw [hdebounce] at hpurge
    cases hpurge
    exact ⟨debounce, rfl, rfl⟩

/-- A look-up on one host is one. -/
theorem lookup_nextFrom (a : Allocator) (candidates : List Port) (h : Host) :
    Lookup (h.now a.clock) a candidates (a.nextFrom candidates h).1
      (a.nextFrom candidates h).2.1 := by
  unfold nextFrom
  cases hp : a.purge h with
  | error o => exact .overflow rfl hp
  | ok a₁ =>
    have hsearch := a₁.findPort_toOption candidates h
    have hclock : a₁.clock = a.clock := by
      obtain ⟨debounce, -, rfl⟩ := purge_eq_ok hp
      rfl
    have ht := tried_search candidates a₁ h
    rw [← hsearch, hclock] at ht
    exact .answered rfl hp ht

/-- The forms of a look-up. -/
inductive Inquiry where
  /-- Any port that is handed out at all. -/
  | any
  | among (candidates : List Port)
  | within (min max : Port) (excluded : List Port)
  | request (r : Request)

/-- The candidates of a form. -/
def Inquiry.candidates : Inquiry → List Port
  | .any => Request.fullRange.candidates
  | .among candidates => candidates
  | .within min max excluded => (Request.excluding { min, max } excluded).candidates
  | .request r => r.candidates

/-- A look-up of a form. -/
def inquire (a : Allocator) (q : Inquiry) (h : Host) :
    Except Overflow (Option Port) × Allocator × Host :=
  match q with
  | .any => a.next h
  | .among candidates => a.nextFrom candidates h
  | .within min max excluded => a.nextIn min max excluded h
  | .request r => a.allocate r h

/-- Every form is a look-up among its candidates. -/
theorem inquire_eq (a : Allocator) (q : Inquiry) (h : Host) :
    a.inquire q h = a.nextFrom q.candidates h := by
  cases q <;> rfl

/-- A look-up of any form comes and goes. -/
theorem passed_inquire (a : Allocator) (q : Inquiry) (h : Host) :
    h.Passed (a.inquire q h).2.2 := by
  rw [inquire_eq, nextFrom]
  split
  · exact .refl h
  · next a₁ _ =>
    have hsearch := a₁.passed_search q.candidates h
    rw [← a₁.findPort_toOption] at hsearch
    exact hsearch

theorem lookup_inquire (a : Allocator) (q : Inquiry) (h : Host) :
    Lookup (h.now a.clock) a q.candidates (a.inquire q h).1 (a.inquire q h).2.1 := by
  rw [inquire_eq]
  exact a.lookup_nextFrom q.candidates h

end Allocator

end PortReservation
