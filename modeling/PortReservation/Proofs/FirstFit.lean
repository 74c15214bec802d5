import PortReservation.Proofs.LedgerRun
import PortReservation.Proofs.Lookup
import PortReservation.Proofs.Tracking

/-!
# The first candidate that fits

On one host a look-up answers with the first of its candidates that may be handed out, judged by the
state in which it began. A candidate that is skipped can leave a ledger that was created, and one
without its stale entries, but neither decides about a candidate after it.

* `Admits`: which ports a host and the ledger let an allocator hand out.
* `Sifted`: what skipped candidates leave; `Sifted.admits_iff`: they change no decision.
* `Verdict`, `verdict_tryPort`: what trying one candidate comes to.
* `inquire_firstFit`: what a look-up finds, debounces and books.
-/

namespace PortReservation

/-- What the first of some candidates is that has a property, if one has it. -/
def FirstFit (P : Port → Prop) (candidates : List Port) : Option Port → Prop
  | none => ∀ candidate ∈ candidates, ¬P candidate
  | some port => ∃ before after, candidates = before ++ port :: after ∧ P port ∧
      ∀ candidate ∈ before, ¬P candidate

namespace FirstFit

variable {P Q : Port → Prop} {candidate : Port} {rest : List Port} {found : Option Port}

theorem here (hp : P candidate) : FirstFit P (candidate :: rest) (some candidate) :=
  ⟨[], rest, rfl, hp, by simp⟩

theorem later (hp : ¬P candidate) (hf : FirstFit P rest found) :
    FirstFit P (candidate :: rest) found := by
  cases found with
  | none => exact List.forall_mem_cons.mpr ⟨hp, hf⟩
  | some port =>
    obtain ⟨before, after, rfl, hport, hbefore⟩ := hf
    exact ⟨candidate :: before, after, rfl, hport, List.forall_mem_cons.mpr ⟨hp, hbefore⟩⟩

theorem congr (hpq : ∀ port, P port ↔ Q port) (hf : FirstFit P rest found) :
    FirstFit Q rest found := by
  have heq : P = Q := funext fun port => propext (hpq port)
  exact heq ▸ hf

end FirstFit

/-! ## Entries -/

namespace Entries

/-- What entries are after a search at a time: the port that it found is booked, and nothing is gone
but stale entries. -/
structure Gains (before : Entries) (now ttl : Millis) (found : Option Port) (after : Entries) :
    Prop where
  gained : ∀ e ∈ after.toList,
    e ∈ before.toList ∨ ∃ port, found = some port ∧ e = (portKey port, now.render)
  kept : ∀ e ∈ before.toList, isLive now ttl e.2 = true → e ∈ after.toList
  booked : ∀ port, found = some port → (portKey port, now.render) ∈ after.toList

variable {m after : Entries} {port : Port} {now ttl : Millis} {found : Option Port}

/-- Stale entries keep no port. -/
theorem blocked_live : (m.live now ttl).Blocked port now ttl ↔ m.Blocked port now ttl := by
  simp only [Blocked, mem_live]
  exact exists_congr fun _ => and_assoc.trans (and_congr_right fun _ => and_self_iff)

theorem Plain.live (h : m.Plain) (now ttl : Millis) : (m.live now ttl).Plain :=
  fun e he => h e (mem_live.mp he).1

/-- A booking that is refused leaves what is live. -/
theorem afterBooking_of_refused (h : (m.book port now ttl).granted = false) :
    m.afterBooking port now ttl = m.live now ttl := by
  rw [afterBooking, h]
  rfl

namespace Gains

theorem refl (m : Entries) (now ttl : Millis) : m.Gains now ttl none m where
  gained _ he := .inl he
  kept _ he _ := he
  booked _ h := nomatch h

/-- It does not matter whether stale entries were dropped before. -/
theorem of_live (hg : (m.live now ttl).Gains now ttl found after) :
    m.Gains now ttl found after where
  gained e he := (hg.gained e he).imp_left fun h => (mem_live.mp h).1
  kept e he hlive := hg.kept e (mem_live.mpr ⟨he, hlive⟩) hlive
  booked := hg.booked

theorem afterBooking (hgranted : (m.book port now ttl).granted = true) :
    m.Gains now ttl (some port) (m.afterBooking port now ttl) where
  gained e he := by
    rcases mem_afterBooking.mp he with ⟨he, -⟩ | ⟨-, he⟩
    · exact .inl he
    · exact .inr ⟨port, rfl, he⟩
  kept e he hlive := mem_afterBooking.mpr (.inl ⟨he, hlive⟩)
  booked other h := by
    cases h
    exact mem_afterBooking.mpr (.inr ⟨hgranted, rfl⟩)

end Gains

end Entries

/-! ## The ledger of a call -/

/-- Whether the file of a ledger can be locked and has no live entry for a port. -/
def Ledger.Grants (l : Ledger) (h : Host) (port : Port) : Prop :=
  ∃ place, h.Lockable l.path place ∧ ¬(h.entriesAt place).Blocked port (h.now l.clock) l.ttl

/-- A reservation books the port in a file that can be locked; without one it is refused and changes
no entries. -/
theorem Ledger.reserve_cases (l : Ledger) (port : Port) (h : Host) :
    (∀ place, ¬h.Lockable l.path place) ∧ (l.reserve port h).1 = false ∧
        (∀ place, (l.reserve port h).2.entriesAt place = h.entriesAt place) ∨
      ∃ place, h.Lockable l.path place ∧
        (l.reserve port h).1 = ((h.entriesAt place).book port (h.now l.clock) l.ttl).granted ∧
        ((h.entriesAt place).Plain → (l.reserve port h).2.entriesAt place =
          (h.entriesAt place).afterBooking port (h.now l.clock) l.ttl) := by
  rw [reserve_eq]
  cases hr : l.tryReserve port h with
  | mk answer h' =>
    cases answer with
    | error e =>
      -- A file that can be locked is locked by the first try, so an error says that there is none.
      refine .inl ⟨fun place hlock => ?_, rfl, (tryReserve_error hr).entriesAt⟩
      obtain ⟨handle, h₁, ha, -⟩ := Host.acquire_of_lockable hlock l.policy
      rw [tryReserve_eq, ha] at hr
      cases hr
    | ok granted =>
      obtain ⟨place, hlock, -, hgranted, -⟩ := tryReserve_ok hr
      refine .inr ⟨place, hlock, hgranted, fun hplain => ?_⟩
      exact (entriesAt_tryReserve_iff hr hlock.1).mpr (.inr fun e he _ => hplain e he)

namespace Allocator

/-- Whether a port was handed out less than a window before a time. -/
def Debounced (a : Allocator) (now : Millis) (port : Port) : Prop :=
  ∃ time, a.debounce.handedOut.get? port = some time ∧
    now.toInt - time.toInt < a.debounce.window.toInt

/-- Whether the ledger of an allocator is the file at a place. -/
def BooksIn (a : Allocator) (h : Host) (place : Place) : Prop :=
  ∃ path, (a.locator.resolve h).1 = some path ∧ h.files.slot? path = some place

/-- Whether a port can be bound and the ledger, if there is one, grants it. -/
structure Admits (a : Allocator) (h : Host) (port : Port) : Prop where
  free : h.network.isFree a.config.bindAddress port = true
  granted : ∀ path, (a.locator.resolve h).1 = some path → (a.ledgerAt path).Grants h port

/-- What is left of an allocator and a host when candidates were skipped: the ledger may have been
looked for, and lost its stale entries. -/
structure Sifted (a : Allocator) (h : Host) (a' : Allocator) (h' : Host) : Prop where
  allocator : ∃ locator, a' = { a with locator }
  located : (a'.locator.resolve h').1 = (a.locator.resolve h).1
  passed : h.Passed h'
  entries : ∀ place, a.BooksIn h place →
    h'.entriesAt place = h.entriesAt place ∨
      h'.entriesAt place = (h.entriesAt place).live (h.now a.clock) a.config.ttl

variable {a a' : Allocator} {h h' : Host} {candidate port : Port} {found : Option Port}

/-- What is debounced does not count for the host and the ledger. -/
theorem admits_with_debounce {debounce : Debounce} :
    ({ a with debounce } : Allocator).Admits h port ↔ a.Admits h port :=
  ⟨fun ⟨hfree, hgranted⟩ => ⟨hfree, hgranted⟩, fun ⟨hfree, hgranted⟩ => ⟨hfree, hgranted⟩⟩

/-- Where there is a ledger, its file decides. -/
theorem admits_iff_of_path {path : Text} (hpath : (a.locator.resolve h).1 = some path) :
    a.Admits h port ↔ h.network.isFree a.config.bindAddress port = true ∧
      (a.ledgerAt path).Grants h port := by
  constructor
  · rintro ⟨hfree, hall⟩
    exact ⟨hfree, hall path hpath⟩
  · rintro ⟨hfree, hgrants⟩
    refine ⟨hfree, fun path' hpath' => ?_⟩
    cases hpath.symm.trans hpath'
    exact hgrants

namespace Sifted

theorem refl (a : Allocator) (h : Host) : Sifted a h a h :=
  ⟨⟨a.locator, rfl⟩, rfl, .refl h, fun _ _ => .inl rfl⟩

theorem booksIn_iff (hs : Sifted a h a' h') (place : Place) :
    a'.BooksIn h' place ↔ a.BooksIn h place := by
  simp only [BooksIn, hs.located, hs.passed.slot?]

/-- Skipped candidates change no decision. -/
theorem admits_iff (hs : Sifted a h a' h') (port : Port) :
    a'.Admits h' port ↔ a.Admits h port := by
  obtain ⟨locator, rfl⟩ := hs.allocator
  -- Only a live entry blocks a port, and a ledger that is sifted keeps those.
  have hblocked : ∀ place, a.BooksIn h place →
      ((h'.entriesAt place).Blocked port (h.now a.clock) a.config.ttl ↔
        (h.entriesAt place).Blocked port (h.now a.clock) a.config.ttl) := by
    intro place hplace
    rcases hs.entries place hplace with heq | heq
    · rw [heq]
    · rw [heq, Entries.blocked_live]
  have hgrants : ∀ path, (a.locator.resolve h).1 = some path →
      ((a.ledgerAt path).Grants h' port ↔ (a.ledgerAt path).Grants h port) := by
    intro path hpath
    refine exists_congr fun place => ?_
    rw [hs.passed.lockable_iff, hs.passed.now]
    exact and_congr_right fun hlock => not_congr (hblocked place ⟨path, hpath, hlock.1⟩)
  constructor
  · rintro ⟨hfree, hall⟩
    refine ⟨hs.passed.free _ _ ▸ hfree, fun path hpath => ?_⟩
    exact (hgrants path hpath).mp (hall path (hs.located.trans hpath))
  · rintro ⟨hfree, hall⟩
    refine ⟨(hs.passed.free _ _).trans hfree, fun path hpath => ?_⟩
    have hpath' := hs.located.symm.trans hpath
    exact (hgrants path hpath').mpr (hall path hpath')

theorem plain (hs : Sifted a h a' h')
    (hplain : ∀ place, a.BooksIn h place → (h.entriesAt place).Plain) (place : Place)
    (hplace : a'.BooksIn h' place) : (h'.entriesAt place).Plain := by
  have hbooks := (hs.booksIn_iff place).mp hplace
  rcases hs.entries place hbooks with heq | heq
  · rw [heq]
    exact hplain place hbooks
  · rw [heq]
    exact (hplain place hbooks).live _ _

end Sifted

/-! ## One candidate -/

/-- A candidate other than 0 passes the screening if it is not tracked and can be bound; the host
stays as it is. -/
theorem screen_eq (hc : candidate ≠ 0) (a : Allocator) (h : Host) :
    a.screen candidate h =
      (if a.debounce.contains candidate = false ∧
          h.network.isFree a.config.bindAddress candidate = true then some candidate else none,
        h) := by
  obtain ⟨hbind, hnetwork⟩ := Network.bind_port hc h.network a.config.bindAddress
  unfold screen probe
  cases hd : a.debounce.contains candidate with
  | true => simp [hc]
  | false =>
    cases hb : h.network.bind a.config.bindAddress candidate with
    | mk answer network =>
      rw [hb] at hbind hnetwork
      cases hnetwork
      cases hf : h.network.isFree a.config.bindAddress candidate with
      | true =>
        rw [hf, if_pos rfl] at hbind
        cases answer with
        | error cause => cases hbind
        | ok bound =>
          cases hbind
          simp [hc]
      | false =>
        rw [hf] at hbind
        cases answer with
        | error cause => simp
        | ok bound => cases hbind

/-- What trying a candidate comes to: it is skipped, or it is handed out, debounced and booked. -/
inductive Verdict (a : Allocator) (h : Host) (candidate : Port) :
    Option Port → Allocator → Host → Prop where
  | skipped {a' : Allocator} {h' : Host}
      (hno : ¬(a.debounce.contains candidate = false ∧ a.Admits h candidate))
      (hs : Sifted a h a' h') : Verdict a h candidate none a' h'
  | taken {a' : Allocator} {h' : Host}
      (hyes : a.debounce.contains candidate = false ∧ a.Admits h candidate)
      (hdebounce : a'.debounce = a.debounce.record candidate (h.now a.clock))
      (hentries : ∀ place, a.BooksIn h place →
        (h.entriesAt place).Gains (h.now a.clock) a.config.ttl (some candidate)
          (h'.entriesAt place)) :
      Verdict a h candidate (some candidate) a' h'

/-- What the ledger of an allocator does when it is asked for a port, judged by the host on which it
was looked for: it grants the port and books it, or it refuses it and loses only stale entries. -/
theorem reserve_located {path : Text} {granted : Bool}
    (hpath : (a.locator.resolve h).1 = some path)
    (hplain : ∀ place, a.BooksIn h place → (h.entriesAt place).Plain)
    (hr : (a.ledgerAt path).reserve port (a.locator.resolve h).2.2 = (granted, h')) :
    (granted = true ∧ (a.ledgerAt path).Grants h port ∧
        ∀ place, a.BooksIn h place →
          (h.entriesAt place).Gains (h.now a.clock) a.config.ttl (some port)
            (h'.entriesAt place)) ∨
      granted = false ∧ ¬(a.ledgerAt path).Grants h port ∧
        ∀ place, a.BooksIn h place →
          h'.entriesAt place = h.entriesAt place ∨
            h'.entriesAt place = (h.entriesAt place).live (h.now a.clock) a.config.ttl := by
  have hpassed := a.locator.passed_resolve h
  have hentries := (a.locator.sameFiles_resolve h).entriesAt
  have hcases := (a.ledgerAt path).reserve_cases port (a.locator.resolve h).2.2
  rw [hr] at hcases
  rcases hcases with ⟨hlock, hanswer, hsame⟩ | ⟨place, hlock, hanswer, hbook⟩
  · -- The file cannot be locked, after the look as before it.
    refine .inr ⟨hanswer, ?_, fun place _ => .inl ((hsame place).trans (hentries place))⟩
    rintro ⟨place, hplace, -⟩
    exact hlock place ((hpassed.lockable_iff path place).mpr hplace)
  · -- The file can be locked, and no place but its own is one the allocator books in.
    rw [hpassed.lockable_iff] at hlock
    have hplace : ∀ p, a.BooksIn h p → p = place := by
      rintro p ⟨path', hpath', hslot⟩
      cases hpath.symm.trans hpath'
      exact Option.some.inj (hslot.symm.trans hlock.1)
    rw [hentries place, hpassed.now] at hanswer hbook
    have hafter := hbook (hplain place ⟨path, hpath, hlock.1⟩)
    dsimp only [ledgerAt] at hanswer hafter
    cases granted with
    | true =>
      -- The booking is granted, so no live entry of before blocks the port.
      refine .inl ⟨rfl, ⟨place, hlock, ?_⟩, fun p hp => ?_⟩
      · exact (Entries.granted_iff_not_blocked _ _ _ _).mp hanswer.symm
      · rw [hplace p hp, hafter]
        exact .afterBooking hanswer.symm
    | false =>
      -- The booking is refused by a live entry, which keeps the file from granting the port.
      refine .inr ⟨rfl, ?_, fun p hp => .inr ?_⟩
      · rintro ⟨place', hlock', hblocked⟩
        cases hlock.1.symm.trans hlock'.1
        have hgranted := (Entries.granted_iff_not_blocked _ _ _ _).mpr hblocked
        exact absurd (hanswer.trans hgranted) Bool.false_ne_true
      · rw [hplace p hp, hafter, Entries.afterBooking_of_refused hanswer.symm]

/-- Asking the ledger for a port that was not handed out recently and can be bound. -/
theorem verdict_confirm (hplain : ∀ place, a.BooksIn h place → (h.entriesAt place).Plain)
    (hrested : a.debounce.contains port = false)
    (hfree : h.network.isFree a.config.bindAddress port = true) :
    Verdict a h port (a.confirm port h).1 (a.confirm port h).2.1 (a.confirm port h).2.2 := by
  have hpassed := a.locator.passed_resolve h
  have hknown := a.locator.resolve_resolve h
  unfold confirm
  cases hres : a.locator.resolve h with
  | mk path? rest =>
    obtain ⟨locator, h₁⟩ := rest
    rw [hres] at hpassed hknown
    cases path? with
    | none =>
      -- Without a ledger there is nothing to ask.
      have hnone : ∀ path, (a.locator.resolve h).1 ≠ some path := by simp [hres]
      refine .taken ⟨hrested, hfree, fun path hpath => absurd hpath (hnone path)⟩ ?_ ?_
      · rw [← hpassed.now]
        rfl
      · rintro place ⟨path, hpath, -⟩
        exact absurd hpath (hnone path)
    | some path =>
      have hpath : (a.locator.resolve h).1 = some path := by rw [hres]
      have hpassed' := hpassed.trans ((a.ledgerAt path).visit_reserve port h₁).passed
      dsimp only
      cases hr : (a.ledgerAt path).reserve port h₁ with
      | mk granted h₂ =>
        rw [hr] at hpassed'
        have hr' : (a.ledgerAt path).reserve port (a.locator.resolve h).2.2 = (granted, h₂) := by
          rw [hres, hr]
        rcases reserve_located hpath hplain hr' with
          ⟨rfl, hgrants, hgains⟩ | ⟨rfl, hgrants, hentries⟩
        · refine .taken ⟨hrested, (admits_iff_of_path hpath).mpr ⟨hfree, hgrants⟩⟩ ?_ hgains
          rw [← hpassed'.now]
          rfl
        · refine .skipped ?_ ⟨⟨locator, rfl⟩, ?_, hpassed', hentries⟩
          · rintro ⟨-, hadmits⟩
            exact hgrants ((admits_iff_of_path hpath).mp hadmits).2
          · exact (congrArg Prod.fst (hknown h₂)).trans hpath.symm

/-- What trying a candidate other than 0 does. -/
theorem verdict_tryPort (hc : candidate ≠ 0)
    (hplain : ∀ place, a.BooksIn h place → (h.entriesAt place).Plain) :
    Verdict a h candidate (a.tryPort candidate h).1 (a.tryPort candidate h).2.1
      (a.tryPort candidate h).2.2 := by
  unfold tryPort
  rw [screen_eq hc]
  by_cases hs : a.debounce.contains candidate = false ∧
      h.network.isFree a.config.bindAddress candidate = true
  · rw [if_pos hs]
    exact verdict_confirm hplain hs.1 hs.2
  · rw [if_neg hs]
    exact .skipped (fun hyes => hs ⟨hyes.1, hyes.2.free⟩) (.refl a h)

/-! ## Searches and look-ups -/

/-- What a search finds, debounces and books. By induction on the candidates: what is skipped
changes no decision about the rest. -/
theorem search_firstFit {candidates : List Port} (hzero : 0 ∉ candidates)
    (hplain : ∀ place, a.BooksIn h place → (h.entriesAt place).Plain)
    (hsearch : a.search h candidates = (found, a', h')) :
    FirstFit (fun port => a.debounce.contains port = false ∧ a.Admits h port) candidates found ∧
      a'.debounce = found.elim a.debounce (a.debounce.record · (h.now a.clock)) ∧
      ∀ place, a.BooksIn h place →
        (h.entriesAt place).Gains (h.now a.clock) a.config.ttl found (h'.entriesAt place) := by
  induction candidates generalizing a h with
  | nil =>
    cases hsearch
    exact ⟨by simp [FirstFit], rfl, fun place _ => .refl _ _ _⟩
  | cons candidate rest ih =>
    have hc : candidate ≠ 0 := Ne.symm (List.ne_of_not_mem_cons hzero)
    have hrest : 0 ∉ rest := List.not_mem_of_not_mem_cons hzero
    have hverdict := verdict_tryPort hc hplain
    rw [search_cons] at hsearch
    cases htry : a.tryPort candidate h with
    | mk tried state =>
      obtain ⟨a₁, h₁⟩ := state
      rw [htry] at hsearch hverdict
      cases hverdict with
      | taken hyes hdebounce hentries =>
        cases hsearch
        exact ⟨.here hyes, hdebounce, hentries⟩
      | skipped hno hs =>
        -- The rest are judged on what the candidate left, and that is as if on the host of before.
        obtain ⟨hfound, hdebounce, hentries⟩ := ih hrest (hs.plain hplain) hsearch
        obtain ⟨locator, rfl⟩ := hs.allocator
        refine ⟨.later hno (hfound.congr fun port => and_congr_right fun _ => hs.admits_iff port),
          ?_, fun place hplace => ?_⟩
        · rw [hdebounce, hs.passed.now]
        · have hgains := hentries place ((hs.booksIn_iff place).mpr hplace)
          rw [hs.passed.now] at hgains
          rcases hs.entries place hplace with heq | heq
          · rwa [heq] at hgains
          · rw [heq] at hgains
            exact hgains.of_live

theorem zero_not_mem_candidates (r : Request) : 0 ∉ r.candidates := by
  intro hmem
  have hallows := Request.mem_candidates.mp hmem
  simp [Request.allows, Port.lowest] at hallows

/-- A look-up whose debounce ages fit, among candidates other than 0, finds the first candidate that
was not handed out less than a window ago, can be bound, and is granted by the ledger as it was. It
debounces what it found and drops what is a window old; the ledger gains what it found and loses
stale entries at most. -/
theorem inquire_firstFit {a : Allocator} {h : Host} {q : Inquiry}
    (hfits : ∀ port time, a.debounce.handedOut.get? port = some time →
      Millis.Fits ((h.now a.clock).toInt - time.toInt))
    (hzero : ∀ candidates, q = .among candidates → 0 ∉ candidates)
    (hplain : ∀ place, a.BooksIn h place → (h.entriesAt place).Plain) :
    ∃ found a' h', a.inquire q h = (.ok found, a', h') ∧
      FirstFit (fun port => ¬a.Debounced (h.now a.clock) port ∧ a.Admits h port) q.candidates
        found ∧
      (∀ port time, a'.debounce.handedOut.get? port = some time ↔
        a.debounce.handedOut.get? port = some time ∧
            (h.now a.clock).toInt - time.toInt < a.debounce.window.toInt ∨
          found = some port ∧ time = h.now a.clock) ∧
      ∀ place, a.BooksIn h place →
        (h.entriesAt place).Gains (h.now a.clock) a.config.ttl found (h'.entriesAt place) := by
  obtain ⟨debounce, hpurge, -, hget⟩ := Debounce.purge_ok hfits
  have hcandidates : 0 ∉ q.candidates := by
    cases q with
    | any => exact zero_not_mem_candidates _
    | among candidates => exact hzero candidates rfl
    | within min max excluded => exact zero_not_mem_candidates _
    | request r => exact zero_not_mem_candidates r
  have hrested : ∀ port, debounce.contains port = false ↔ ¬a.Debounced (h.now a.clock) port := by
    intro port
    rw [← Bool.not_eq_true, Debounce.contains_eq_true_iff, Debounced]
    simp only [hget]
  cases hsearch : ({ a with debounce } : Allocator).search h q.candidates with
  | mk found state =>
    obtain ⟨a', h'⟩ := state
    obtain ⟨hfound, hdebounce, hentries⟩ :=
      search_firstFit (a := { a with debounce }) hcandidates hplain hsearch
    refine ⟨found, a', h', ?_,
      hfound.congr fun port => and_congr (hrested port) admits_with_debounce,
      fun port time => ?_, hentries⟩
    · have hpurged : a.purge h = .ok { a with debounce } := by rw [purge, hpurge]
      have hfind := findPort_toOption { a with debounce } q.candidates h
      rw [hsearch] at hfind
      obtain ⟨hanswer, hstate⟩ := Prod.ext_iff.mp hfind
      rw [inquire_eq, nextFrom, hpurged]
      exact Prod.ext (congrArg Except.ok hanswer) hstate
    · rw [hdebounce]
      cases found with
      | none => simpa using hget port time
      | some p =>
        -- The port that was found was not tracked, so its time is now.
        have hnew : debounce.contains p = false := by
          obtain ⟨_, _, _, ⟨hnew, -⟩, _⟩ := hfound
          exact hnew
        have hnone : debounce.handedOut.get? p = none := by
          rw [Debounce.contains, OrderedMap.contains, Option.isSome_eq_false_iff] at hnew
          exact Option.isNone_iff_eq_none.mp hnew
        rw [Option.elim_some, Debounce.get?_record, hnone, Option.none_or, ← hget]
        by_cases hp : port = p
        · subst hp
          simp [hnone, eq_comm]
        · simp [hp, Ne.symm hp]

/-- A host with a listener at one port and a ledger with a live entry and a stale one. -/
def busyHost : Host :=
  { Host.bare 0 with
    files := (({} : FileTree).create [['p']] 0).write 0
      (Utf8.encode "5002=49000\n5003=1000".toList)
    network := (Host.bare 0).network.listen ⟨.anyV4, 5001⟩
    clock := ⟨50000⟩ }

/-- An allocator that handed out a port five seconds ago. -/
def busyAllocator : Allocator :=
  let a := Allocator.new { ledger := some ['p'] } .manual
  { a with debounce := a.debounce.record 5000 45000 }

/-- Of five ports, the first was handed out recently, the second is taken, the third has a live
entry and the fourth a stale one, so that one is found. -/
theorem inquire_firstFit_busyHost :
    ∃ a' h', busyAllocator.inquire (.among [5000, 5001, 5002, 5003, 5004]) busyHost =
        (.ok (some 5003), a', h') ∧
      FirstFit (fun port => ¬busyAllocator.Debounced 50000 port ∧
        busyAllocator.Admits busyHost port) [5000, 5001, 5002, 5003, 5004] (some 5003) ∧
      (∀ port time, a'.debounce.handedOut.get? port = some time ↔
        busyAllocator.debounce.handedOut.get? port = some time ∧
            (50000 : Int64).toInt - time.toInt < (10000 : Int64).toInt ∨
          some 5003 = some port ∧ time = 50000) ∧
      ∀ place, busyAllocator.BooksIn busyHost place →
        (busyHost.entriesAt place).Gains 50000 30000 (some 5003) (h'.entriesAt place) := by
  have hanswer :
      (busyAllocator.inquire (.among [5000, 5001, 5002, 5003, 5004]) busyHost).1 =
        .ok (some 5003) := by cbv
  have htracked : busyAllocator.debounce.handedOut.toList = [(5000, 45000)] := by cbv
  have hentries : (busyHost.entriesAt [['p']]).toList =
      [(Entries.portKey 5002, "49000".toList), (Entries.portKey 5003, "1000".toList)] := by cbv
  have hpath : (busyAllocator.locator.resolve busyHost).1 = some ['p'] := by cbv
  have hslot : busyHost.files.slot? ['p'] = some [['p']] := by cbv
  have hfits : ∀ port time, busyAllocator.debounce.handedOut.get? port = some time →
      Millis.Fits ((busyHost.now busyAllocator.clock).toInt - time.toInt) := by
    intro port time hget
    rw [OrderedMap.get?_eq_some_iff, htracked] at hget
    cases List.mem_singleton.mp hget
    decide
  have hplain : ∀ place, busyAllocator.BooksIn busyHost place →
      (busyHost.entriesAt place).Plain := by
    rintro place ⟨path, hpath', hslot'⟩
    cases hpath.symm.trans hpath'
    cases hslot.symm.trans hslot'
    rw [Entries.Plain, hentries, List.forall_mem_cons, List.forall_mem_singleton]
    exact ⟨Entries.portKey_plain 5002, Entries.portKey_plain 5003⟩
  obtain ⟨found, a', h', heq, hrest⟩ := inquire_firstFit
    (q := .among [5000, 5001, 5002, 5003, 5004]) hfits (by rintro _ ⟨⟩; decide) hplain
  rw [heq] at hanswer
  cases hanswer
  exact ⟨a', h', heq, hrest⟩

end Allocator

end PortReservation
