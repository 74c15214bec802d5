import PortReservation.Lock.Handle

/-!
# Bounded polling

Whatever the tries for a lock answer, polling comes to an end: with the first try that finds the
lock not held elsewhere, or else with the last one that the policy allows. Before each try but the
first there is one pause, so the pauses tell the tries. The retries are counted in 32 bits; as the
count stays within the policy, it never wraps around, not even where the policy allows the most
retries there can be.

* `Polls`, `Polls.counted`: the states that polling goes through, and what is counted in them.
* `Ends`, `poll_eq_iff`: with which try polling ends, and how.
* `Host.await_bounded`: what asking for the locks of an open file answers.
-/

namespace PortReservation

namespace Lock

variable {policy : LockPolicy} {answers : Nat → LockAnswer} {p : Polling}

/-! ## The states of polling -/

/-- The states that polling goes through, each before a try. -/
inductive Polls (policy : LockPolicy) (answers : Nat → LockAnswer) : Polling → Prop where
  | start : Polls policy answers {}
  | again {p : Polling} (hp : Polls policy answers p) (hanswer : answers p.tries = .contended)
      (hleft : ¬policy.attempts ≤ p.retries) : Polls policy answers (p.tried.paused policy.interval)

/-- A state before a try in which the counts are right: there was a retry and a pause for each try,
and the lock was held elsewhere every time. -/
structure Counted (policy : LockPolicy) (answers : Nat → LockAnswer) (p : Polling) : Prop where
  retries : p.retries.toNat = p.tries
  within : p.retries ≤ policy.attempts
  pauses : p.pauses = List.replicate p.tries policy.interval
  contended : ∀ j < p.tries, answers j = .contended

/-- One more retry is counted right. -/
theorem Counted.again (hp : Counted policy answers p) (hanswer : answers p.tries = .contended)
    (hleft : ¬policy.attempts ≤ p.retries) :
    Counted policy answers (p.tried.paused policy.interval) where
  retries := by
    have hnext : (p.tried.paused policy.interval).retries.toNat = p.retries.toNat + 1 :=
      toNat_add_one_of_not_le hleft
    rw [hnext, hp.retries]
    rfl
  within := by
    have hnext : (p.tried.paused policy.interval).retries.toNat = p.retries.toNat + 1 :=
      toNat_add_one_of_not_le hleft
    rw [UInt32.le_iff_toNat_le] at hleft ⊢
    omega
  pauses := by
    show policy.interval :: p.pauses = List.replicate (p.tries + 1) policy.interval
    rw [hp.pauses, List.replicate_succ]
  contended j hj := by
    rcases Nat.lt_succ_iff_lt_or_eq.mp hj with hj | rfl
    · exact hp.contended j hj
    · exact hanswer

/-- In every state of polling the counts are right. -/
theorem Polls.counted (hp : Polls policy answers p) : Counted policy answers p := by
  induction hp with
  | start => exact ⟨rfl, by simp [UInt32.le_iff_toNat_le], rfl, fun j hj => absurd hj j.not_lt_zero⟩
  | again _ hanswer hleft ih => exact ih.again hanswer hleft

/-- Polling on from any of its states ends as polling does. -/
theorem Polls.pollFrom_eq (hp : Polls policy answers p) :
    pollFrom policy answers p = poll policy answers := by
  induction hp with
  | start => rfl
  | @again p _ hanswer hleft ih =>
    rw [← ih, pollFrom.eq_def _ _ p, hanswer]
    exact (if_neg hleft).symm

/-! ## The end of polling -/

/-- How polling ends with a try that answers so and before which there were `i` others. -/
inductive Closes (attempts : UInt32) (i : Nat) : LockAnswer → PollEnd → Prop where
  | obtained : Closes attempts i .obtained .obtained
  | failed {cause : IoError} : Closes attempts i (.failed cause) (.failed cause)
  | timedOut (hlast : i = attempts.toNat) : Closes attempts i .contended .timedOut

/-- Polling ends in a way with the try before which there were `i` others. -/
structure Ends (policy : LockPolicy) (answers : Nat → LockAnswer) (i : Nat) (e : PollEnd) :
    Prop where
  within : i ≤ policy.attempts.toNat
  contended : ∀ j < i, answers j = .contended
  closes : Closes policy.attempts i (answers i) e

/-- Polling on from one of its states comes to an end with a try in one of them. -/
theorem Polls.exists_end (hp : Polls policy answers p) :
    ∃ q, Polls policy answers q ∧ (pollFrom policy answers p).2 = q.tried ∧
      Closes policy.attempts q.tries (answers q.tries) (pollFrom policy answers p).1 := by
  fun_induction pollFrom policy answers p with
  | case1 p hanswer => exact ⟨p, hp, rfl, hanswer ▸ .obtained⟩
  | case2 p cause hanswer => exact ⟨p, hp, rfl, hanswer ▸ .failed⟩
  | case3 p hanswer hlast =>
    have hcounted := hp.counted
    have hwithin := hcounted.within
    rw [UInt32.le_iff_toNat_le] at hlast hwithin
    exact ⟨p, hp, rfl, hanswer ▸ .timedOut (by rw [← hcounted.retries]; omega)⟩
  | case4 p hanswer hleft ih => exact ih (hp.again hanswer hleft)

/-- What polling counted when it ended: a pause, as long as the policy says, and a retry before each
try but the first. -/
structure Finished (policy : LockPolicy) (p : Polling) : Prop where
  tries : p.tries = p.pauses.length + 1
  retries : p.retries.toNat = p.pauses.length
  pauses : p.pauses = List.replicate p.pauses.length policy.interval

/-- Polling comes to an end, and what it counted then says with which try. -/
theorem poll_ends (policy : LockPolicy) (answers : Nat → LockAnswer) :
    Finished policy (poll policy answers).2 ∧
      Ends policy answers (poll policy answers).2.pauses.length (poll policy answers).1 := by
  obtain ⟨q, hq, hend, hcloses⟩ := (Polls.start : Polls policy answers _).exists_end
  have hcounted := hq.counted
  have hlength : q.pauses.length = q.tries := by rw [hcounted.pauses, List.length_replicate]
  have hwithin := UInt32.le_iff_toNat_le.mp hcounted.within
  rw [poll, hend]
  refine ⟨⟨?_, ?_, ?_⟩, ?_⟩
  all_goals simp only [Polling.tried, hlength]
  · exact hcounted.retries
  · exact hcounted.pauses
  · exact ⟨hcounted.retries ▸ hwithin, hcounted.contended, hcloses⟩

section Unique

variable {i j : Nat} {e e' : PollEnd}

/-- Polling goes on after a try that finds the lock held elsewhere, unless it was the last one. -/
theorem Ends.not_lt (hi : Ends policy answers i e) (hj : Ends policy answers j e') : ¬i < j := by
  intro hlt
  have hcloses := hi.closes
  have hwithin := hj.within
  rw [hj.contended i hlt] at hcloses
  -- A try that finds the lock held elsewhere ends polling only if it is the last one.
  cases hcloses with
  | timedOut hlast => omega

/-- Polling ends once and in one way. -/
theorem Ends.unique (hi : Ends policy answers i e) (hj : Ends policy answers j e') :
    i = j ∧ e = e' := by
  have hij : i = j := Nat.le_antisymm (Nat.not_lt.mp (hj.not_lt hi)) (Nat.not_lt.mp (hi.not_lt hj))
  subst hij
  have hcloses := hi.closes
  have hcloses' := hj.closes
  generalize answers i = answer at hcloses hcloses'
  cases hcloses <;> cases hcloses' <;> exact ⟨rfl, rfl⟩

/-- With which try polling ends, and how. -/
theorem poll_eq_iff :
    (poll policy answers).1 = e ∧ (poll policy answers).2.pauses.length = i ↔
      Ends policy answers i e := by
  have hends := (poll_ends policy answers).2
  constructor
  · rintro ⟨rfl, rfl⟩
    exact hends
  · intro h
    obtain ⟨hi, he⟩ := hends.unique h
    exact ⟨he, hi⟩

theorem closes_obtained_iff {attempts : UInt32} {answer : LockAnswer} :
    Closes attempts i answer .obtained ↔ answer = .obtained := by
  constructor
  · rintro ⟨⟩
    rfl
  · rintro rfl
    exact .obtained

theorem closes_failed_iff {attempts : UInt32} {answer : LockAnswer} {cause : IoError} :
    Closes attempts i answer (.failed cause) ↔ answer = .failed cause := by
  constructor
  · rintro ⟨⟩
    rfl
  · rintro rfl
    exact .failed

theorem closes_timedOut_iff {attempts : UInt32} {answer : LockAnswer} :
    Closes attempts i answer .timedOut ↔ answer = .contended ∧ i = attempts.toNat := by
  constructor
  · rintro (_ | _ | hlast)
    exact ⟨rfl, hlast⟩
  · rintro ⟨rfl, hlast⟩
    exact .timedOut hlast

theorem ends_iff :
    Ends policy answers i e ↔
      i ≤ policy.attempts.toNat ∧ Closes policy.attempts i (answers i) e ∧
        ∀ j < i, answers j = .contended :=
  ⟨fun h => ⟨h.within, h.closes, h.contended⟩, fun ⟨hw, hc, hcontended⟩ => ⟨hw, hcontended, hc⟩⟩

theorem ends_obtained_iff :
    Ends policy answers i .obtained ↔
      i ≤ policy.attempts.toNat ∧ answers i = .obtained ∧ ∀ j < i, answers j = .contended := by
  rw [ends_iff, closes_obtained_iff]

theorem ends_failed_iff {cause : IoError} :
    Ends policy answers i (.failed cause) ↔
      i ≤ policy.attempts.toNat ∧ answers i = .failed cause ∧ ∀ j < i, answers j = .contended := by
  rw [ends_iff, closes_failed_iff]

theorem ends_timedOut_iff :
    Ends policy answers i .timedOut ↔
      i = policy.attempts.toNat ∧ ∀ j ≤ policy.attempts.toNat, answers j = .contended := by
  rw [ends_iff, closes_timedOut_iff]
  constructor
  · rintro ⟨-, ⟨hanswer, rfl⟩, hcontended⟩
    refine ⟨rfl, fun j hj => ?_⟩
    rcases Nat.lt_or_eq_of_le hj with hj | rfl
    · exact hcontended j hj
    · exact hanswer
  · rintro ⟨rfl, hcontended⟩
    exact ⟨Nat.le_refl _, ⟨hcontended _ (Nat.le_refl _), rfl⟩,
      fun j hj => hcontended j (Nat.le_of_lt hj)⟩

end Unique

end Lock

namespace PollEnd

variable {policy : LockPolicy} {path : Text} {f : OpenFile} {e : PollEnd}

/-- What asking for the locks of an open file answers where polling ends so. -/
def answer (policy : LockPolicy) (path : Text) (f : OpenFile) : PollEnd → Except Error LockHandle
  | .obtained => .ok ⟨path, f⟩
  | .failed cause => .error (.io cause)
  | .timedOut => .error (.lockTimeout path policy.attempts)

theorem answer_eq_ok_iff {handle : LockHandle} :
    e.answer policy path f = .ok handle ↔ handle = ⟨path, f⟩ ∧ e = .obtained := by
  cases e <;> simp [answer, eq_comm]

theorem answer_eq_io_iff {cause : IoError} :
    e.answer policy path f = .error (.io cause) ↔ e = .failed cause := by
  cases e <;> simp [answer]

theorem answer_eq_lockTimeout_iff {named : Text} {attempts : UInt32} :
    e.answer policy path f = .error (.lockTimeout named attempts) ↔
      named = path ∧ attempts = policy.attempts ∧ e = .timedOut := by
  cases e <;> simp [answer, eq_comm]

end PollEnd

namespace Host

variable {policy : LockPolicy} {answers : Nat → LockAnswer} {path : Text} {f : OpenFile} {i : Nat}

/-! ## Asking for the locks of an open file -/

/-- Where polling is given up, all retries were made that the policy allows. -/
theorem retries_of_timedOut (he : (Lock.poll policy answers).1 = .timedOut) :
    (Lock.poll policy answers).2.retries = policy.attempts := by
  obtain ⟨hfinished, hends⟩ := Lock.poll_ends policy answers
  rw [he] at hends
  rw [← UInt32.toNat_inj, hfinished.retries]
  exact (Lock.ends_timedOut_iff.mp hends).1

/-- The answer tells how polling ended. -/
theorem await_answer (h : Host) (policy : LockPolicy) (path : Text) (f : OpenFile)
    (answers : Nat → LockAnswer) :
    (h.await policy path f answers).1 = (Lock.poll policy answers).1.answer policy path f := by
  have hretries := @retries_of_timedOut policy answers
  unfold await
  split <;> simp_all [PollEnd.answer]

/-- The locks are taken where polling obtained them, and else the file is closed. -/
theorem await_host (h : Host) (policy : LockPolicy) (path : Text) (f : OpenFile)
    (answers : Nat → LockAnswer) :
    (h.await policy path f answers).2 =
      if (Lock.poll policy answers).1 = .obtained then
        { h with locks := h.locks.takeBoth f.descriptor f.file }
      else h.closeFile f := by
  unfold await
  split <;> simp_all

/-- Where polling ends with the locks, the handle has them. -/
theorem await_of_obtained (he : Lock.Ends policy answers i .obtained) (h : Host) :
    h.await policy path f answers =
      (.ok ⟨path, f⟩, { h with locks := h.locks.takeBoth f.descriptor f.file }) := by
  obtain ⟨hend, -⟩ := Lock.poll_eq_iff.mpr he
  refine Prod.ext ?_ ?_
  · rw [await_answer, hend]
    rfl
  · rw [await_host, if_pos hend]

/-- Where polling is given up, the error says after how many retries: after all that the policy
allows. -/
theorem await_of_timedOut (he : Lock.Ends policy answers i .timedOut) (h : Host) :
    h.await policy path f answers =
      (.error (.lockTimeout path policy.attempts), h.closeFile f) := by
  obtain ⟨hend, -⟩ := Lock.poll_eq_iff.mpr he
  refine Prod.ext ?_ ?_
  · rw [await_answer, hend]
    rfl
  · rw [await_host, if_neg (by simp [hend])]

/-- What asking for the locks of an open file answers, and what polling counted until then. The
pauses that were made tell with which try it ended. -/
structure Awaited (policy : LockPolicy) (path : Text) (f : OpenFile) (answers : Nat → LockAnswer)
    (answer : Except Error LockHandle) (p : Polling) : Prop where
  finished : Lock.Finished policy p
  within : p.retries ≤ policy.attempts
  /-- A handle is had with a try that obtains the locks, after tries that found them held
  elsewhere. -/
  handle_iff (i : Nat) (handle : LockHandle) :
    answer = .ok handle ∧ p.pauses.length = i ↔
      handle = ⟨path, f⟩ ∧ i ≤ policy.attempts.toNat ∧ answers i = .obtained ∧
        ∀ j < i, answers j = .contended
  /-- The error of a try is handed on. -/
  failed_iff (i : Nat) (cause : IoError) :
    answer = .error (.io cause) ∧ p.pauses.length = i ↔
      i ≤ policy.attempts.toNat ∧ answers i = .failed cause ∧ ∀ j < i, answers j = .contended
  /-- Asking is given up where the locks are held elsewhere at every try that the policy allows. -/
  timeout_iff (i : Nat) (named : Text) (attempts : UInt32) :
    answer = .error (.lockTimeout named attempts) ∧ p.pauses.length = i ↔
      named = path ∧ attempts = policy.attempts ∧ i = policy.attempts.toNat ∧
        ∀ j ≤ policy.attempts.toNat, answers j = .contended

/-- Whatever the tries answer, asking for the locks of an open file ends as they say. -/
theorem awaited (h : Host) (policy : LockPolicy) (path : Text) (f : OpenFile)
    (answers : Nat → LockAnswer) :
    Awaited policy path f answers (h.await policy path f answers).1
      (Lock.poll policy answers).2 := by
  obtain ⟨hfinished, hends⟩ := Lock.poll_ends policy answers
  refine ⟨hfinished, ?_, fun i handle => ?_, fun i cause => ?_, fun i named attempts => ?_⟩
  · rw [UInt32.le_iff_toNat_le, hfinished.retries]
    exact hends.within
  · rw [await_answer, PollEnd.answer_eq_ok_iff, and_assoc, Lock.poll_eq_iff,
      Lock.ends_obtained_iff]
  · rw [await_answer, PollEnd.answer_eq_io_iff, Lock.poll_eq_iff, Lock.ends_failed_iff]
  · rw [await_answer, PollEnd.answer_eq_lockTimeout_iff, and_assoc, and_assoc, Lock.poll_eq_iff,
      Lock.ends_timedOut_iff]

/-- Acquiring a handle on a file that can be opened polls for its locks. The retries that are
counted are those that were made, never more than the policy allows, so the count does not wrap
around; polling ends whatever the tries answer, and the answer is the one that they call for. -/
theorem await_bounded {h h₁ : Host} {path : Text} {f : OpenFile}
    (hopen : h.openFile path = (.ok f, h₁)) (policy : LockPolicy) (answers : Nat → LockAnswer) :
    h.acquire policy path = h₁.await policy path f (fun _ => h₁.lockAnswer f) ∧
      (∀ p, Lock.Polls policy answers p →
        p.retries.toNat = p.tries ∧ p.retries ≤ policy.attempts ∧
          Lock.pollFrom policy answers p = Lock.poll policy answers) ∧
      Awaited policy path f answers (h₁.await policy path f answers).1
        (Lock.poll policy answers).2 := by
  refine ⟨?_, fun p hp => ⟨hp.counted.retries, hp.counted.within, hp.pollFrom_eq⟩,
    h₁.awaited policy path f answers⟩
  rw [acquire_eq, hopen]

/-- As many retries as can be counted. -/
def longPolicy : LockPolicy := { attempts := 4294967295 }

/-- Asking for locks that are never free comes to an end even where the count of retries reaches the
largest number that there is, and asking for locks that are free at the third try ends there. -/
theorem await_bounded_longPolicy :
    ∃ f, ((bare 0).openFile ['p']).1 = .ok f ∧
      (((bare 0).openFile ['p']).2.await longPolicy ['p'] f fun _ => .contended).1 =
        .error (.lockTimeout ['p'] 4294967295) ∧
      (Lock.poll longPolicy fun _ => .contended).2.pauses.length = 4294967295 ∧
      (((bare 0).openFile ['p']).2.await longPolicy ['p'] f fun i =>
        if i < 2 then .contended else .obtained).1 = .ok ⟨['p'], f⟩ ∧
      (Lock.poll longPolicy fun i => if i < 2 then .contended else .obtained).2.pauses.length =
        2 := by
  have hopen : (bare 0).openFile ['p'] = (.ok ⟨0, 0⟩, ((bare 0).openFile ['p']).2) := rfl
  obtain ⟨-, -, hnever⟩ := await_bounded hopen longPolicy fun _ => .contended
  obtain ⟨-, -, hthird⟩ :=
    await_bounded hopen longPolicy fun i => if i < 2 then .contended else .obtained
  obtain ⟨htimeout, hpauses⟩ := (hnever.timeout_iff 4294967295 ['p'] 4294967295).mpr
    ⟨rfl, rfl, rfl, fun _ _ => rfl⟩
  obtain ⟨hhandle, htwo⟩ := (hthird.handle_iff 2 ⟨['p'], ⟨0, 0⟩⟩).mpr
    ⟨rfl, by decide, rfl, fun j hj => if_pos hj⟩
  exact ⟨⟨0, 0⟩, rfl, htimeout, hpauses, hhandle, htwo⟩

end Host

end PortReservation
