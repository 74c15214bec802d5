import PortReservation.Entries.Expiry
import PortReservation.Proofs.Digits
import PortReservation.Proofs.RoundTrip
import PortReservation.Time.Timestamp

/-!
# Booking

What a booking drops is dead for good on a clock that does not go back, so an early purge changes no
later decision; what it keeps and what it adds reads back from the file.

* `isLive_anti`: a value that is live at a time was live at every time before it.
* `mem_afterBooking`: the entries that a booking leaves.
* `parse_written_iff`: when they are what is read from the file afterwards.
-/

namespace PortReservation

/-! ## Written numbers and stamps -/

namespace Decimal

/-- What reads as an integer starts with no blank. -/
theorem not_isBlank_of_readInt? {c : Char} {t : Text} {n : Int}
    (h : readInt? (c :: t) = some n) : isBlank c = false := by
  cases readInt?_eq_some_iff.mp h with
  | unsigned hdigits =>
    obtain ⟨-, hall, -⟩ := hdigits.found
    exact isBlank_of_isDigit (List.forall_mem_cons.mp hall).1
  | plus => decide
  | minus => decide

end Decimal

namespace Timestamp

theorem line_feed_not_mem_padded (width n : Nat) : '\n' ∉ padded width n := by
  have hdigits : '\n' ∉ Decimal.ofNat n := fun h =>
    absurd (Decimal.isDigit_of_mem_ofNat h) (by decide)
  simp [padded, hdigits]

theorem line_feed_not_mem_renderYear (year : Int) : '\n' ∉ renderYear year := by
  rw [renderYear]
  split
  · exact line_feed_not_mem_padded 4 _
  · have hsign : '\n' ≠ (if year < 0 then '-' else '+') := by split <;> decide
    simp [hsign, line_feed_not_mem_padded]

/-- A time stamp is one line. -/
theorem line_feed_not_mem_render (time : Millis) : '\n' ∉ render time := by
  simp [render, line_feed_not_mem_padded, line_feed_not_mem_renderYear]

end Timestamp

namespace Entries

theorem line_feed_not_mem_header : '\n' ∉ header := by decide

/-! ## Keys of ports and live values -/

theorem portKey_injective {p q : Port} (h : portKey p = portKey q) : p = q :=
  UInt16.toNat_inj.mp (Decimal.ofNat_injective h)

theorem isBareBlank_of_not_isBlank {c : Char} (h : isBlank c = false) : isBareBlank c = false := by
  simp [isBareBlank, h]

theorem portKey_plain (p : Port) : ∀ c ∈ portKey p, isBareBlank c = false := fun _ hc =>
  isBareBlank_of_not_isBlank (isBlank_of_isDigit (Decimal.isDigit_of_mem_ofNat hc))

theorem value_head_of_read? {value : Text} {stamp : Millis} (h : Millis.read? value = some stamp) :
    ∀ c, value.head? = some c → isBareBlank c = false := by
  intro c hc
  obtain ⟨n, hn, -⟩ := Option.bind_eq_some_iff.mp h
  cases value with
  | nil => cases hc
  | cons d t =>
    cases hc
    exact isBareBlank_of_not_isBlank (Decimal.not_isBlank_of_readInt? hn)

/-- The entry of a port and a time lasts. -/
theorem lasting_reservation (p : Port) (now : Millis) : Lasting (portKey p, now.render) where
  key_ne_nil := Nat.toDigits_ne_nil
  key_plain := portKey_plain p
  value_head := value_head_of_read? (Millis.read?_render now)

/-- A stamp of the past lives exactly while it is at most a time to live old. -/
theorem isLive_render {now stamp ttl : Millis} (h : stamp.toInt ≤ now.toInt) :
    isLive now ttl stamp.render = true ↔ now.toInt - stamp.toInt ≤ ttl.toInt := by
  rw [isLive_iff]
  constructor
  · rintro ⟨r, hr, -, hle⟩
    rw [Millis.read?_render, Option.some.injEq] at hr
    exact hr ▸ hle
  · intro hle
    -- An age that is at most a time to live and not negative fits.
    have httl := Millis.fits_toInt ttl
    unfold Millis.Fits at httl
    refine ⟨stamp, Millis.read?_render stamp, ?_, hle⟩
    unfold Millis.Fits
    omega

/-- On a clock that shows -1 at least, a value lives exactly if it is a time that is at most a time
to live old: even the age of the last time fits. -/
theorem isLive_iff_of_neg_one_le {now ttl : Millis} {value : Text} (h : -1 ≤ now.toInt) :
    isLive now ttl value = true ↔
      ∃ stamp, Millis.read? value = some stamp ∧ now.toInt - stamp.toInt ≤ ttl.toInt := by
  rw [isLive_iff]
  refine exists_congr fun stamp => and_congr_right fun _ => and_iff_right_of_imp fun hle => ?_
  have hstamp := Millis.fits_toInt stamp
  have httl := Millis.fits_toInt ttl
  unfold Millis.Fits at *
  omega

/-- A value that is live at a time was live at every time before it from -1 on, also for whoever
lets reservations live longer. -/
theorem isLive_anti {early late ttl ttl' : Millis} {value : Text} (hstart : -1 ≤ early.toInt)
    (horder : early.toInt ≤ late.toInt) (httl : ttl'.toInt ≤ ttl.toInt)
    (h : isLive late ttl' value = true) : isLive early ttl value = true := by
  rw [isLive_iff_of_neg_one_le (by omega)] at h
  obtain ⟨stamp, hread, hage⟩ := h
  exact (isLive_iff_of_neg_one_le hstart).mpr ⟨stamp, hread, by omega⟩

/-! ## What a booking writes -/

theorem mem_live {m : Entries} {now ttl : Millis} {e : Text × Text} :
    e ∈ (m.live now ttl).toList ↔ e ∈ m.toList ∧ isLive now ttl e.2 = true := by
  simp [live]

theorem get?_live (m : Entries) (now ttl : Millis) (k : Text) :
    (m.live now ttl).get? k = (m.get? k).filter (isLive now ttl) :=
  OrderedMap.get?_filter m _ k

/-- The entries after a booking: what is live, and the port if it was granted. -/
def afterBooking (m : Entries) (port : Port) (now ttl : Millis) : Entries :=
  if (m.book port now ttl).granted then (m.live now ttl).insert (portKey port) now.render
  else m.live now ttl

/-- A purge removes something exactly if an entry is not live. -/
theorem removed_pos_iff (m : Entries) (now ttl : Millis) :
    0 < (m.purge now ttl).removed ↔ ¬∀ e ∈ m.toList, isLive now ttl e.2 = true := by
  rw [removed_purge, List.countP_pos_iff]
  simp

/-- A booking writes nothing exactly if it refuses the port and drops nothing. -/
theorem written_eq_none_iff {m : Entries} {port : Port} {now ttl : Millis} :
    (m.book port now ttl).written = none ↔
      (m.book port now ttl).granted = false ∧ ∀ e ∈ m.toList, isLive now ttl e.2 = true := by
  unfold book
  dsimp only
  split
  · simp [removed_pos_iff]
  · simp

/-- A booking writes what it leaves. -/
theorem eq_of_written_eq_some {m w : Entries} {port : Port} {now ttl : Millis}
    (h : (m.book port now ttl).written = some w) : w = m.afterBooking port now ttl := by
  unfold afterBooking book at *
  dsimp only at *
  split at h
  · next hc =>
    rw [kept_purge] at hc
    dsimp only at h
    split at h
    · simpa [hc] using h.symm
    · cases h
  · next hc =>
    rw [kept_purge] at hc
    simpa [hc] using h.symm

/-- A booking that writes nothing leaves the entries that were there. -/
theorem afterBooking_of_written_eq_none {m : Entries} {port : Port} {now ttl : Millis}
    (h : (m.book port now ttl).written = none) : m.afterBooking port now ttl = m := by
  obtain ⟨hgranted, hlive⟩ := written_eq_none_iff.mp h
  rw [afterBooking, hgranted]
  exact OrderedMap.ext (List.filter_eq_self.mpr hlive)

/-- The entries after a booking, one by one. -/
theorem mem_afterBooking {m : Entries} {port : Port} {now ttl : Millis} {e : Text × Text} :
    e ∈ (m.afterBooking port now ttl).toList ↔
      (e ∈ m.toList ∧ isLive now ttl e.2 = true) ∨
        (m.book port now ttl).granted = true ∧ e = (portKey port, now.render) := by
  unfold afterBooking
  split
  · next hg =>
    -- The port is granted where no live entry has its key, so none is replaced.
    have hfree : ∀ d ∈ (m.live now ttl).toList, d.1 ≠ portKey port := by
      rintro ⟨k, v⟩ hd rfl
      rw [book_granted_iff, Bool.not_eq_true', OrderedMap.contains,
        OrderedMap.get?_eq_some_iff.mpr hd] at hg
      cases hg
    rw [OrderedMap.mem_toList_insert, mem_live, hg]
    constructor
    · rintro (rfl | ⟨-, he⟩)
      · exact .inr ⟨rfl, rfl⟩
      · exact .inl he
    · rintro (he | ⟨-, rfl⟩)
      · exact .inr ⟨hfree e (mem_live.mpr he), he⟩
      · exact .inl rfl
  · next hg => rw [mem_live]; simp [hg]

/-- No key has a blank that is written without a backslash before it. -/
def Plain (m : Entries) : Prop := ∀ e ∈ m.toList, ∀ c ∈ e.1, isBareBlank c = false

/-- A booking adds no key with a bare blank. -/
theorem Plain.afterBooking {m : Entries} (h : m.Plain) (port : Port) (now ttl : Millis) :
    (m.afterBooking port now ttl).Plain := by
  intro e he
  rcases mem_afterBooking.mp he with ⟨he, -⟩ | ⟨-, rfl⟩
  · exact h e he
  · exact portKey_plain port

/-- A look-up after a booking: the port has the time of the booking if it was granted, and any other
key has the value that it had if that is live. -/
theorem get?_afterBooking (m : Entries) (port : Port) (now ttl : Millis) (k : Text) :
    (m.afterBooking port now ttl).get? k =
      if (m.book port now ttl).granted = true ∧ k = portKey port then some now.render
      else (m.get? k).filter (isLive now ttl) := by
  unfold afterBooking
  by_cases hgranted : (m.book port now ttl).granted = true
  · rw [if_pos hgranted, OrderedMap.get?_insert, get?_live]
    simp only [hgranted, true_and, Std.LawfulEqCmp.compare_eq_iff_eq]
  · rw [if_neg hgranted, get?_live, if_neg fun h => hgranted h.1]

/-- What a booking leaves lasts exactly if the keys that it keeps have no bare blank. -/
theorem lasting_afterBooking {t : Text} {port : Port} {now ttl : Millis} :
    (∀ e ∈ ((parse t).afterBooking port now ttl).toList, Lasting e) ↔
      ∀ e ∈ (parse t).toList, isLive now ttl e.2 = true → ∀ c ∈ e.1, isBareBlank c = false := by
  constructor
  · intro h e he hlive
    exact (h e (mem_afterBooking.mpr (.inl ⟨he, hlive⟩))).key_plain
  · intro h e he
    rcases mem_afterBooking.mp he with ⟨he, hlive⟩ | ⟨-, rfl⟩
    · -- A live value is a time, which starts with no blank, and no key that was read is empty.
      obtain ⟨stamp, hread, -⟩ := isLive_iff.mp hlive
      exact ⟨key_ne_nil_of_mem_parse he, h e he hlive, value_head_of_read? hread⟩
    · exact lasting_reservation port now

/-- What is read after a booking is what it leaves, exactly if nothing was written or no key that is
kept has a bare blank. -/
theorem parse_written_iff {header stamp : Text} (hheader : '\n' ∉ header) (hstamp : '\n' ∉ stamp)
    {t : Text} {port : Port} {now ttl : Millis} :
    parse (((parse t).book port now ttl).written.elim t (render header stamp)) =
        (parse t).afterBooking port now ttl ↔
      ((parse t).book port now ttl).granted = false ∧
          (∀ e ∈ (parse t).toList, isLive now ttl e.2 = true) ∨
        ∀ e ∈ (parse t).toList, isLive now ttl e.2 = true → ∀ c ∈ e.1, isBareBlank c = false := by
  rw [← written_eq_none_iff, ← lasting_afterBooking]
  cases hw : ((parse t).book port now ttl).written with
  | none => simp [afterBooking_of_written_eq_none hw]
  | some w =>
    rw [eq_of_written_eq_some hw]
    simp only [Option.elim_some, reduceCtorEq, false_or]
    constructor
    · intro heq e he
      rw [← heq] at he
      exact lasting_of_mem_parse_render hheader hstamp he
    · exact parse_render hheader hstamp

end Entries

end PortReservation
