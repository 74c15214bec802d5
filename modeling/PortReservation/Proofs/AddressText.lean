import PortReservation.Address.Reader
import PortReservation.Address.Writer
import PortReservation.Proofs.Digits

/-!
# Addresses as text

An address reads back from its canonical form. The reader of version 6 tries an address of version 4
before each group, and takes groups as long as there are some; that it stops where it should rests
on what may follow a group: nothing, or a colon.

* `readGroups_renderGroups`: groups read back, up to the end or to two colons.
* `longestZeros_spec`: where the zeros are that are left out, there are zeros.
* `read?_render`: every address reads back from its canonical form.
* `isCharacter_of_read?`: a text that is an address has no other characters than addresses have.
-/

namespace PortReservation

/-! ## Version 4 -/

namespace IpAddress

theorem readOctet_ofNat (a : UInt8) {rest : Text} (hrest : Text.Stops Char.isDigit rest) :
    readOctet (Decimal.ofNat a.toNat ++ rest) = some (a, rest) := by
  have hdigits : ∀ c ∈ Decimal.ofNat a.toNat, c.isDigit = true :=
    fun c hc => Decimal.isDigit_of_mem_ofNat hc
  have hlow : 0 < (Decimal.ofNat a.toNat).length := Nat.length_toDigits_pos
  have hhigh : (Decimal.ofNat a.toNat).length ≤ 3 :=
    (Nat.length_toDigits_le_iff (by decide) (by decide)).mpr (by have := a.toNat_lt; omega)
  have hvalue : Nat.ofDigitChars 10 (Decimal.ofNat a.toNat) 0 = a.toNat :=
    Nat.ofDigitChars_ten_toDigits
  have hlt := a.toNat_lt
  unfold readOctet
  simp only [Text.takeWhile_of_stops hdigits hrest, Text.dropWhile_of_stops hdigits hrest, hvalue]
  rw [if_pos, UInt8.ofNat_toNat]
  simp only [Bool.and_eq_true, Bool.or_eq_true, beq_iff_eq, bne_iff_ne, decide_eq_true_eq]
  refine ⟨?_, hlt⟩
  -- A number of several digits does not start with a zero.
  by_cases hlen : (Decimal.ofNat a.toNat).length = 1
  · exact .inl hlen
  · exact .inr ⟨by omega, Decimal.head?_ne_zero (by omega)⟩

theorem readIpv4_render (q : Ipv4) {rest : Text} (hrest : Text.Stops Char.isDigit rest) :
    readIpv4 (q.render ++ rest) = some (q, rest) := by
  have hdot : ∀ t, Text.Stops Char.isDigit ('.' :: t) := Text.stops_cons (by decide)
  simp only [Ipv4.render, List.append_assoc, List.cons_append, readIpv4,
    readOctet_ofNat _ (hdot _), readOctet_ofNat _ hrest, Text.after?, Option.bind_eq_bind,
    Option.bind_some, if_pos]
  rfl

/-- Digits without a dot behind them are no address of version 4. -/
theorem readIpv4_eq_none {t : Text} (h : (t.dropWhile Char.isDigit).head? ≠ some '.') :
    readIpv4 t = none := by
  have hdot : Text.after? ['.'] (t.dropWhile Char.isDigit) = none := by
    cases hd : t.dropWhile Char.isDigit with
    | nil => rfl
    | cons c r =>
      have hc : '.' ≠ c := by rintro rfl; simp [hd] at h
      simp [Text.after?, hc]
  rw [readIpv4, readOctet]
  split <;> simp [hdot]

end IpAddress

/-! ## Groups -/

namespace IpAddress

/-- What may follow a group: nothing, or a colon. -/
inductive FollowsGroup : Text → Prop where
  | nothing : FollowsGroup []
  | colon (t : Text) : FollowsGroup (':' :: t)

/-- What may follow some groups that are read: nothing, or the two colons. -/
inductive FollowsGroups : Text → Prop where
  | nothing : FollowsGroups []
  | colons (t : Text) : FollowsGroups (':' :: ':' :: t)

theorem FollowsGroups.group {t : Text} (h : FollowsGroups t) : FollowsGroup t := by
  cases h with
  | nothing => exact .nothing
  | colons t => exact .colon _

theorem FollowsGroup.stops {t : Text} (h : FollowsGroup t) : Text.Stops Hex.isDigit t := by
  cases h with
  | nothing => exact Text.stops_nil _
  | colon t => exact Text.stops_cons (by decide) t

/-- A group is no octet with a dot behind it. -/
theorem readIpv4_of_follows {s rest : Text} (hs : ∀ c ∈ s, Hex.isDigit c = true)
    (hrest : FollowsGroup rest) : readIpv4 (s ++ rest) = none := by
  apply readIpv4_eq_none
  induction s with
  | nil => cases hrest <;> simp
  | cons c s ih =>
    obtain ⟨hc, hs⟩ := List.forall_mem_cons.mp hs
    cases hd : c.isDigit with
    | true => simpa [hd] using ih hs
    | false =>
      have hdot : c ≠ '.' := by rintro rfl; exact absurd hc (by decide)
      simpa [hd] using hdot

theorem readGroup_ofNat (g : UInt16) {rest : Text} (hrest : Text.Stops Hex.isDigit rest) :
    readGroup (Hex.ofNat g.toNat ++ rest) = some (g, rest) := by
  have hdigits : ∀ c ∈ Hex.ofNat g.toNat, Hex.isDigit c = true :=
    fun c hc => Hex.isDigit_of_mem_ofNat hc
  have hlow : 0 < (Hex.ofNat g.toNat).length := Nat.length_toDigits_pos
  have hhigh : (Hex.ofNat g.toNat).length ≤ 4 :=
    (Nat.length_toDigits_le_iff (by decide) (by decide)).mpr (by have := g.toNat_lt; omega)
  unfold readGroup
  simp only [Text.takeWhile_of_stops hdigits hrest, Text.dropWhile_of_stops hdigits hrest,
    Hex.ofDigits_ofNat, UInt16.ofNat_toNat]
  rw [if_pos (by simp; omega)]

theorem readGroup_of_stops {t : Text} (h : Text.Stops Hex.isDigit t) : readGroup t = none := by
  have hnone : t.takeWhile Hex.isDigit = [] := by
    simpa using Text.takeWhile_of_stops (s := []) (by simp) h
  simp [readGroup, hnone]

/-- The groups behind a first one, each with a colon before it. -/
def laterGroups (gs : List UInt16) : Text := gs.flatMap fun g => ':' :: Hex.ofNat g.toNat

theorem renderGroups_cons (g : UInt16) (gs : List UInt16) :
    Ipv6.renderGroups (g :: gs) = Hex.ofNat g.toNat ++ laterGroups gs := by
  induction gs generalizing g with
  | nil => simp [Ipv6.renderGroups, laterGroups]
  | cons h gs ih =>
    rw [Ipv6.renderGroups, ih h]
    · simp [laterGroups]
    · simp

theorem follows_laterGroups (gs : List UInt16) {rest : Text} (hrest : FollowsGroups rest) :
    FollowsGroup (laterGroups gs ++ rest) := by
  cases gs with
  | nil => exact hrest.group
  | cons g gs => exact .colon _

/-- No group is read from what follows some groups. -/
theorem readGroups_of_follows (limit : Nat) (first : Bool) {rest : Text}
    (hrest : FollowsGroups rest) : readGroups limit first rest = ⟨[], false, rest⟩ := by
  have hnothing : readIpv4 [] = none ∧ readGroup [] = none := ⟨rfl, rfl⟩
  have hcolon : ∀ t, readIpv4 (':' :: t) = none ∧ readGroup (':' :: t) = none := fun t =>
    ⟨readIpv4_of_follows (s := []) (by simp) (.colon t),
      readGroup_of_stops (FollowsGroup.colon t).stops⟩
  cases limit with
  | zero => rfl
  | succ limit =>
    cases hrest with
    | nothing => cases first <;> simp [readGroups, Text.after?, hnothing]
    | colons t => cases first <;> simp [readGroups, Text.after?, hcolon]

/-- A group is read, and then the groups behind it. -/
theorem readGroups_group (limit : Nat) (g : UInt16) {rest : Text} (hrest : FollowsGroup rest) :
    readGroups (limit + 1) true (Hex.ofNat g.toNat ++ rest) =
        ⟨g :: (readGroups limit false rest).groups, (readGroups limit false rest).endsInIpv4,
          (readGroups limit false rest).rest⟩ ∧
      readGroups (limit + 1) false (':' :: Hex.ofNat g.toNat ++ rest) =
        readGroups (limit + 1) true (Hex.ofNat g.toNat ++ rest) := by
  have hipv4 := readIpv4_of_follows (s := Hex.ofNat g.toNat)
    (fun c hc => Hex.isDigit_of_mem_ofNat hc) hrest
  constructor <;> simp [readGroups, Text.after?, hipv4, readGroup_ofNat g hrest.stops]

theorem readGroups_laterGroups {gs : List UInt16} {limit : Nat} (hlimit : gs.length ≤ limit)
    {rest : Text} (hrest : FollowsGroups rest) :
    readGroups limit false (laterGroups gs ++ rest) = ⟨gs, false, rest⟩ := by
  induction gs generalizing limit with
  | nil => exact readGroups_of_follows limit false hrest
  | cons g gs ih =>
    cases limit with
    | zero => simp at hlimit
    | succ limit =>
      obtain ⟨hfirst, hlater⟩ := readGroups_group limit g (follows_laterGroups gs hrest)
      have hcons : laterGroups (g :: gs) ++ rest =
          ':' :: Hex.ofNat g.toNat ++ (laterGroups gs ++ rest) := by simp [laterGroups]
      rw [hcons, hlater, hfirst, ih (Nat.le_of_succ_le_succ hlimit)]

/-- Groups read back, up to the end or to two colons. -/
theorem readGroups_renderGroups {gs : List UInt16} {limit : Nat} (hlimit : gs.length ≤ limit)
    {rest : Text} (hrest : FollowsGroups rest) :
    readGroups limit true (Ipv6.renderGroups gs ++ rest) = ⟨gs, false, rest⟩ := by
  cases gs with
  | nil => exact readGroups_of_follows limit true hrest
  | cons g gs =>
    cases limit with
    | zero => simp at hlimit
    | succ limit =>
      rw [renderGroups_cons, List.append_assoc,
        (readGroups_group limit g (follows_laterGroups gs hrest)).1,
        readGroups_laterGroups (Nat.le_of_succ_le_succ hlimit) hrest]

/-- Groups are no address of version 4. -/
theorem readIpv4_renderGroups (gs : List UInt16) {rest : Text} (hrest : FollowsGroups rest) :
    readIpv4 (Ipv6.renderGroups gs ++ rest) = none := by
  cases gs with
  | nil => exact readIpv4_of_follows (s := []) (by simp) hrest.group
  | cons g gs =>
    rw [renderGroups_cons, List.append_assoc]
    exact readIpv4_of_follows (fun c hc => Hex.isDigit_of_mem_ofNat hc)
      (follows_laterGroups gs hrest)

end IpAddress

/-! ## Version 6 -/

namespace Ipv6

/-- Where the longest run of zeros is found, there are so many zeros. -/
theorem longestZeros_spec (i : Nat) (gs : List UInt16) :
    ∃ before behind, gs = before ++ List.replicate (longestZeros i gs).2 0 ++ behind ∧
      (longestZeros i gs).1 = i + before.length := by
  induction gs generalizing i with
  | nil => exact ⟨[], [], rfl, rfl⟩
  | cons g gs ih =>
    rw [longestZeros]
    split
    · refine ⟨[], (g :: gs).dropWhile (· == 0), ?_, rfl⟩
      have hzeros : (g :: gs).takeWhile (· == 0) = List.replicate (leadingZeros (g :: gs)) 0 := by
        refine List.eq_replicate_iff.mpr ⟨rfl, fun x hx => ?_⟩
        simpa using List.all_eq_true.mp List.all_takeWhile x hx
      rw [List.nil_append, ← hzeros, List.takeWhile_append_dropWhile]
    · obtain ⟨before, behind, hgs, hstart⟩ := ih (i + 1)
      refine ⟨g :: before, behind, ?_, ?_⟩
      · rw [List.cons_append, List.cons_append, ← hgs]
      · rw [hstart, List.length_cons]
        omega

/-- The canonical forms of an address of version 6: its groups, its groups with some zeros left out,
or an address of version 4 behind five groups of zeros and one of ones. -/
inductive Canonical (g : Ipv6) : Text → Prop where
  | plain : Canonical g (renderGroups g.groups)
  | short {before behind : List UInt16} {n : Nat} (hn : 1 < n)
      (hgs : g.groups = before ++ List.replicate n 0 ++ behind) :
      Canonical g (renderGroups before ++ ':' :: ':' :: renderGroups behind)
  | mapped {high low : UInt16} (hgs : g.groups = [0, 0, 0, 0, 0, 0xFFFF, high, low]) :
      Canonical g ("::ffff:".toList ++ (Ipv4.ofGroups high low).render)

theorem canonical_render (g : Ipv6) : Canonical g g.render := by
  unfold render
  split
  · next high low hgs => exact .mapped hgs
  · obtain ⟨before, behind, hgs, hstart⟩ := longestZeros_spec 0 g.groups
    rw [Nat.zero_add] at hstart
    simp only [hstart]
    generalize (longestZeros 0 g.groups).2 = n at hgs
    split
    · next hn =>
      -- What is left out is the run that was found, so the groups around it are the rest.
      have htake : g.groups.take before.length = before := by simp [hgs]
      have hdrop : g.groups.drop (before.length + n) = behind := by
        rw [hgs, List.drop_left' (by simp)]
      rw [htake, hdrop]
      exact .short hn hgs
    · exact .plain

end Ipv6

theorem groupOfOctets_octets (g : UInt16) : groupOfOctets (g >>> 8).toUInt8 g.toUInt8 = g := by
  have hlt := g.toNat_lt
  apply UInt16.toNat_inj.mp
  simp [groupOfOctets, Nat.shiftRight_eq_div_pow]
  omega

theorem Ipv4.groups_ofGroups (high low : UInt16) : (ofGroups high low).groups = [high, low] := by
  simp [groups, ofGroups, groupOfOctets_octets]

namespace IpAddress

theorem ofGroups?_groups (g : Ipv6) : Ipv6.ofGroups? g.groups = some g := dif_pos g.length_eq

/-- Where groups are left out, the address is the groups on both sides with zeros between. -/
theorem readIpv6_short {before : List UInt16} {t : Text} {tail : Groups} {g : Ipv6}
    (hbefore : before.length < 8) (htail : readGroups (7 - before.length) true t = tail)
    (hg : g.groups =
      before ++ List.replicate (8 - before.length - tail.groups.length) 0 ++ tail.groups) :
    readIpv6 (Ipv6.renderGroups before ++ ':' :: ':' :: t) = some (g, tail.rest) := by
  have hhead := readGroups_renderGroups (Nat.le_of_lt hbefore) (.colons t)
  have hfew : Ipv6.ofGroups? before = none := dif_neg (by omega)
  have hall : Ipv6.ofGroups?
      (before ++ (List.replicate (8 - before.length - tail.groups.length) 0 ++ tail.groups)) =
        some g := by
    rw [← List.append_assoc, ← hg]
    exact ofGroups?_groups g
  simp [readIpv6, hhead, hfew, Text.after?, htail, hall]

theorem readIpv6_canonical {g : Ipv6} {t : Text} (h : g.Canonical t) :
    readIpv6 t = some (g, []) := by
  have hlength := g.length_eq
  cases h with
  | plain =>
    have hhead := readGroups_renderGroups (Nat.le_of_eq hlength) .nothing
    rw [List.append_nil] at hhead
    simp [readIpv6, hhead, ofGroups?_groups]
  | @short before behind n hn hgs =>
    have hsum : before.length + n + behind.length = 8 := by
      rw [← hlength, hgs]
      simp [Nat.add_assoc]
    have hbehind : behind.length ≤ 7 - before.length := by omega
    have htail := readGroups_renderGroups hbehind .nothing
    rw [List.append_nil] at htail
    have hzeros : 8 - before.length - behind.length = n := by omega
    exact readIpv6_short (by omega) htail (by rw [hzeros]; exact hgs)
  | @mapped high low hgs =>
    have hgroup : Hex.ofNat (0xFFFF : UInt16).toNat = "ffff".toList := by decide
    have hipv4 := readIpv4_render (Ipv4.ofGroups high low) (Text.stops_nil _)
    rw [List.append_nil] at hipv4
    have htail := (readGroups_group 6 0xFFFF (.colon (Ipv4.ofGroups high low).render)).1
    have hlast : readGroups 6 false (':' :: (Ipv4.ofGroups high low).render) =
        ⟨[high, low], true, []⟩ := by
      simp [readGroups, Text.after?, hipv4, Ipv4.groups_ofGroups]
    rw [hlast, hgroup] at htail
    have hshort := readIpv6_short (show ([] : List UInt16).length < 8 by decide) htail hgs
    exact hshort

/-- The canonical form of an address of version 6 is no address of version 4. -/
theorem readIpv4_canonical {g : Ipv6} {t : Text} (h : g.Canonical t) : readIpv4 t = none := by
  cases h with
  | plain => simpa using readIpv4_renderGroups g.groups .nothing
  | @short before behind n hn hgs => exact readIpv4_renderGroups before (.colons _)
  | mapped hgs => exact readIpv4_renderGroups [] (.colons _)

/-- Every address reads back from its canonical form. -/
theorem read?_render (ip : IpAddress) : read? ip.render = some ip := by
  cases ip with
  | v4 q =>
    have hread := readIpv4_render q (Text.stops_nil _)
    rw [List.append_nil] at hread
    simp [read?, render, hread]
  | v6 g =>
    have hcanonical := g.canonical_render
    simp [read?, render, readIpv4_canonical hcanonical, readIpv6_canonical hcanonical]

/-! ## The characters of addresses -/

/-- The characters that addresses are written with. -/
def isCharacter (c : Char) : Bool := Hex.isDigit c || c == ':' || c == '.'

/-- A text goes on with another one behind characters of addresses only. -/
def LeadsTo (t rest : Text) : Prop := ∃ s, t = s ++ rest ∧ ∀ c ∈ s, isCharacter c = true

namespace LeadsTo

variable {t u v : Text}

theorem refl (t : Text) : LeadsTo t t := ⟨[], rfl, by simp⟩

theorem trans (h : LeadsTo t u) (h' : LeadsTo u v) : LeadsTo t v := by
  obtain ⟨s, rfl, hs⟩ := h
  obtain ⟨s', rfl, hs'⟩ := h'
  refine ⟨s ++ s', (List.append_assoc ..).symm, fun c hc => ?_⟩
  rcases List.mem_append.mp hc with hc | hc
  · exact hs c hc
  · exact hs' c hc

theorem dropWhile {p : Char → Bool} (hp : ∀ c, p c = true → Hex.isDigit c = true) (t : Text) :
    LeadsTo t (t.dropWhile p) := by
  refine ⟨t.takeWhile p, List.takeWhile_append_dropWhile.symm, fun c hc => ?_⟩
  have hdigit := hp c (List.all_eq_true.mp List.all_takeWhile c hc)
  simp [isCharacter, hdigit]

theorem after {c : Char} (hc : isCharacter c = true) (h : Text.after? [c] t = some u) :
    LeadsTo t u :=
  ⟨[c], Text.after?_eq_some_iff.mp h, by simpa using hc⟩

end LeadsTo

theorem leadsTo_readOctet {t r : Text} {a : UInt8} (h : readOctet t = some (a, r)) :
    LeadsTo t r := by
  simp only [readOctet] at h
  split at h
  · cases h
    exact .dropWhile (fun c => Hex.isDigit_of_isDigit) t
  · cases h

theorem leadsTo_readIpv4 {t r : Text} {q : Ipv4} (h : readIpv4 t = some (q, r)) :
    LeadsTo t r := by
  have hdot : isCharacter '.' = true := by decide
  simp only [readIpv4, Option.bind_eq_bind, Option.bind_eq_some_iff, Prod.exists] at h
  obtain ⟨a, t₁, ha, t₂, h₁, b, t₃, hb, t₄, h₂, c, t₅, hc, t₆, h₃, d, t₇, hd, hlast⟩ := h
  cases hlast
  exact (leadsTo_readOctet ha).trans <| (LeadsTo.after hdot h₁).trans <|
    (leadsTo_readOctet hb).trans <| (LeadsTo.after hdot h₂).trans <|
    (leadsTo_readOctet hc).trans <| (LeadsTo.after hdot h₃).trans (leadsTo_readOctet hd)

theorem leadsTo_readGroup {t r : Text} {g : UInt16} (h : readGroup t = some (g, r)) :
    LeadsTo t r := by
  simp only [readGroup] at h
  split at h
  · cases h
    exact .dropWhile (fun c hc => hc) t
  · cases h

theorem leadsTo_readGroups (limit : Nat) (first : Bool) (t : Text) :
    LeadsTo t (readGroups limit first t).rest := by
  have hcolon : isCharacter ':' = true := by decide
  induction limit generalizing first t with
  | zero => exact .refl t
  | succ limit ih =>
    rw [readGroups]
    split
    · exact .refl t
    · next s hs =>
      have hstart : LeadsTo t s := by
        split at hs
        · cases hs; exact .refl t
        · exact .after hcolon hs
      split
      · next q r hq =>
        split at hq
        · cases hq
        · exact hstart.trans (leadsTo_readIpv4 hq)
      · split
        · exact .refl t
        · next g r hg => exact hstart.trans ((leadsTo_readGroup hg).trans (ih false r))

theorem leadsTo_readIpv6 {t r : Text} {g : Ipv6} (h : readIpv6 t = some (g, r)) :
    LeadsTo t r := by
  have hcolon : isCharacter ':' = true := by decide
  have hhead := leadsTo_readGroups 8 true t
  simp only [readIpv6] at h
  split at h
  · cases h
    exact hhead
  split at h
  · cases h
  simp only [Option.bind_eq_bind, Option.bind_eq_some_iff] at h
  obtain ⟨t₁, h₁, t₂, h₂, g', -, hlast⟩ := h
  cases hlast
  exact hhead.trans <| (LeadsTo.after hcolon h₁).trans <| (LeadsTo.after hcolon h₂).trans
    (leadsTo_readGroups _ true t₂)

/-- A text that is an address has no other characters than addresses have. -/
theorem isCharacter_of_read? {t : Text} {ip : IpAddress} (h : read? t = some ip) {c : Char}
    (hc : c ∈ t) : isCharacter c = true := by
  have hall : LeadsTo t [] := by
    rw [read?] at h
    split at h
    · next q rest hq =>
      split at h
      · next hrest => exact List.isEmpty_iff.mp hrest ▸ leadsTo_readIpv4 hq
      · cases h
    split at h
    · next g rest hg =>
      split at h
      · next hrest => exact List.isEmpty_iff.mp hrest ▸ leadsTo_readIpv6 hg
      · cases h
    · cases h
  obtain ⟨s, rfl, hs⟩ := hall
  exact hs c (by simpa using hc)

end IpAddress

end PortReservation
