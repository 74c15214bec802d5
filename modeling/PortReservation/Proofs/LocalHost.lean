import PortReservation.Address.Local
import PortReservation.Proofs.AddressText

/-!
# Local hosts

A host may be given as an address in any of its spellings, with blanks around it, and with brackets.
No spelling of an address has a blank or a bracket in it, so what is taken off a host is exactly
what was put around it, and whether the host is local is asked of the address.

* `isLocalHost_address`: a host that is an address is local if the address is.
* `isLocal_iff`: the local addresses of a machine that owns only loopbacks.
* `isLocalHost_spelled`: both, for every spelling of every address.
-/

namespace PortReservation

namespace Text

/-- Blanks around a text that has none are what trimming takes off. -/
theorem trim_of_blanks {before t after : Text} (hbefore : ∀ c ∈ before, isBlank c = true)
    (hafter : ∀ c ∈ after, isBlank c = true) (ht : ∀ c ∈ t, isBlank c = false) (hne : t ≠ []) :
    trim (before ++ t ++ after) = t := by
  have hstart : Stops isBlank (t ++ after) := by
    obtain ⟨c, t, rfl⟩ := List.exists_cons_of_ne_nil hne
    exact stops_cons (ht c List.mem_cons_self) (t ++ after)
  have hend : Stops isBlank t.reverse := by
    intro c hc
    exact ht c (List.mem_reverse.mp (List.mem_of_mem_head? hc))
  have hreverse : ∀ c ∈ after.reverse, isBlank c = true :=
    fun c hc => hafter c (List.mem_reverse.mp hc)
  rw [trim, trimStart, List.append_assoc, dropWhile_of_stops hbefore hstart, trimEnd,
    List.reverse_append, dropWhile_of_stops hreverse hend, List.reverse_reverse]

end Text

namespace IpAddress

/-- No address has a blank or a bracket in it. -/
theorem isCharacter_cases {c : Char} (h : isCharacter c = true) :
    isBlank c = false ∧ c ≠ '[' ∧ c ≠ ']' := by
  have hcode : Hex.isDigit c = true ∨ c.toNat = 58 ∨ c.toNat = 46 := by
    simp only [isCharacter, Bool.or_eq_true, beq_iff_eq] at h
    rcases h with (h | rfl) | rfl
    · exact .inl h
    · exact .inr (.inl rfl)
    · exact .inr (.inr rfl)
  rw [Hex.isDigit_iff] at hcode
  refine ⟨?_, ?_, ?_⟩
  · simp only [isBlank, Bool.or_eq_false_iff, Bool.and_eq_false_iff, beq_eq_false_iff_ne,
      decide_eq_false_iff_not]
    omega
  · rintro rfl
    exact absurd hcode (by decide)
  · rintro rfl
    exact absurd hcode (by decide)

theorem ne_nil_of_read? {t : Text} {ip : IpAddress} (h : read? t = some ip) : t ≠ [] := by
  have hnil : read? [] = none := by decide
  rintro rfl
  rw [hnil] at h
  cases h

end IpAddress

/-- The address of version 6 that maps an address of version 4. -/
def Ipv4.mapped (q : Ipv4) : Ipv6 := ⟨[0, 0, 0, 0, 0, 0xFFFF] ++ q.groups, rfl⟩

namespace AddressBook

variable {t : Text} {ip : IpAddress}

theorem stripBrackets_address (h : IpAddress.read? t = some ip) : stripBrackets t = t := by
  cases t with
  | nil => rfl
  | cons c r =>
    have hc := (IpAddress.isCharacter_cases
      (IpAddress.isCharacter_of_read? h (c := c) List.mem_cons_self)).2.1
    unfold stripBrackets
    split
    · next hopen => exact absurd (List.cons.inj hopen).1 hc
    · rfl

theorem stripBrackets_brackets (t : Text) : stripBrackets ('[' :: t ++ [']']) = t := by
  simp [stripBrackets]

/-- A host that is an address stands for this one, whatever the machine knows about names. -/
theorem resolve_address (b : AddressBook) (h : IpAddress.read? t = some ip) :
    b.resolve t = some ip := by
  rw [resolve, h, Option.some_or]

/-- A host that is an address is local if the address is, with brackets around it or without. -/
theorem isLocalHost_address (b : AddressBook) {before after : Text}
    (hbefore : ∀ c ∈ before, isBlank c = true) (hafter : ∀ c ∈ after, isBlank c = true)
    (h : IpAddress.read? t = some ip) :
    b.isLocalHost (before ++ t ++ after) = b.isLocal ip ∧
      b.isLocalHost (before ++ ('[' :: t ++ [']']) ++ after) = b.isLocal ip := by
  have hblank : ∀ c ∈ t, isBlank c = false := fun c hc =>
    (IpAddress.isCharacter_cases (IpAddress.isCharacter_of_read? h hc)).1
  have hbrackets : ∀ c ∈ '[' :: t ++ [']'], isBlank c = false := by
    intro c hc
    simp only [List.cons_append, List.mem_cons, List.mem_append, List.not_mem_nil, or_false] at hc
    rcases hc with rfl | hc | rfl
    · decide
    · exact hblank c hc
    · decide
  have hne := IpAddress.ne_nil_of_read? h
  constructor
  · rw [isLocalHost, Text.trim_of_blanks hbefore hafter hblank hne, stripBrackets_address h,
      b.resolve_address h]
    simp [hne]
  · rw [isLocalHost, Text.trim_of_blanks hbefore hafter hbrackets (by simp),
      stripBrackets_brackets, b.resolve_address h]
    simp

/-- On a machine that owns only loopbacks, the wildcards and the loopbacks are local. -/
theorem isLocal_iff {b : AddressBook} (hb : ∀ a ∈ b.interfaces, a.isLoopback = true) :
    b.isLocal ip = true ↔ ip = .anyV4 ∨ ip = .anyV6 ∨ ip = .loopbackV6 ∨
      ∃ x y z, ip = .v4 ⟨127, x, y, z⟩ := by
  have hloopback : ip.isLoopback = true ↔ ip = .loopbackV6 ∨ ∃ x y z, ip = .v4 ⟨127, x, y, z⟩ := by
    cases ip with
    | v4 q =>
      obtain ⟨a, x, y, z⟩ := q
      simp [IpAddress.isLoopback, IpAddress.loopbackV6]
    | v6 g => simp [IpAddress.isLoopback]
  rw [← hloopback, isLocal, IpAddress.isUnspecified]
  simp only [Bool.or_eq_true, decide_eq_true_eq, List.contains_iff_mem]
  constructor
  · rintro (((h | h) | h) | h)
    · exact .inl h
    · exact .inr (.inl h)
    · exact .inr (.inr h)
    · exact .inr (.inr (hb ip h))
  · rintro (h | h | h)
    · exact .inl (.inl (.inl h))
    · exact .inl (.inl (.inr h))
    · exact .inl (.inr h)

/-- An address that maps one of version 4 is not that one. -/
theorem isLocal_mapped {b : AddressBook} (hb : ∀ a ∈ b.interfaces, a.isLoopback = true)
    (q : Ipv4) : b.isLocal (.v6 q.mapped) = false := by
  rw [Bool.eq_false_iff]
  intro h
  rcases (isLocal_iff hb).mp h with h | h | h | ⟨x, y, z, h⟩
  · cases h
  · have := congrArg Ipv6.groups (IpAddress.v6.inj h)
    simp [Ipv4.mapped] at this
  · have := congrArg Ipv6.groups (IpAddress.v6.inj h)
    simp [Ipv4.mapped] at this
  · cases h

/-- Whether a host is local does not depend on how its address is spelt, nor on blanks around it,
nor on brackets around the address; and every address has a spelling, its canonical form. On a
machine that owns only loopbacks, exactly the wildcards and the loopbacks are local, and an address
that maps one of version 4 is none of them. -/
theorem isLocalHost_spelled (b : AddressBook) :
    (∀ (t : Text) (ip : IpAddress), IpAddress.read? t = some ip →
        ∀ before after : Text, (∀ c ∈ before, isBlank c = true) → (∀ c ∈ after, isBlank c = true) →
          b.isLocalHost (before ++ t ++ after) = b.isLocal ip ∧
            b.isLocalHost (before ++ ('[' :: t ++ [']']) ++ after) = b.isLocal ip) ∧
      (∀ ip : IpAddress, IpAddress.read? ip.render = some ip) ∧
      ((∀ a ∈ b.interfaces, a.isLoopback = true) →
        (∀ ip : IpAddress, b.isLocal ip = true ↔ ip = .anyV4 ∨ ip = .anyV6 ∨ ip = .loopbackV6 ∨
          ∃ x y z, ip = .v4 ⟨127, x, y, z⟩) ∧
        ∀ q : Ipv4, b.isLocal (.v6 q.mapped) = false) := by
  refine ⟨fun t ip h before after hbefore hafter => ?_, IpAddress.read?_render, fun hb => ?_⟩
  · exact b.isLocalHost_address hbefore hafter h
  · exact ⟨fun ip => isLocal_iff hb, isLocal_mapped hb⟩

/-- A spelling of the loopback of version 6 that is not the canonical one is local, between blanks
and in brackets; a spelling of the address that maps the loopback of version 4 is not. -/
theorem isLocalHost_spelled_loopbacks :
    IpAddress.read? "0:00::000:0.0.0.1".toList = some .loopbackV6 ∧
      loopbackOnly.isLocalHost
        ("\u2003 ".toList ++ '[' :: "0:00::000:0.0.0.1".toList ++ "]\t".toList) = true ∧
      IpAddress.read? "0::FFFF:7f00:1".toList = some (.v6 (Ipv4.mapped ⟨127, 0, 0, 1⟩)) ∧
      loopbackOnly.isLocalHost
        ("\u2003 ".toList ++ "0::FFFF:7f00:1".toList ++ "\t".toList) = false := by
  obtain ⟨hspelled, -, hlocal⟩ := isLocalHost_spelled loopbackOnly
  obtain ⟨hlocal, hmapped⟩ := hlocal (by decide)
  have hloopback : IpAddress.read? "0:00::000:0.0.0.1".toList = some .loopbackV6 := by decide
  have hmap :
      IpAddress.read? "0::FFFF:7f00:1".toList = some (.v6 (Ipv4.mapped ⟨127, 0, 0, 1⟩)) := by decide
  have hbefore : ∀ c ∈ "\u2003 ".toList, isBlank c = true := List.all_eq_true.mp (by decide)
  have hafter : ∀ c ∈ "\t".toList, isBlank c = true := List.all_eq_true.mp (by decide)
  refine ⟨hloopback, ?_, hmap, ?_⟩
  · have hhost := (hspelled _ _ hloopback _ _ hbefore hafter).2
    rw [(hlocal .loopbackV6).mpr (.inr (.inr (.inl rfl)))] at hhost
    simpa using hhost
  · rw [(hspelled _ _ hmap _ _ hbefore hafter).1]
    exact hmapped ⟨127, 0, 0, 1⟩

end AddressBook

end PortReservation
