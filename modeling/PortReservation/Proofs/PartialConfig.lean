import PortReservation.Proofs.JsonWriting
import PortReservation.Proofs.Settings

/-!
# Partial objects

An object need not name all fields, nor only fields. The ones that it names, each once and with a
value of its type, replace the defaults, in whatever order they stand and whatever stands between
them. A field that is named twice, or with a value that is not of its type, spoils the whole object.

* `Field.Takes`, `takes_iff`: the values of the type of a field are the ones that it is given.
* `read?_eq_some_applyAll`, `read?_eq_none_iff`: what is read is decided by what the object lists.
* `read?_partial`: all of it.
-/

namespace PortReservation

namespace Config

/-- The integers that a field can hold: from the first one on, and below the second one. -/
def Field.range? : Field → Option (Int × Int)
  | .window => some (-9223372036854775808, 9223372036854775808)
  | .ttl => some (-9223372036854775808, 9223372036854775808)
  | .attempts => some (0, UInt32.size)
  | .interval => some (0, UInt64.size)
  | _ => none

/-- The values that have the type of a field. -/
inductive Field.Takes : Field → Json.Value → Prop where
  | text {f : Field} {s : List Json.Piece} {t : Text} (hf : f = .variableName ∨ f = .ledger)
      (h : Json.decode s = some t) : Takes f (.string s)
  | missing : Takes .ledger .null
  | integer {f : Field} {n : Json.Number} {low high i : Int} (hf : f.range? = some (low, high))
      (h : n.toInt? = some i) (hlow : low ≤ i) (hhigh : i < high) : Takes f (.number n)
  | address {s : List Json.Piece} {t : Text} {ip : IpAddress} (h : Json.decode s = some t)
      (hip : IpAddress.read? t = some ip) : Takes .bindAddress (.string s)

/-- The integers in range are the ones of the settings of a field. -/
theorem Setting.exists_given_of_range {f : Field} {n : Json.Number} {low high i : Int}
    (hf : f.range? = some (low, high)) (h : n.toInt? = some i) (hlow : low ≤ i) (hhigh : i < high) :
    ∃ s : Setting, s.field = f ∧ s.Given (.number n) := by
  cases f with
  | variableName => cases hf
  | ledger => cases hf
  | bindAddress => cases hf
  | window =>
    cases hf
    refine ⟨.window (Int64.ofInt i), rfl, .window ?_⟩
    rw [h, Int64.toInt_ofInt_of_le hlow hhigh]
  | ttl =>
    cases hf
    refine ⟨.ttl (Int64.ofInt i), rfl, .ttl ?_⟩
    rw [h, Int64.toInt_ofInt_of_le hlow hhigh]
  | attempts =>
    cases hf
    obtain ⟨k, rfl⟩ := Int.eq_ofNat_of_zero_le hlow
    have hk : k < UInt32.size := by exact_mod_cast hhigh
    refine ⟨.attempts (UInt32.ofNat k), rfl, .attempts ?_⟩
    rw [h, UInt32.toNat_ofNat_of_lt' hk]
  | interval =>
    cases hf
    obtain ⟨k, rfl⟩ := Int.eq_ofNat_of_zero_le hlow
    have hk : k < UInt64.size := by exact_mod_cast hhigh
    refine ⟨.interval (UInt64.ofNat k), rfl, .interval ?_⟩
    rw [h, UInt64.toNat_ofNat_of_lt' hk]

/-- A field takes the values that its settings may be given as, and no others. -/
theorem takes_iff {f : Field} {v : Json.Value} :
    f.Takes v ↔ ∃ s : Setting, s.field = f ∧ s.Given v := by
  constructor
  · intro h
    cases h with
    | text hf h =>
      rcases hf with rfl | rfl
      · exact ⟨_, rfl, .variableName h⟩
      · exact ⟨_, rfl, .ledger h⟩
    | missing => exact ⟨_, rfl, .noLedger⟩
    | integer hf h hlow hhigh => exact Setting.exists_given_of_range hf h hlow hhigh
    | address h hip => exact ⟨_, rfl, .bindAddress h hip⟩
  · rintro ⟨s, rfl, hgiven⟩
    cases hgiven with
    | variableName h => exact .text (.inl rfl) h
    | noLedger => exact .missing
    | ledger h => exact .text (.inr rfl) h
    | @window n span h => exact .integer rfl h span.le_toInt span.toInt_lt
    | @ttl n span h => exact .integer rfl h span.le_toInt span.toInt_lt
    | @attempts n number h =>
      exact .integer rfl h (Int.natCast_nonneg _) (by exact_mod_cast number.toNat_lt)
    | @interval n ms h =>
      exact .integer rfl h (Int.natCast_nonneg _) (by exact_mod_cast ms.toNat_lt)
    | bindAddress h hip => exact .address h hip

/-- Null is for the ledger only. -/
theorem takes_null_iff {f : Field} : f.Takes .null ↔ f = .ledger := by
  constructor
  · intro h
    cases h
    rfl
  · rintro rfl
    exact .missing

/-- A number is taken if it is an integer in range. -/
theorem takes_number_iff {f : Field} {n : Json.Number} :
    f.Takes (.number n) ↔ ∃ low high i, f.range? = some (low, high) ∧ n.toInt? = some i ∧
      low ≤ i ∧ i < high := by
  constructor
  · intro h
    cases h with
    | integer hf h hlow hhigh => exact ⟨_, _, _, hf, h, hlow, hhigh⟩
  · rintro ⟨low, high, i, hf, h, hlow, hhigh⟩
    exact .integer hf h hlow hhigh

/-! ## Whole objects -/

section Object

variable {ms : List Member} {t : Text}

/-- Settings of distinct fields are read, whatever else the object holds. -/
theorem read?_eq_some_applyAll (ht : Json.WrittenText ms t) {settings : List Setting}
    (hlists : Lists ms settings) (hdistinct : (settings.map (·.field)).Nodup) :
    read? t = some (({} : Config).applyAll settings) :=
  (read?_eq_some_iff ht).mpr ⟨settings, hlists, hdistinct, replaces_applyAll hdistinct⟩

/-- Nothing is read from an object that does not list settings of distinct fields. -/
theorem read?_eq_none_iff (ht : Json.WrittenText ms t) :
    read? t = none ↔ ∀ settings, Lists ms settings → ¬ (settings.map (·.field)).Nodup := by
  constructor
  · intro hnone settings hlists hdistinct
    rw [read?_eq_some_applyAll ht hlists hdistinct] at hnone
    cases hnone
  · intro hno
    rw [Option.eq_none_iff_forall_ne_some]
    intro c hc
    obtain ⟨settings, hlists, hdistinct, -⟩ := (read?_eq_some_iff ht).mp hc
    exact hno settings hlists hdistinct

/-- Two members that are named for one field give two settings of it. -/
theorem Lists.not_nodup_of_twice {before between after : List Member} {m m' : Member} {f : Field}
    {settings : List Setting} (h : Lists (before ++ m :: (between ++ m' :: after)) settings)
    (hm : Names m f) (hm' : Names m' f) : ¬ (settings.map (·.field)).Nodup := by
  intro hdistinct
  simp only [h.fields, List.filterMap_append, List.filterMap_cons, names_iff.mp hm,
    names_iff.mp hm'] at hdistinct
  have htail := (List.nodup_append.mp hdistinct).2.1
  exact (List.nodup_cons.mp htail).1 (List.mem_append_right _ List.mem_cons_self)

/-- An object that lists settings of distinct fields is read as the default configuration with
exactly these values in it, and so is every other one that lists the same settings in some order. An
object that names a field twice, or with a value that the field does not take, is not read. -/
theorem read?_partial (ht : Json.WrittenText ms t) :
    (∀ settings, Lists ms settings → (settings.map (·.field)).Nodup →
      ∃ c : Config, c.Replaces settings ∧ read? t = some c ∧
        ∀ ms' t' settings', Json.WrittenText ms' t' → Lists ms' settings' →
          settings'.Perm settings → read? t' = some c) ∧
    (∀ before m between m' after f, ms = before ++ m :: (between ++ m' :: after) →
      Names m f → Names m' f → read? t = none) ∧
    ∀ m ∈ ms, ∀ f : Field, Names m f → ¬ f.Takes m.2 → read? t = none := by
  refine ⟨fun settings hlists hdistinct => ?_, ?_, fun m hm f hf hno => ?_⟩
  · refine ⟨_, replaces_applyAll hdistinct, read?_eq_some_applyAll ht hlists hdistinct, ?_⟩
    intro ms' t' settings' ht' hlists' hperm
    have hdistinct' : (settings'.map (·.field)).Nodup := (hperm.map _).nodup_iff.mpr hdistinct
    have hsame := ((replaces_applyAll hdistinct').perm hperm).unique (replaces_applyAll hdistinct)
    rw [read?_eq_some_applyAll ht' hlists' hdistinct', hsame]
  · rintro before m between m' after f rfl hm hm'
    exact (read?_eq_none_iff ht).mpr fun _ hlists => hlists.not_nodup_of_twice hm hm'
  · refine (read?_eq_none_iff ht).mpr fun _ hlists => ?_
    exact absurd (takes_iff.mpr (hlists.exists_given hm hf)) hno

/-- Seven attempts, whatever else stands in the object; none at all, if they are given twice, out of
range or as null. -/
theorem read?_partial_sevenAttempts :
    (∃ c : Config, c.Replaces [.attempts 7] ∧
      read? "\x7b \"lockRetryAttempts\" : 7,\"seven\":[[]]\x7d\n".toList = some c ∧
        read? "\x7b\"lockRetryAttempts\":7\x7d".toList = some c) ∧
    read? "\x7b\"lockRetryAttempts\":7,\"seven\":[[]],\"lockRetryAttempts\":7\x7d".toList = none ∧
    read? "\x7b\"lockRetryAttempts\":-7\x7d".toList = none ∧
    read? "\x7b\"lockRetryAttempts\":null\x7d".toList = none := by
  have hnone : Json.Spaces [] := by decide
  have hspace : Json.Spaces [' '] := by decide
  have hline : Json.Spaces ['\n'] := by decide
  have hseven := Json.writtenNumber_ofInt 7
  have hfewer := Json.writtenNumber_ofInt (-7)
  have hkey := Json.writtenPieces_escape "lockRetryAttempts".toList
  have hspaced := Json.WrittenMember.mk hspace hkey hspace hspace (.number hseven) hnone
  have hcompact := Json.writtenMember_compact "lockRetryAttempts".toList (.number hseven)
  have hnegative := Json.writtenMember_compact "lockRetryAttempts".toList (.number hfewer)
  have hnull := Json.writtenMember_compact "lockRetryAttempts".toList .null
  have hnested := Json.writtenMember_compact "seven".toList
    (.array (.elements (.last hnone (.array (.empty hnone)) hnone)))
  have hlisted {ms : List Member} {settings : List Setting} (h : Lists ms settings) :
      Lists ((Field.attempts.name.map Json.pieceOf, .number (Json.numberOf 7)) :: ms)
        (.attempts 7 :: settings) :=
    .known (s := .attempts 7) (Json.decode_pieces _) (.attempts (Json.toInt?_numberOf 7)) h
  have hunlisted : Lists [("seven".toList.map Json.pieceOf, .container)] [] :=
    .unknown (Json.decode_pieces _) (by intro f; cases f <;> decide) .nil
  have htext := Json.WrittenText.mk hnone (.members (.more hspaced (.last hnested))) hline
  have hplain := Json.WrittenText.mk hnone (.members (.last hcompact)) hnone
  have htwice := Json.WrittenText.mk hnone
    (.members (.more hcompact (.more hnested (.last hcompact)))) hnone
  have hbelow := Json.WrittenText.mk hnone (.members (.last hnegative)) hnone
  have hmissing := Json.WrittenText.mk hnone (.members (.last hnull)) hnone
  obtain ⟨c, hc, hread, hagain⟩ := (read?_partial htext).1 _ (hlisted hunlisted) (by decide)
  refine ⟨⟨c, hc, hread, hagain _ _ _ hplain (hlisted .nil) (.refl _)⟩, ?_, ?_, ?_⟩
  · exact (read?_partial htwice).2.1 [] _ [_] _ [] .attempts rfl (Json.decode_pieces _)
      (Json.decode_pieces _)
  · refine (read?_partial hbelow).2.2 _ List.mem_cons_self .attempts (Json.decode_pieces _) ?_
    rw [takes_number_iff]
    rintro ⟨low, high, i, hrange, hi, hlow, -⟩
    cases hrange
    rw [Json.toInt?_numberOf] at hi
    cases hi
    exact absurd hlow (by decide)
  · refine (read?_partial hmissing).2.2 _ List.mem_cons_self .attempts (Json.decode_pieces _) ?_
    exact fun htakes => absurd (takes_null_iff.mp htakes) (by decide)

end Object

end Config

end PortReservation
