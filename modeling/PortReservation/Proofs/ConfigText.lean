import PortReservation.Config.Writer
import PortReservation.Proofs.AddressText
import PortReservation.Proofs.JsonWriting
import PortReservation.Proofs.Settings

/-!
# Written configurations

What is written for a configuration is an object that lists the values of its fields, each once. A
field that is left out holds the default, so the object is read as the configuration that it was
written for, whatever that holds.

* `exists_given_of_renderValue?`, `setting_of_renderValue?`: a field that is written, and one that
  is not.
* `exists_writtenText_render`: what is written is an object that lists the fields.
* `read?_render_eq_some`: every configuration reads back from its text.
-/

namespace PortReservation

namespace Config

variable {c : Config}

/-- What is written for a field is a value that it may be given as. -/
theorem exists_given_of_renderValue? {f : Field} {t : Text} (h : c.renderValue? f = some t) :
    ∃ v, Json.WrittenValue v t ∧ (c.setting f).Given v := by
  cases f with
  | variableName =>
    cases h
    exact ⟨_, Json.writtenValue_renderString _, .variableName (Json.decode_pieces _)⟩
  | ledger =>
    obtain ⟨path, hpath, rfl⟩ := Option.map_eq_some_iff.mp h
    refine ⟨_, Json.writtenValue_renderString _, ?_⟩
    rw [setting, hpath]
    exact .ledger (Json.decode_pieces _)
  | window =>
    cases h
    exact ⟨_, .number (Json.writtenNumber_ofInt _), .window (Json.toInt?_numberOf _)⟩
  | ttl =>
    cases h
    exact ⟨_, .number (Json.writtenNumber_ofInt _), .ttl (Json.toInt?_numberOf _)⟩
  | attempts =>
    cases h
    exact ⟨_, .number (Json.writtenNumber_ofInt _), .attempts (Json.toInt?_numberOf _)⟩
  | interval =>
    cases h
    exact ⟨_, .number (Json.writtenNumber_ofInt _), .interval (Json.toInt?_numberOf _)⟩
  | bindAddress =>
    cases h
    refine ⟨_, Json.writtenValue_renderString _, .bindAddress (Json.decode_pieces _) ?_⟩
    exact IpAddress.read?_render _

/-- A field that nothing is written for holds the default. -/
theorem setting_of_renderValue? {f : Field} (h : c.renderValue? f = none) :
    c.setting f = ({} : Config).setting f := by
  cases f with
  | ledger => exact congrArg Setting.ledger (Option.map_eq_none_iff.mp h)
  | _ => cases h

/-- Whether something is written for a field. -/
def Writes (c : Config) (f : Field) : Prop := (c.renderValue? f).isSome

instance (c : Config) : DecidablePred c.Writes := fun f =>
  inferInstanceAs (Decidable ((c.renderValue? f).isSome = true))

/-- What is written for some fields are members that list the values of those of them that are
written. -/
theorem exists_members (c : Config) (fs : List Field) :
    ∃ ms, List.Forall₂ Json.WrittenMember ms (fs.filterMap c.renderField?) ∧
      Lists ms ((fs.filter c.Writes).map c.setting) := by
  induction fs with
  | nil => exact ⟨[], .nil, .nil⟩
  | cons f fs ih =>
    obtain ⟨ms, hwritten, hlists⟩ := ih
    cases ht : c.renderValue? f with
    | none =>
      refine ⟨ms, ?_, ?_⟩
      · simpa [renderField?, ht] using hwritten
      · simpa [Writes, ht] using hlists
    | some t =>
      obtain ⟨v, hv, hgiven⟩ := exists_given_of_renderValue? ht
      have hmember := Json.writtenMember_compact f.name hv
      have hname : Names (f.name.map Json.pieceOf, v) (c.setting f).field := by
        rw [field_setting]
        exact Json.decode_pieces _
      refine ⟨(f.name.map Json.pieceOf, v) :: ms, ?_, ?_⟩
      · simpa [renderField?, ht] using List.Forall₂.cons hmember hwritten
      · simpa [Writes, ht] using Lists.known hname hgiven hlists

/-- The values of the fields that are written determine a configuration. -/
theorem replaces_written (c : Config) :
    c.Replaces ((Field.all.filter c.Writes).map c.setting) where
  listed s hs := by
    obtain ⟨f, -, rfl⟩ := List.mem_map.mp hs
    rw [field_setting]
  unlisted f hf := by
    refine setting_of_renderValue? (Option.not_isSome_iff_eq_none.mp fun hwrites => ?_)
    have hall : f ∈ Field.all := by cases f <;> decide
    have hmem : f ∈ Field.all.filter c.Writes :=
      List.mem_filter.mpr ⟨hall, decide_eq_true hwrites⟩
    exact hf _ (List.mem_map_of_mem hmem) (field_setting c f)

/-- What is written for a configuration is an object that lists the values of the fields that are
written, in their order. -/
theorem exists_writtenText_render (c : Config) :
    ∃ ms, Json.WrittenText ms c.render ∧ Lists ms ((Field.all.filter c.Writes).map c.setting) := by
  obtain ⟨ms, hwritten, hlists⟩ := exists_members c Field.all
  have hnone : Json.Spaces [] := by decide
  refine ⟨ms, ?_, hlists⟩
  simpa [render] using Json.WrittenText.mk hnone (Json.writtenObject_commas hwritten) hnone

/-- Every configuration is read from the text that is written for it. -/
theorem read?_render_eq_some (c : Config) : read? c.render = some c := by
  obtain ⟨ms, htext, hlists⟩ := exists_writtenText_render c
  have hfields : ((Field.all.filter c.Writes).map c.setting).map (·.field) =
      Field.all.filter c.Writes := by
    simp [Function.comp_def]
  have hdistinct : (((Field.all.filter c.Writes).map c.setting).map (·.field)).Nodup := by
    rw [hfields]
    exact List.Pairwise.filter _ (by decide)
  exact (read?_eq_some_iff htext).mpr ⟨_, hlists, hdistinct, replaces_written c⟩

end Config

end PortReservation
