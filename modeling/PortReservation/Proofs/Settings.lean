import PortReservation.Config.Reader
import PortReservation.Proofs.JsonForms

/-!
# Settings

An object says something about a configuration with each member that is named for a field. What it
may say is a setting: a field with a value of its type. Settings of different fields do not disturb
each other, so what is read from an object is the default configuration with those values in it,
whatever their order and whatever else the object holds.

* `Setting.Given`, `Lists`: the values that a setting may be given as, and the settings that an
  object lists.
* `set?_eq_some_iff`: a field takes exactly the values that one of its settings may be given as.
* `setMembers_eq_some_iff`: the reader takes exactly the settings of distinct fields.
* `read?_eq_some_iff`: what is read from an object is what it lists, with the defaults for the rest.
-/

namespace PortReservation

namespace Config

/-- A field of a configuration with a value for it. -/
inductive Setting where
  | variableName (name : Text)
  | ledger (path : Option Text)
  | window (span : Millis)
  | ttl (span : Millis)
  | attempts (number : UInt32)
  | interval (ms : UInt64)
  | bindAddress (ip : IpAddress)
  deriving DecidableEq

namespace Setting

def field : Setting → Field
  | variableName _ => .variableName
  | ledger _ => .ledger
  | window _ => .window
  | ttl _ => .ttl
  | attempts _ => .attempts
  | interval _ => .interval
  | bindAddress _ => .bindAddress

/-- The configuration with the value of a setting. -/
def apply (c : Config) : Setting → Config
  | variableName name => { c with variableName := name }
  | ledger path => { c with ledger := path }
  | window span => { c with window := span }
  | ttl span => { c with ttl := span }
  | attempts number => { c with attempts := number }
  | interval ms => { c with interval := ms }
  | bindAddress ip => { c with bindAddress := ip }

/-- The values that a setting may be given as: a string for a text or an address, an integer in the
range of the field for a number, and null for a missing ledger. -/
inductive Given : Setting → Json.Value → Prop where
  | variableName {s : List Json.Piece} {name : Text} (h : Json.decode s = some name) :
      Given (.variableName name) (.string s)
  | noLedger : Given (.ledger none) .null
  | ledger {s : List Json.Piece} {path : Text} (h : Json.decode s = some path) :
      Given (.ledger (some path)) (.string s)
  | window {n : Json.Number} {span : Millis} (h : n.toInt? = some span.toInt) :
      Given (.window span) (.number n)
  | ttl {n : Json.Number} {span : Millis} (h : n.toInt? = some span.toInt) :
      Given (.ttl span) (.number n)
  | attempts {n : Json.Number} {number : UInt32} (h : n.toInt? = some (number.toNat : Int)) :
      Given (.attempts number) (.number n)
  | interval {n : Json.Number} {ms : UInt64} (h : n.toInt? = some (ms.toNat : Int)) :
      Given (.interval ms) (.number n)
  | bindAddress {s : List Json.Piece} {t : Text} {ip : IpAddress} (h : Json.decode s = some t)
      (hip : IpAddress.read? t = some ip) : Given (.bindAddress ip) (.string s)

end Setting

/-- The value of a field. -/
def setting (c : Config) : Field → Setting
  | .variableName => .variableName c.variableName
  | .ledger => .ledger c.ledger
  | .window => .window c.window
  | .ttl => .ttl c.ttl
  | .attempts => .attempts c.attempts
  | .interval => .interval c.interval
  | .bindAddress => .bindAddress c.bindAddress

@[simp] theorem field_setting (c : Config) (f : Field) : (c.setting f).field = f := by
  cases f <;> rfl

/-- A configuration is the values of its fields. -/
theorem ext_setting {c c' : Config} (h : ∀ f, c.setting f = c'.setting f) : c = c' := by
  obtain ⟨v, l, w, t, a, i, b⟩ := c
  obtain ⟨v', l', w', t', a', i', b'⟩ := c'
  have hv := h .variableName
  have hl := h .ledger
  have hw := h .window
  have ht := h .ttl
  have ha := h .attempts
  have hi := h .interval
  have hb := h .bindAddress
  simp only [setting, Setting.variableName.injEq, Setting.ledger.injEq, Setting.window.injEq,
    Setting.ttl.injEq, Setting.attempts.injEq, Setting.interval.injEq,
    Setting.bindAddress.injEq] at hv hl hw ht ha hi hb
  subst hv hl hw ht ha hi hb
  rfl

/-- A setting changes its own field only. -/
theorem setting_apply (c : Config) (s : Setting) (f : Field) :
    (s.apply c).setting f = if s.field = f then s else c.setting f := by
  cases s <;> cases f <;> rfl

/-! ## Single values -/

theorem text?_eq_some_iff {v : Json.Value} {t : Text} :
    text? v = some t ↔ ∃ s, v = .string s ∧ Json.decode s = some t := by
  cases v <;> simp [text?]

theorem integer?_eq_some_iff {v : Json.Value} {i : Int} :
    integer? v = some i ↔ ∃ n, v = .number n ∧ n.toInt? = some i := by
  cases v <;> simp [integer?]

theorem millis?_eq_some_iff {v : Json.Value} {m : Millis} :
    (integer? v).bind Millis.ofInt? = some m ↔ ∃ n, v = .number n ∧ n.toInt? = some m.toInt := by
  simp only [Option.bind_eq_some_iff, integer?_eq_some_iff, Millis.ofInt?_eq_some_iff]
  constructor
  · rintro ⟨i, ⟨n, rfl, hn⟩, rfl⟩
    exact ⟨n, rfl, hn⟩
  · rintro ⟨n, rfl, hn⟩
    exact ⟨m.toInt, ⟨n, rfl, hn⟩, rfl⟩

theorem natural?_eq_some_iff {bound : Nat} {v : Json.Value} {k : Nat} :
    natural? bound v = some k ↔ k < bound ∧ ∃ n, v = .number n ∧ n.toInt? = some (k : Int) := by
  simp only [natural?, Option.bind_eq_bind, Option.bind_eq_some_iff, integer?_eq_some_iff]
  constructor
  · rintro ⟨i, ⟨n, rfl, hn⟩, hi⟩
    split at hi
    · next hrange =>
      cases hi
      exact ⟨by omega, n, rfl, by rw [hn]; congr 1; omega⟩
    · cases hi
  · rintro ⟨hk, n, rfl, hn⟩
    exact ⟨k, ⟨n, rfl, hn⟩, by rw [if_pos (by omega)]; rfl⟩

/-- A field takes exactly the values that one of its settings may be given as. -/
theorem set?_eq_some_iff {c c' : Config} {f : Field} {v : Json.Value} :
    c.set? f v = some c' ↔ ∃ s : Setting, s.field = f ∧ s.Given v ∧ s.apply c = c' := by
  constructor
  · intro h
    cases f with
    | variableName =>
      obtain ⟨t, ht, rfl⟩ := Option.map_eq_some_iff.mp h
      obtain ⟨s, rfl, hs⟩ := text?_eq_some_iff.mp ht
      exact ⟨.variableName t, rfl, .variableName hs, rfl⟩
    | ledger =>
      simp only [set?] at h
      split at h
      · next hnull =>
        cases h
        exact ⟨.ledger none, rfl, hnull ▸ .noLedger, rfl⟩
      · obtain ⟨t, ht, rfl⟩ := Option.map_eq_some_iff.mp h
        obtain ⟨s, rfl, hs⟩ := text?_eq_some_iff.mp ht
        exact ⟨.ledger (some t), rfl, .ledger hs, rfl⟩
    | window =>
      obtain ⟨m, hm, rfl⟩ := Option.map_eq_some_iff.mp h
      obtain ⟨n, rfl, hn⟩ := millis?_eq_some_iff.mp hm
      exact ⟨.window m, rfl, .window hn, rfl⟩
    | ttl =>
      obtain ⟨m, hm, rfl⟩ := Option.map_eq_some_iff.mp h
      obtain ⟨n, rfl, hn⟩ := millis?_eq_some_iff.mp hm
      exact ⟨.ttl m, rfl, .ttl hn, rfl⟩
    | attempts =>
      obtain ⟨k, hk, rfl⟩ := Option.map_eq_some_iff.mp h
      obtain ⟨hlt, n, rfl, hn⟩ := natural?_eq_some_iff.mp hk
      refine ⟨.attempts (UInt32.ofNat k), rfl, .attempts ?_, rfl⟩
      rw [hn, UInt32.toNat_ofNat_of_lt' hlt]
    | interval =>
      obtain ⟨k, hk, rfl⟩ := Option.map_eq_some_iff.mp h
      obtain ⟨hlt, n, rfl, hn⟩ := natural?_eq_some_iff.mp hk
      refine ⟨.interval (UInt64.ofNat k), rfl, .interval ?_, rfl⟩
      rw [hn, UInt64.toNat_ofNat_of_lt' hlt]
    | bindAddress =>
      obtain ⟨ip, hip, rfl⟩ := Option.map_eq_some_iff.mp h
      obtain ⟨t, ht, hread⟩ := Option.bind_eq_some_iff.mp hip
      obtain ⟨s, rfl, hs⟩ := text?_eq_some_iff.mp ht
      exact ⟨.bindAddress ip, rfl, .bindAddress hs hread, rfl⟩
  · rintro ⟨s, rfl, hgiven, rfl⟩
    cases hgiven with
    | variableName h => simp [set?, Setting.field, Setting.apply, text?, h]
    | noLedger => rfl
    | ledger h => simp [set?, Setting.field, Setting.apply, text?, h]
    | window h =>
      have hm := millis?_eq_some_iff.mpr ⟨_, rfl, h⟩
      simp [set?, Setting.field, Setting.apply, hm]
    | ttl h =>
      have hm := millis?_eq_some_iff.mpr ⟨_, rfl, h⟩
      simp [set?, Setting.field, Setting.apply, hm]
    | @attempts n number h =>
      have hn := natural?_eq_some_iff.mpr ⟨number.toNat_lt, n, rfl, h⟩
      simp [set?, Setting.field, Setting.apply, UInt32.size, hn]
    | @interval n ms h =>
      have hn := natural?_eq_some_iff.mpr ⟨ms.toNat_lt, n, rfl, h⟩
      simp [set?, Setting.field, Setting.apply, UInt64.size, hn]
    | bindAddress h hip => simp [set?, Setting.field, Setting.apply, text?, h, hip]

theorem Field.ofName?_eq_some_iff {name : Text} {f : Field} :
    Field.ofName? name = some f ↔ name = f.name := by
  constructor
  · intro h
    have hname : f.name = name := by simpa using List.find?_some h
    exact hname.symm
  · rintro rfl
    cases f <;> decide

theorem Field.ofName?_eq_none_iff {name : Text} :
    Field.ofName? name = none ↔ ∀ f : Field, name ≠ f.name := by
  rw [Option.eq_none_iff_forall_ne_some]
  exact forall_congr' fun f => not_congr Field.ofName?_eq_some_iff

/-! ## Settings one after the other -/

/-- The configuration with the values of some settings, the later ones last. -/
def applyAll (c : Config) (settings : List Setting) : Config :=
  settings.foldl (fun c s => s.apply c) c

/-- Fields that no setting is for keep their values. -/
theorem setting_applyAll_of_forall_ne {settings : List Setting} {f : Field}
    (h : ∀ s ∈ settings, s.field ≠ f) (c : Config) :
    (c.applyAll settings).setting f = c.setting f := by
  induction settings generalizing c with
  | nil => rfl
  | cons s settings ih =>
    obtain ⟨hs, hrest⟩ := List.forall_mem_cons.mp h
    have hstep := ih hrest (s.apply c)
    rw [setting_apply, if_neg hs] at hstep
    exact hstep

/-- Settings of different fields do not disturb each other. -/
theorem setting_applyAll_of_mem {settings : List Setting}
    (hdistinct : (settings.map (·.field)).Nodup) {s : Setting} (hs : s ∈ settings) (c : Config) :
    (c.applyAll settings).setting s.field = s := by
  induction settings generalizing c with
  | nil => cases hs
  | cons d settings ih =>
    obtain ⟨hd, hrest⟩ := List.nodup_cons.mp hdistinct
    rcases List.mem_cons.mp hs with rfl | hs
    · have hlater : ∀ e ∈ settings, e.field ≠ s.field := fun e he heq =>
        hd (List.mem_map.mpr ⟨e, he, heq⟩)
      have hstep := setting_applyAll_of_forall_ne hlater (s.apply c)
      rw [setting_apply, if_pos rfl] at hstep
      exact hstep
    · exact ih hrest hs (d.apply c)

/-- A configuration that is the default one with the values of some settings in it. -/
structure Replaces (c : Config) (settings : List Setting) : Prop where
  listed : ∀ s ∈ settings, c.setting s.field = s
  unlisted : ∀ f, (∀ s ∈ settings, s.field ≠ f) → c.setting f = ({} : Config).setting f

theorem replaces_applyAll {settings : List Setting}
    (hdistinct : (settings.map (·.field)).Nodup) :
    (({} : Config).applyAll settings).Replaces settings where
  listed _ hs := setting_applyAll_of_mem hdistinct hs {}
  unlisted _ h := setting_applyAll_of_forall_ne h {}

/-- There is only one such configuration. -/
theorem Replaces.unique {c c' : Config} {settings : List Setting} (h : c.Replaces settings)
    (h' : c'.Replaces settings) : c = c' := by
  refine ext_setting fun f => ?_
  by_cases hf : ∃ s ∈ settings, s.field = f
  · obtain ⟨s, hs, rfl⟩ := hf
    rw [h.listed s hs, h'.listed s hs]
  · have hne : ∀ s ∈ settings, s.field ≠ f := fun s hs heq => hf ⟨s, hs, heq⟩
    rw [h.unlisted f hne, h'.unlisted f hne]

theorem Replaces.perm {c : Config} {settings settings' : List Setting} (h : c.Replaces settings)
    (hp : settings.Perm settings') : c.Replaces settings' where
  listed s hs := h.listed s (hp.mem_iff.mpr hs)
  unlisted f hf := h.unlisted f fun s hs => hf s (hp.mem_iff.mp hs)

/-! ## Members -/

/-- A member of an object: its name as it is spelt, and its value. -/
abbrev Member := List Json.Piece × Json.Value

/-- Whether a member is named for a field. -/
def Names (m : Member) (f : Field) : Prop := Json.decode m.1 = some f.name

/-- The settings that the members of an object list, in their order. Members that are not named for
a field say nothing, whatever their values are. -/
inductive Lists : List Member → List Setting → Prop where
  | nil : Lists [] []
  | known {m : Member} {ms : List Member} {s : Setting} {settings : List Setting}
      (hname : Names m s.field) (hvalue : s.Given m.2) (h : Lists ms settings) :
      Lists (m :: ms) (s :: settings)
  | unknown {m : Member} {ms : List Member} {settings : List Setting} {name : Text}
      (hname : Json.decode m.1 = some name) (hunknown : ∀ f : Field, name ≠ f.name)
      (h : Lists ms settings) : Lists (m :: ms) settings

theorem names_iff {m : Member} {f : Field} :
    Names m f ↔ (Json.decode m.1).bind Field.ofName? = some f := by
  simp only [Names, Option.bind_eq_some_iff, Field.ofName?_eq_some_iff, exists_eq_right]

/-- The settings that an object lists are for the fields that its members are named for. -/
theorem Lists.fields {ms : List Member} {settings : List Setting} (h : Lists ms settings) :
    settings.map (·.field) = ms.filterMap fun m => (Json.decode m.1).bind Field.ofName? := by
  induction h with
  | nil => rfl
  | known hname _ _ ih => rw [List.map_cons, ih, List.filterMap_cons, names_iff.mp hname]
  | unknown hname hunknown _ ih =>
    rw [ih, List.filterMap_cons, hname, Option.bind_some, Field.ofName?_eq_none_iff.mpr hunknown]

/-- A member that is named for a field gives the value of a setting. -/
theorem Lists.exists_given {ms : List Member} {settings : List Setting} (h : Lists ms settings)
    {m : Member} (hm : m ∈ ms) {f : Field} (hf : Names m f) :
    ∃ s : Setting, s.field = f ∧ s.Given m.2 := by
  induction h with
  | nil => cases hm
  | @known m' ms s settings hname hvalue _ ih =>
    rcases List.mem_cons.mp hm with rfl | hm
    · have hfield := (names_iff.mp hname).symm.trans (names_iff.mp hf)
      exact ⟨s, Option.some.inj hfield, hvalue⟩
    · exact ih hm
  | @unknown m' ms settings name hname hunknown _ ih =>
    rcases List.mem_cons.mp hm with rfl | hm
    · exact absurd (Option.some.inj (hname.symm.trans hf)) (hunknown f)
    · exact ih hm

/-- The reader takes exactly the settings of distinct fields that were not seen before. -/
theorem setMembers_eq_some_iff {seen : List Field} {c c' : Config} {ms : List Member} :
    setMembers seen c ms = some c' ↔ ∃ settings, Lists ms settings ∧
      (settings.map (·.field)).Nodup ∧ (∀ s ∈ settings, s.field ∉ seen) ∧
        c.applyAll settings = c' := by
  induction ms generalizing seen c with
  | nil =>
    constructor
    · intro h
      cases h
      exact ⟨[], .nil, List.nodup_nil, by simp, rfl⟩
    · rintro ⟨settings, hlists, -, -, rfl⟩
      cases hlists
      rfl
  | cons m ms ih =>
    obtain ⟨key, v⟩ := m
    rw [setMembers.eq_def]
    constructor
    · intro h
      simp only at h
      split at h
      · cases h
      next name hname =>
      split at h
      · next hunknown =>
        obtain ⟨settings, hlists, hrest⟩ := ih.mp h
        exact ⟨settings, .unknown hname (Field.ofName?_eq_none_iff.mp hunknown) hlists, hrest⟩
      next f hf =>
      split at h
      · cases h
      next hseen =>
      split at h
      · cases h
      next c₁ hset =>
      obtain ⟨s, rfl, hgiven, rfl⟩ := set?_eq_some_iff.mp hset
      obtain ⟨settings, hlists, hdistinct, hnew, hall⟩ := ih.mp h
      -- What comes later is for no field that was seen, this one included.
      have hlater : ∀ d ∈ settings, d.field ∉ seen ∧ d.field ≠ s.field := fun d hd => by
        simpa [and_comm] using hnew d hd
      refine ⟨s :: settings, ?_, List.nodup_cons.mpr ⟨?_, hdistinct⟩, ?_, hall⟩
      · exact .known (hname.trans (congrArg some (Field.ofName?_eq_some_iff.mp hf))) hgiven hlists
      · rintro hmem
        obtain ⟨d, hd, heq⟩ := List.mem_map.mp hmem
        exact (hlater d hd).2 heq
      · exact List.forall_mem_cons.mpr ⟨hseen, fun d hd => (hlater d hd).1⟩
    · rintro ⟨settings, hlists, hdistinct, hnew, hall⟩
      cases hlists with
      | @known _ _ s settings hname hvalue hlists =>
        obtain ⟨hs, hdistinct⟩ := List.nodup_cons.mp hdistinct
        obtain ⟨hseen, hnew⟩ := List.forall_mem_cons.mp hnew
        have hset : c.set? s.field v = some (s.apply c) :=
          set?_eq_some_iff.mpr ⟨s, rfl, hvalue, rfl⟩
        have hlater : ∀ d ∈ settings, d.field ∉ s.field :: seen := by
          intro d hd hmem
          rcases List.mem_cons.mp hmem with heq | hmem
          · exact hs (List.mem_map.mpr ⟨d, hd, heq⟩)
          · exact hnew d hd hmem
        have hrest := ih.mpr ⟨settings, hlists, hdistinct, hlater, hall⟩
        simpa [show Json.decode key = some s.field.name from hname,
          Field.ofName?_eq_some_iff.mpr rfl, hseen, hset] using hrest
      | @unknown _ _ _ name hname hunknown hlists =>
        have hrest := ih.mpr ⟨settings, hlists, hdistinct, hnew, hall⟩
        simpa [show Json.decode key = some name from hname,
          Field.ofName?_eq_none_iff.mpr hunknown] using hrest

/-- What is read from an object is the default configuration with the values that it lists. -/
theorem read?_eq_some_iff {ms : List Member} {t : Text} (ht : Json.WrittenText ms t) {c : Config} :
    read? t = some c ↔
      ∃ settings, Lists ms settings ∧ (settings.map (·.field)).Nodup ∧ c.Replaces settings := by
  rw [read?, Json.read?_written ht]
  simp only [setMembers_eq_some_iff]
  constructor
  · rintro ⟨settings, hlists, hdistinct, -, rfl⟩
    exact ⟨settings, hlists, hdistinct, replaces_applyAll hdistinct⟩
  · rintro ⟨settings, hlists, hdistinct, hc⟩
    exact ⟨settings, hlists, hdistinct, by simp, (replaces_applyAll hdistinct).unique hc⟩

end Config

end PortReservation
