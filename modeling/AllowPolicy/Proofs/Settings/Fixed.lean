import AllowPolicy.Proofs.Entries
import AllowPolicy.Proofs.Settings.Valid

namespace AllowPolicy

namespace Checked

variable {α β : Type}

@[simp] theorem map_fits (f : α → β) (a : α) : f <$> (.fits a : Checked α) = .fits (f a) := rfl

@[simp] theorem seq_fits (f : α → β) (a : α) :
    (.fits f : Checked (α → β)) <*> .fits a = .fits (f a) := rfl

@[simp] theorem under_fits (step : Issue.Step) (a : α) : under step (.fits a) = .fits a := rfl

end Checked

/-- A table with these fields at most. -/
def Value.HasOnly (names : List String) (v : Value) : Prop :=
  ∃ entries, v = .table entries ∧ ∀ entry ∈ entries, ∃ name ∈ names, entry.1 = .text name

namespace Fields

variable {α : Type}

theorem only_eq_fits_iff (fields : Fields) (names : List String) :
    fields.only names = .fits () ↔ ∀ entry ∈ fields, ∃ name ∈ names, entry.1 = .text name := by
  unfold only
  extract_lets issue
  have hissue (entry : Value × Value) : issue entry = none ↔
      ∃ name ∈ names, entry.1 = .text name := by
    obtain ⟨key, value⟩ := entry
    cases key <;> simp [issue]
  simp only [← hissue, ← List.filterMap_eq_nil_iff]
  split
  · next hnone => exact iff_of_true rfl hnone
  · next hsome => exact iff_of_false (by simp) hsome

/-- What is read field by field, and then has no other field, has none but those. -/
theorem hasOnly_of_fits {schema : String} {names : List String} {read : Fields → Checked (Unit → α)}
    {v : Value} {a : α}
    (hread : ((ofValue schema v).andThen fun fields => read fields <*> fields.only names) =
      .fits a) : v.HasOnly names := by
  obtain ⟨fields, hfields, hfits⟩ := (Checked.andThen_eq_fits_iff ..).mp hread
  obtain ⟨_, _, _, honly, _⟩ := (Checked.seq_eq_fits_iff ..).mp hfits
  cases v with
  | table entries =>
    cases hfields
    exact ⟨fields, rfl, (only_eq_fits_iff fields names).mp honly⟩
  | _ => cases hfields

theorem read_of_optional {fields : Fields} {name : String} {default a : α}
    {read : Value → Checked α} (hfits : fields.optional name default read = .fits a) {v : Value}
    (hfield : Value.get? fields (.text name) = some v) : read v = .fits a := by
  rwa [optional, hfield, Checked.under_eq_fits_iff] at hfits

theorem only_record {entries : List (String × Value)} {names : List String}
    (hnames : ∀ entry ∈ entries, entry.1 ∈ names) :
    only (entries.map fun (key, value) => (.text key, value)) names = .fits () := by
  rw [only_eq_fits_iff, List.forall_mem_map]
  exact fun entry hentry => ⟨entry.1, hnames entry hentry, rfl⟩

end Fields

namespace Settings

open Validation

@[simp] theorem readBool_bool (b : Bool) : readBool (.bool b) = .fits b := rfl

@[simp] theorem readText_text (s : String) : readText (.text s) = .fits s := rfl

@[simp] theorem readInt_int (n : Int) : readInt (.int n) = .fits n := rfl

theorem readPreferences_toValue (p : Preferences) : readPreferences p.toValue = .fits p := by
  simp only [readPreferences, Preferences.toValue, Fields.ofValue_record, Checked.andThen,
    Fields.optional_record]
  rw [Fields.only_record (by simp [preferenceNames])]
  simp [List.lookup_cons]

theorem readDatabase_record {path : String} (hpath : path ≠ "") :
    readDatabase (.record [("path", .text path)]) = .fits path := by
  have hread : readNonEmpty (.text path) = .fits path := by
    simp [readNonEmpty, Checked.andThen, hpath]
  simp only [readDatabase, Fields.ofValue_record, Checked.andThen, Fields.optional_record]
  rw [Fields.only_record (by simp)]
  simp [hread]

theorem readToggling_toValue {toggle : Toggling} (hpos : 0 < toggle.interval) :
    readToggling toggle.toValue = .fits toggle := by
  have hread : readPositive (.real toggle.interval) = .fits toggle.interval := if_pos hpos
  simp only [readToggling, Toggling.toValue, Fields.ofValue_record, Checked.andThen,
    Fields.optional_record]
  rw [Fields.only_record (by simp)]
  simp [List.lookup_cons, hread]

theorem readLevel_name (level : Level) : readLevel (.text level.name) = .fits level := by
  have hlevel : levelOf? level.name = some level := by cases level <;> decide +kernel
  simp [readLevel, Checked.andThen, hlevel]

theorem readLogging_record (level : Level) :
    readLogging (.record [("level", .text level.name)]) = .fits level := by
  simp only [readLogging, Fields.ofValue_record, Checked.andThen, Fields.optional_record]
  rw [Fields.only_record (by simp)]
  simp [readLevel_name]

theorem readSource_name (source : Source) : readSource (.text source.name) = .fits source := by
  cases source <;> rfl

section Identities

variable {identities : List (String × Int)}

theorem putIdentity_of_new {name : String} (hnew : name ∉ identities.map (·.1)) (uid : Int) :
    putIdentity identities name uid = identities ++ [(name, uid)] :=
  putEntry_of_not_mem hnew uid

/-- Names that are all different come in one after another. -/
theorem foldl_putIdentity {front : List (String × Int)}
    (hdistinct : ((front ++ identities).map (·.1)).Nodup) :
    identities.foldl (fun table (name, uid) => putIdentity table name uid) front =
      front ++ identities := by
  induction identities generalizing front with
  | nil => simp
  | cons entry rest ih =>
    obtain ⟨name, uid⟩ := entry
    have hnew : name ∉ front.map (·.1) := by
      intro hold
      rw [List.map_append, List.map_cons] at hdistinct
      exact (List.nodup_append.mp hdistinct).2.2 _ hold _ List.mem_cons_self rfl
    have hrest := ih (by simpa using hdistinct : ((front ++ [(name, uid)] ++ rest).map (·.1)).Nodup)
    rw [← putIdentity_of_new hnew uid] at hrest
    refine hrest.trans ?_
    rw [putIdentity_of_new hnew, List.append_assoc, List.singleton_append]

/-- Of two identities for a name the later one takes the place of the first. -/
theorem nodup_putIdentity (hdistinct : (identities.map (·.1)).Nodup) (name : String) (uid : Int) :
    ((putIdentity identities name uid).map (·.1)).Nodup :=
  nodup_putEntry hdistinct name uid

theorem nodup_foldl_putIdentity (hdistinct : (identities.map (·.1)).Nodup)
    (read : List (String × Int)) :
    ((read.foldl (fun table (name, uid) => putIdentity table name uid) identities).map
      (·.1)).Nodup := by
  induction read generalizing identities with
  | nil => exact hdistinct
  | cons entry rest ih => exact ih (nodup_putIdentity hdistinct entry.1 entry.2)

theorem nodup_of_readIdentities {v : Value} (hread : readIdentities v = .fits identities) :
    (identities.map (·.1)).Nodup := by
  cases v with
  | table entries =>
    obtain ⟨read, _, hfits⟩ := (Checked.andThen_eq_fits_iff ..).mp hread
    simp only at hfits
    split at hfits
    · cases hfits
    · cases hfits
      exact @nodup_foldl_putIdentity [] List.nodup_nil read
  | _ => cases hread

theorem all_readIdentity (identities : List (String × Int)) :
    Checked.all ((identities.map fun (name, uid) => (Value.text name, Value.int uid)).map
      readIdentity) = .fits identities := by
  induction identities with
  | nil => rfl
  | cons entry rest ih =>
    rw [List.map_cons, List.map_cons, Checked.all, ih]
    rfl

theorem readIdentities_record (hdistinct : (identities.map (·.1)).Nodup)
    (hpos : ∀ entry ∈ identities, 0 < entry.2) :
    readIdentities (.record (identities.map fun (name, uid) => (name, .int uid))) =
      .fits identities := by
  have hrecord : Value.record (identities.map fun (name, uid) => (name, .int uid)) =
      .table (identities.map fun (name, uid) => (.text name, .int uid)) := by
    simp [Value.record]
  have hfold : identities.foldl (fun table (name, uid) => putIdentity table name uid) [] =
      identities := foldl_putIdentity (by simpa using hdistinct)
  have hnone : identities.find? (·.2 ≤ 0) = none := by
    simpa using hpos
  rw [hrecord]
  simp only [readIdentities, all_readIdentity, Checked.andThen, hfold, hnone]

end Identities

/-- What the schema makes of the settings that it accepts. -/
structure Normal (settings : Settings) : Prop extends Valid settings where
  database_ne : settings.database ≠ ""
  names_distinct : (settings.identities.map (·.1)).Nodup

theorem normal_default : Normal {} := ⟨valid_default, by decide, List.nodup_nil⟩

theorem ne_of_readDatabase {v : Value} {path : String} (hread : readDatabase v = .fits path) :
    path ≠ "" := by
  simp only [readDatabase, Checked.andThen_eq_fits_iff, Checked.seq_eq_fits_iff,
    Checked.map_eq_fits_iff] at hread
  obtain ⟨_, _, _, _, ⟨_, hpath, rfl⟩, _, rfl⟩ := hread
  obtain rfl | ⟨_, hnonempty⟩ := Fields.of_optional hpath
  · exact normal_default.database_ne
  · obtain ⟨text, _, hfits⟩ := (Checked.andThen_eq_fits_iff ..).mp hnonempty
    split at hfits
    · cases hfits
    · next hsome =>
      cases hfits
      simpa using hsome

theorem normal_of_ofValue {v : Value} {settings : Settings} (hread : ofValue v = .ok settings) :
    settings.Normal := by
  have hvalid := valid_of_ofValue hread
  simp only [ofValue, readSections, Checked.toExcept_eq_ok_iff, Checked.andThen_eq_fits_iff,
    Checked.seq_eq_fits_iff, Checked.map_eq_fits_iff] at hread
  obtain ⟨_, _, _, _, ⟨_, _, ⟨_, identities, ⟨_, _, ⟨_, _, ⟨_, _, ⟨database, hdatabase, rfl⟩, _,
    rfl⟩, _, rfl⟩, _, rfl⟩, hidentities, rfl⟩, _, rfl⟩, _, rfl⟩ := hread
  refine ⟨hvalid, ?_, ?_⟩
  · obtain rfl | ⟨_, hread⟩ := Fields.of_optional hdatabase
    · exact normal_default.database_ne
    · exact ne_of_readDatabase hread
  · obtain rfl | ⟨_, hread⟩ := Fields.of_optional hidentities
    · exact List.nodup_nil
    · exact nodup_of_readIdentities hread

/-- Such settings are read as they are written down. -/
theorem ofValue_toValue {settings : Settings} (hnormal : settings.Normal) :
    ofValue settings.toValue = .ok settings := by
  simp only [ofValue, readSections, toValue, Fields.ofValue_record, Checked.andThen,
    Fields.optional_record]
  rw [Fields.only_record (by simp)]
  simp [List.lookup_cons, readDatabase_record hnormal.database_ne,
    readToggling_toValue hnormal.interval_pos, readLogging_record, readSource_name,
    readIdentities_record hnormal.names_distinct hnormal.identity_pos, readPreferences_toValue]

/-- The sections of the settings. -/
def sectionNames : List String :=
  ["database", "toggle", "logging", "resolver", "identities", "preferences"]

/-- The sections that have fields of their own, with these. -/
def partNames : List (String × List String) :=
  [("database", ["path"]), ("toggle", ["enabled", "interval_seconds", "start_enabled"]),
    ("logging", ["level"]), ("preferences", preferenceNames)]

/-- No field at any level but those of the schema. -/
structure Closed (v : Value) : Prop where
  sections : v.HasOnly sectionNames
  parts : ∀ part ∈ partNames, ∀ inner, v.field? part.1 = some inner → inner.HasOnly part.2

theorem closed_of_ofValue {v : Value} {settings : Settings} (hread : ofValue v = .ok settings) :
    Closed v := by
  have hsections := (Checked.toExcept_eq_ok_iff ..).mp hread
  refine ⟨Fields.hasOnly_of_fits hsections, ?_⟩
  simp only [readSections, Checked.andThen_eq_fits_iff, Checked.seq_eq_fits_iff,
    Checked.map_eq_fits_iff] at hsections
  obtain ⟨fields, hfields, _, _, ⟨_, _, ⟨_, _, ⟨_, _, ⟨_, _, ⟨_, _, ⟨_, hdatabase, rfl⟩, htoggle,
    rfl⟩, hlogging, rfl⟩, _, rfl⟩, _, rfl⟩, hpreferences, rfl⟩, _, rfl⟩ := hsections
  cases v with
  | table entries =>
    cases hfields
    intro part hpart inner hinner
    simp only [partNames, List.mem_cons, List.not_mem_nil, or_false] at hpart
    rcases hpart with rfl | rfl | rfl | rfl
    · exact Fields.hasOnly_of_fits (Fields.read_of_optional hdatabase hinner)
    · exact Fields.hasOnly_of_fits (Fields.read_of_optional htoggle hinner)
    · exact Fields.hasOnly_of_fits (Fields.read_of_optional hlogging hinner)
    · exact Fields.hasOnly_of_fits (Fields.read_of_optional hpreferences hinner)
  | _ => cases hfields

/-- Settings that data describes are read as they are written down, so that to write them down and
    read them again changes nothing. Their identities are above zero, their level is one of the
    five, their store has a path, and the data had no field that the schema does not have. -/
theorem ofValue_fixed {v : Value} {settings : Settings} (hread : ofValue v = .ok settings) :
    ofValue settings.toValue = .ok settings ∧
      (∀ entry ∈ settings.identities, 0 < entry.2) ∧
      settings.level.name ∈ ["DEBUG", "INFO", "WARNING", "ERROR", "CRITICAL"] ∧
      settings.database ≠ "" ∧
      Closed v := by
  have hnormal := normal_of_ofValue hread
  refine ⟨ofValue_toValue hnormal, hnormal.identity_pos, ?_, hnormal.database_ne,
    closed_of_ofValue hread⟩
  cases settings.level <;> decide

/-- Data with words for truth values and numbers, and with sections left out. -/
theorem ofValue_fixed_onLoose :
    let v : Value := .record
      [("toggle", .record [("enabled", .text "Yes"), ("start_enabled", .int 0)]),
        ("logging", .record [("level", .text "debug")]),
        ("identities", .record [("mail", .text " 7 ")])]
    let settings : Settings :=
      { toggle := { enabled := true, startEnabled := false }, level := .debug,
        identities := [("mail", 7)] }
    ofValue v = .ok settings ∧ ofValue settings.toValue = .ok settings := by
  intro v settings
  have hread : ofValue v = .ok settings := by
    simp only [v, ofValue, readSections, readToggling, readLogging, Fields.ofValue_record,
      Checked.andThen, Fields.optional_record, List.lookup_cons, String.reduceBEq]
    rfl
  exact ⟨hread, (ofValue_fixed hread).1⟩

end Settings

end AllowPolicy
