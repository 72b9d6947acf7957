import AllowPolicy.Engine
import AllowPolicy.Proofs.RuleLine.Said
import AllowPolicy.Settings.Document
import AllowPolicy.Workspace

namespace AllowPolicy

namespace Checked

variable {α β : Type}

@[simp] theorem map_eq_fits_iff (f : α → β) (x : Checked α) (b : β) :
    f <$> x = .fits b ↔ ∃ a, x = .fits a ∧ f a = b := by
  change both (fun _ a => f a) (.fits ()) x = .fits b ↔ _
  cases x <;> simp [both]

@[simp] theorem seq_eq_fits_iff (f : Checked (α → β)) (x : Checked α) (b : β) :
    f <*> x = .fits b ↔ ∃ g a, f = .fits g ∧ x = .fits a ∧ g a = b := by
  change both (fun g a => g a) f x = .fits b ↔ _
  cases f <;> cases x <;> simp [both]

@[simp] theorem under_eq_fits_iff (step : Issue.Step) (x : Checked α) (a : α) :
    under step x = .fits a ↔ x = .fits a := by
  cases x <;> simp [under]

@[simp] theorem andThen_eq_fits_iff (x : Checked α) (f : α → Checked β) (b : β) :
    x.andThen f = .fits b ↔ ∃ a, x = .fits a ∧ f a = .fits b := by
  cases x <;> simp [andThen]

@[simp] theorem toExcept_eq_ok_iff (schema : String) (x : Checked α) (a : α) :
    x.toExcept schema = .ok a ↔ x = .fits a := by
  cases x <;> simp [toExcept]

end Checked

/-- A field with a default is read, or it is the default. -/
theorem Fields.of_optional {α : Type} {fields : Fields} {name : String} {default a : α}
    {read : Value → Checked α} (hfits : fields.optional name default read = .fits a) :
    a = default ∨ ∃ v, read v = .fits a := by
  unfold optional at hfits
  cases hget : Value.get? fields (.text name) with
  | none =>
    rw [hget] at hfits
    exact .inl (Checked.fits.inj hfits).symm
  | some v =>
    rw [hget, Checked.under_eq_fits_iff] at hfits
    exact .inr ⟨v, hfits⟩

/-- A field of a record is found under its name. -/
theorem Value.get?_record (entries : List (String × Value)) (name : String) :
    Value.get? (entries.map fun (key, value) => (.text key, value)) (.text name) =
      entries.lookup name := by
  induction entries with
  | nil => rfl
  | cons entry rest ih =>
    obtain ⟨key, value⟩ := entry
    rw [List.lookup_cons, ← ih]
    by_cases hkey : key = name
    · simp [Value.get?, Value.same, hkey]
    · have hname : (name == key) = false := beq_false_of_ne (Ne.symm hkey)
      simp [Value.get?, Value.same, hkey, hname]

theorem Fields.ofValue_record (schema : String) (entries : List (String × Value)) :
    ofValue schema (.record entries) =
      .fits (entries.map fun (key, value) => (.text key, value)) := rfl

theorem Fields.optional_record {α : Type} (entries : List (String × Value)) (name : String)
    (default : α) (read : Value → Checked α) :
    optional (entries.map fun (key, value) => (.text key, value)) name default read =
      match entries.lookup name with
      | some value => (read value).under (.name name)
      | none => .fits default := by
  cases hlookup : entries.lookup name <;> simp only [optional, Value.get?_record, hlookup]

namespace Settings

/-- What the schema makes sure of. -/
structure Valid (settings : Settings) : Prop where
  interval_pos : 0 < settings.toggle.interval
  identity_pos : ∀ entry ∈ settings.identities, 0 < entry.2

theorem interval_pos_default : 0 < ({} : Toggling).interval := by decide +kernel

/-- The usual settings are valid. -/
theorem valid_default : Valid {} := ⟨interval_pos_default, fun _ hentry => by cases hentry⟩

theorem pos_of_readPositive {v : Value} {x : Float} (hread : Validation.readPositive v = .fits x) :
    0 < x := by
  obtain ⟨y, _, hfits⟩ := (Checked.andThen_eq_fits_iff ..).mp hread
  by_cases hpos : 0 < y
  · rw [if_pos hpos] at hfits
    cases hfits
    exact hpos
  · rw [if_neg hpos] at hfits
    cases hfits

theorem interval_pos_of_readToggling {v : Value} {toggle : Toggling}
    (hread : readToggling v = .fits toggle) : 0 < toggle.interval := by
  simp only [readToggling, Checked.andThen_eq_fits_iff, Checked.seq_eq_fits_iff,
    Checked.map_eq_fits_iff] at hread
  obtain ⟨_, _, _, _, ⟨_, _, ⟨_, interval, ⟨_, _, rfl⟩, hinterval, rfl⟩, _, rfl⟩, _, rfl⟩ := hread
  obtain rfl | ⟨_, hpositive⟩ := Fields.of_optional hinterval
  · exact interval_pos_default
  · exact pos_of_readPositive hpositive

theorem identity_pos_of_readIdentities {v : Value} {identities : List (String × Int)}
    (hread : readIdentities v = .fits identities) : ∀ entry ∈ identities, 0 < entry.2 := by
  cases v with
  | table entries =>
    obtain ⟨read, _, hfits⟩ := (Checked.andThen_eq_fits_iff ..).mp hread
    simp only at hfits
    split at hfits
    · cases hfits
    · rename_i hnone
      cases hfits
      intro entry hentry
      simpa using List.find?_eq_none.mp hnone entry hentry
  | _ => cases hread

/-- Settings that data describes are valid. -/
theorem valid_of_ofValue {v : Value} {settings : Settings} (hread : ofValue v = .ok settings) :
    settings.Valid := by
  simp only [ofValue, readSections, Checked.toExcept_eq_ok_iff, Checked.andThen_eq_fits_iff,
    Checked.seq_eq_fits_iff, Checked.map_eq_fits_iff] at hread
  obtain ⟨_, _, _, _, ⟨_, _, ⟨_, identities, ⟨_, _, ⟨_, _, ⟨_, toggle, ⟨_, _, rfl⟩, htoggle, rfl⟩,
    _, rfl⟩, _, rfl⟩, hidentities, rfl⟩, _, rfl⟩, _, rfl⟩ := hread
  constructor
  · obtain rfl | ⟨_, hread⟩ := Fields.of_optional htoggle
    · exact interval_pos_default
    · exact interval_pos_of_readToggling hread
  · obtain rfl | ⟨_, hread⟩ := Fields.of_optional hidentities
    · intro entry hentry
      cases hentry
    · exact identity_pos_of_readIdentities hread

theorem valid_of_ofText [Yaml.Reads] {source text : String} {settings : Settings}
    (hread : ofText source text = .ok settings) : settings.Valid := by
  unfold ofText at hread
  split at hread
  · cases hread
  · cases hread
  · rename_i v _
    cases hvalue : ofValue (if v.isAbsent then .table [] else v) with
    | error refusal =>
      rw [hvalue] at hread
      cases hread
    | ok found =>
      rw [hvalue] at hread
      cases hread
      exact valid_of_ofValue hvalue

/-- The identities that valid settings choose are not negative, as long as no account of the system
    is. -/
theorem Valid.nonneg {settings : Settings} (hvalid : settings.Valid)
    {accounts : List (String × Int)} (haccounts : ∀ account ∈ accounts, 0 ≤ account.2)
    (name : String) (uid : Int) (hresolve : (settings.resolver accounts).resolve name = some uid) :
    0 ≤ uid := by
  unfold resolver at hresolve
  cases hsource : settings.source with
  | static =>
    rw [hsource] at hresolve
    refine Resolver.nonneg_ofTable (fun entry hentry => ?_) name uid hresolve
    exact Int.le_of_lt (hvalid.identity_pos entry hentry)
  | system =>
    rw [hsource] at hresolve
    simp only [Resolver.ofAccounts] at hresolve
    split at hresolve
    · cases hresolve
    · exact Resolver.nonneg_ofTable haccounts name uid hresolve

end Settings

section Interval

open Float.Model

private theorem unpack_zero : (0 : Float).toModel.unpack = .zero .positive := rfl

/-- What is above zero is not at or below zero, and is a number. -/
theorem not_le_of_pos {x : Float} (hpos : 0 < x) : ¬ x ≤ 0 := by
  intro hle
  have hlt : (UnpackedFloat.zero .positive).lt x.toModel.unpack = true := by
    rw [← unpack_zero]
    exact of_decide_eq_true hpos
  have hle : x.toModel.unpack.le (.zero .positive) = true := by
    rw [← unpack_zero]
    exact of_decide_eq_true hle
  generalize x.toModel.unpack = unpacked at hlt hle
  cases unpacked with
  | notANumber => cases hle
  | zero sign => cases hlt
  | infinity sign =>
    cases sign with
    | positive => exact absurd hle (by decide)
    | negative => exact absurd hlt (by decide)
  | finite sign mantissa exponent hmantissa =>
    cases sign with
    | positive => cases hle
    | negative => cases hlt

end Interval

/-- An engine with valid settings is made. -/
theorem Engine.make_of_valid {ι : Type} {settings : Settings} (hvalid : settings.Valid)
    (resolver : Resolver) (store : Store) :
    ∃ toggle, (make settings resolver store : Outcome (Engine ι)) =
      .ok { settings, resolver, store, toggle } := by
  refine ⟨{ enabled := settings.toggle.startEnabled, interval := settings.toggle.interval }, ?_⟩
  unfold make Toggle.make
  rw [if_neg (not_le_of_pos hvalid.interval_pos)]
  rfl

/-- The settings in a file are valid, and so are those without a file. -/
theorem Workspace.valid_of_settings [Yaml.Reads] {workspace : Workspace} {path : String}
    {settings : Settings} (hread : workspace.settings path = .ok settings) : settings.Valid := by
  simp only [Workspace.settings] at hread
  split at hread
  · cases hread
    exact Settings.valid_default
  · split at hread
    · cases hread
    · cases hread
      exact Settings.valid_default
    · cases hread
    · cases hread
    · exact Settings.valid_of_ofText hread

end AllowPolicy
