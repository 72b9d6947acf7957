import AllowPolicy.Proofs.Lookup
import AllowPolicy.Proofs.RuleLine.Entry
import Mathlib.Data.Finset.Card
import Mathlib.Data.List.Induction

namespace AllowPolicy

namespace Constraints

/-- The set after a put. A put that fails leaves it as it was. -/
def afterPut (set : Constraints) (entry : Field × Term) : Constraints :=
  match set.put entry.1 entry.2 with
  | .ok after => after
  | .error _ => set

/-- The set after puts one after another, those that fail included. -/
def afterPuts (set : Constraints) (puts : List (Field × Term)) : Constraints :=
  puts.foldl afterPut set

variable {set after : Constraints} {field : Field} {term : Term}

theorem put_of_not_mem (hfield : field ∉ set.fields) :
    set.put field term = .ok { set with entries := set.entries ++ [(field, term)] } :=
  (put_eq_ok_iff ..).mpr ⟨get?_eq_none_iff.mpr hfield, rfl⟩

theorem fields_append (fixed : List (Field × Term)) :
    ({ set with entries := set.entries ++ fixed } : Constraints).fields =
      set.fields ++ fixed.map (·.1) :=
  List.map_append

/-- No put fixes a field for the second time. -/
theorem nodup_put (hdistinct : set.fields.Nodup) (hput : set.put field term = .ok after) :
    after.fields.Nodup := by
  obtain ⟨hfree, rfl⟩ := (put_eq_ok_iff ..).mp hput
  rw [fields_append, List.map_singleton, ← List.concat_eq_append]
  exact hdistinct.concat (get?_eq_none_iff.mp hfree)

/-- A put succeeds if it leaves the fields distinct, and then adds its entry behind the others. -/
theorem put_eq_ok_iff_nodup (hdistinct : set.fields.Nodup) (field : Field) (term : Term)
    (after : Constraints) :
    set.put field term = .ok after ↔
      after = { set with entries := set.entries ++ [(field, term)] } ∧ after.fields.Nodup := by
  constructor
  · intro hput
    exact ⟨((put_eq_ok_iff ..).mp hput).2, nodup_put hdistinct hput⟩
  · rintro ⟨rfl, hafter⟩
    rw [fields_append, List.map_singleton, ← List.concat_eq_append, List.nodup_concat] at hafter
    exact put_of_not_mem hafter.1

theorem get?_eq_some_iff (hdistinct : set.fields.Nodup) :
    set.get? field = some term ↔ (field, term) ∈ set.entries :=
  lookup_eq_some_iff_mem hdistinct

theorem afterPut_of_mem (hfield : field ∈ set.fields) : set.afterPut (field, term) = set := by
  rw [afterPut, put_eq_error_iff.mpr ⟨hfield, rfl⟩]

theorem afterPut_of_not_mem (hfield : field ∉ set.fields) :
    set.afterPut (field, term) = { set with entries := set.entries ++ [(field, term)] } := by
  rw [afterPut, put_of_not_mem hfield]

theorem afterPuts_concat (puts : List (Field × Term)) (entry : Field × Term) :
    set.afterPuts (puts ++ [entry]) = (set.afterPuts puts).afterPut entry := by
  rw [afterPuts, afterPuts, List.foldl_concat]

/-- A set that these puts leave behind. -/
structure WrittenOnce (puts : List (Field × Term)) (set : Constraints) : Prop where
  /-- Of several terms for a field the first one counts. -/
  first : ∀ field, set.get? field = puts.lookup field
  /-- The fields stand in the order in which they were first put. -/
  order : set.fields = (puts.map (·.1)).eraseDups
  /-- There is one entry for each field that was put. -/
  size : set.size = (puts.map (·.1)).toFinset.card
  /-- A further put fails for these fields and no others. -/
  refused : ∀ field term failure, set.put field term = .error failure ↔
    field ∈ puts.map (·.1) ∧ failure = .fault (duplicate set.line field)

theorem mem_fields_iff_of_order {puts : List (Field × Term)}
    (horder : set.fields = (puts.map (·.1)).eraseDups) (field : Field) :
    field ∈ set.fields ↔ field ∈ puts.map (·.1) := by
  rw [horder, List.mem_eraseDups]

theorem WrittenOnce.of_order {puts : List (Field × Term)} (hdistinct : set.fields.Nodup)
    (hfirst : ∀ field, set.get? field = puts.lookup field)
    (horder : set.fields = (puts.map (·.1)).eraseDups) : WrittenOnce puts set where
  first := hfirst
  order := horder
  size := by
    have hsame : set.fields.toFinset = (puts.map (·.1)).toFinset := by
      ext field
      rw [List.mem_toFinset, List.mem_toFinset, mem_fields_iff_of_order horder]
    rw [← hsame, List.toFinset_card_of_nodup hdistinct, fields, List.length_map, Constraints.size]
  refused field term failure := by
    rw [put_eq_error_iff, mem_fields_iff_of_order horder]

/-- What puts leave behind, step by step from the last one. -/
theorem afterPuts_inv (line : String) (puts : List (Field × Term)) :
    (afterPuts { line } puts).line = line ∧ (afterPuts { line } puts).fields.Nodup ∧
      (∀ field, (afterPuts { line } puts).get? field = puts.lookup field) ∧
        (afterPuts { line } puts).fields = (puts.map (·.1)).eraseDups := by
  induction puts using List.reverseRecOn with
  | nil => exact ⟨rfl, List.nodup_nil, fun _ => rfl, rfl⟩
  | append_singleton puts entry ih =>
    obtain ⟨field, term⟩ := entry
    obtain ⟨hline, hdistinct, hfirst, horder⟩ := ih
    rw [afterPuts_concat, List.map_append, List.map_singleton, eraseDups_concat]
    have hmem := mem_fields_iff_of_order horder field
    by_cases hfield : field ∈ (afterPuts { line } puts).fields
    · rw [afterPut_of_mem hfield]
      refine ⟨hline, hdistinct, fun other => ?_, ?_⟩
      · have hold := isSome_get?_iff.mpr hfield
        rw [hfirst] at hold
        rw [hfirst, List.lookup_append]
        by_cases hother : other = field
        · subst hother
          obtain ⟨first, hlookup⟩ := Option.isSome_iff_exists.mp hold
          rw [hlookup, Option.some_or]
        · simp [lookup_cons_eq_ite, hother]
      · rw [if_pos (hmem.mp hfield), horder]
    · rw [afterPut_of_not_mem hfield]
      refine ⟨hline, nodup_put hdistinct (put_of_not_mem hfield), fun other => ?_, ?_⟩
      · rw [List.lookup_append, ← hfirst]
        exact List.lookup_append
      · rw [fields_append, horder, if_neg (mt hmem.mpr hfield)]
        rfl

theorem writtenOnce_afterPuts (line : String) (puts : List (Field × Term)) :
    WrittenOnce puts (afterPuts { line } puts) := by
  obtain ⟨_, hdistinct, hfirst, horder⟩ := afterPuts_inv line puts
  exact .of_order hdistinct hfirst horder

end Constraints

end AllowPolicy
