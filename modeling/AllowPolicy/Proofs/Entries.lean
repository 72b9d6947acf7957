import AllowPolicy.Proofs.Lookup
import Mathlib.Data.List.Nodup

namespace AllowPolicy

variable {κ ν : Type} [DecidableEq κ]

/-- A table with `value` under `key`: in the old place if the key is there, else at the end. -/
def putEntry (table : List (κ × ν)) (key : κ) (value : ν) : List (κ × ν) :=
  if table.any (·.1 = key) then table.map fun (k, v) => if k = key then (k, value) else (k, v)
  else table ++ [(key, value)]

/-- A table with these entries put into it one after another. -/
def putEntries (table entries : List (κ × ν)) : List (κ × ν) :=
  entries.foldl (fun table entry => putEntry table entry.1 entry.2) table

variable {table entries : List (κ × ν)} {key : κ} {value : ν}

theorem any_key_eq_iff : table.any (·.1 = key) = true ↔ key ∈ table.map (·.1) := by
  simp

theorem putEntry_of_mem (hkey : key ∈ table.map (·.1)) (value : ν) :
    putEntry table key value =
      table.map fun entry => if entry.1 = key then (key, value) else entry := by
  rw [putEntry, if_pos (any_key_eq_iff.mpr hkey)]
  refine List.map_congr_left fun entry _ => ?_
  by_cases hentry : entry.1 = key <;> simp [hentry]

theorem putEntry_of_not_mem (hkey : key ∉ table.map (·.1)) (value : ν) :
    putEntry table key value = table ++ [(key, value)] := by
  rw [putEntry, if_neg (mt any_key_eq_iff.mp hkey)]

/-- A key keeps its place, and a new one comes last. -/
theorem keys_putEntry (table : List (κ × ν)) (key : κ) (value : ν) :
    (putEntry table key value).map (·.1) =
      if key ∈ table.map (·.1) then table.map (·.1) else table.map (·.1) ++ [key] := by
  by_cases hkey : key ∈ table.map (·.1)
  · rw [if_pos hkey, putEntry_of_mem hkey, List.map_map]
    refine List.map_congr_left fun entry _ => ?_
    by_cases hentry : entry.1 = key <;> simp [hentry]
  · rw [if_neg hkey, putEntry_of_not_mem hkey, List.map_append]
    rfl

theorem nodup_putEntry (hdistinct : (table.map (·.1)).Nodup) (key : κ) (value : ν) :
    ((putEntry table key value).map (·.1)).Nodup := by
  rw [keys_putEntry]
  by_cases hkey : key ∈ table.map (·.1)
  · rwa [if_pos hkey]
  · rw [if_neg hkey, ← List.concat_eq_append]
    exact List.Nodup.concat hkey hdistinct

theorem lookup_putEntry (table : List (κ × ν)) (key : κ) (value : ν) (other : κ) :
    (putEntry table key value).lookup other =
      if other = key then some value else table.lookup other := by
  by_cases hkey : key ∈ table.map (·.1)
  · rw [putEntry_of_mem hkey, lookup_map_replace]
    by_cases hother : other = key
    · obtain ⟨entry, hentry, rfl⟩ := List.mem_map.mp hkey
      obtain ⟨old, hold⟩ := Option.isSome_iff_exists.mp (isSome_lookup_of_mem hentry)
      simp [hother, hold]
    · simp [hother]
  · rw [putEntry_of_not_mem hkey, List.lookup_append, lookup_cons_eq_ite]
    by_cases hother : other = key
    · have hnone : table.lookup key = none :=
        List.lookup_eq_none_iff.mpr fun entry hentry =>
          bne_iff_ne.mpr fun heq => hkey (List.mem_map.mpr ⟨entry, hentry, heq.symm⟩)
      simp [hother, hnone]
    · simp [hother]

/-- After a put there are the new entry and those under other keys. -/
theorem mem_putEntry_iff {entry : κ × ν} :
    entry ∈ putEntry table key value ↔ entry = (key, value) ∨ entry.1 ≠ key ∧ entry ∈ table := by
  by_cases hkey : key ∈ table.map (·.1)
  · rw [putEntry_of_mem hkey, List.mem_map]
    obtain ⟨old, hold, rfl⟩ := List.mem_map.mp hkey
    constructor
    · rintro ⟨other, hother, rfl⟩
      by_cases hsame : other.1 = old.1 <;> simp [hsame, hother]
    · rintro (rfl | ⟨hne, hentry⟩)
      · exact ⟨old, hold, by simp⟩
      · exact ⟨entry, hentry, by simp [hne]⟩
  · rw [putEntry_of_not_mem hkey, List.mem_append, List.mem_singleton, or_comm]
    refine or_congr Iff.rfl (iff_and_self.mpr ?_)
    rintro hentry rfl
    exact hkey (List.mem_map.mpr ⟨entry, hentry, rfl⟩)

/-- The table has just these entries under their keys. -/
def Carries (table entries : List (κ × ν)) : Prop :=
  ∀ entry ∈ entries, entry ∈ table ∧ ∀ other ∈ table, other.1 = entry.1 → other = entry

theorem putEntry_eq_self (hentry : (key, value) ∈ table)
    (honly : ∀ other ∈ table, other.1 = key → other = (key, value)) :
    putEntry table key value = table := by
  rw [putEntry_of_mem (List.mem_map.mpr ⟨_, hentry, rfl⟩)]
  conv_rhs => rw [← List.map_id table]
  refine List.map_congr_left fun other hother => ?_
  by_cases hsame : other.1 = key
  · rw [if_pos hsame, honly other hother hsame, id]
  · rw [if_neg hsame, id]

/-- To put in what is there already changes nothing. -/
theorem putEntries_eq_self (hcarries : Carries table entries) :
    putEntries table entries = table := by
  induction entries with
  | nil => rfl
  | cons entry rest ih =>
    obtain ⟨hentry, honly⟩ := hcarries entry List.mem_cons_self
    rw [putEntries, List.foldl_cons, putEntry_eq_self hentry honly]
    exact ih fun other hother => hcarries other (List.mem_cons_of_mem entry hother)

theorem mem_putEntries_of_not_mem {entry : κ × ν} (hkey : entry.1 ∉ entries.map (·.1)) :
    entry ∈ putEntries table entries ↔ entry ∈ table := by
  induction entries generalizing table with
  | nil => rfl
  | cons first rest ih =>
    rw [List.map_cons, List.mem_cons, not_or] at hkey
    rw [putEntries, List.foldl_cons, ← putEntries, ih hkey.2, mem_putEntry_iff]
    constructor
    · rintro (rfl | ⟨_, hentry⟩)
      · exact absurd rfl hkey.1
      · exact hentry
    · exact fun hentry => .inr ⟨hkey.1, hentry⟩

theorem carries_putEntries (hdistinct : (entries.map (·.1)).Nodup) :
    Carries (putEntries table entries) entries := by
  induction entries generalizing table with
  | nil => exact fun _ hentry => absurd hentry List.not_mem_nil
  | cons first rest ih =>
    rw [List.map_cons, List.nodup_cons] at hdistinct
    rw [putEntries, List.foldl_cons, ← putEntries]
    intro entry hentry
    rcases List.mem_cons.mp hentry with rfl | hrest
    · rw [mem_putEntries_of_not_mem hdistinct.1, mem_putEntry_iff]
      refine ⟨.inl rfl, fun other hother hsame => ?_⟩
      rw [mem_putEntries_of_not_mem (hsame ▸ hdistinct.1), mem_putEntry_iff] at hother
      rcases hother with rfl | ⟨hne, _⟩
      · rfl
      · exact absurd hsame hne
    · exact ih hdistinct.2 entry hrest

theorem lookup_putEntries (hdistinct : (entries.map (·.1)).Nodup) (table : List (κ × ν))
    (key : κ) :
    (putEntries table entries).lookup key = (entries.lookup key).or (table.lookup key) := by
  induction entries generalizing table with
  | nil => rfl
  | cons first rest ih =>
    rw [List.map_cons, List.nodup_cons] at hdistinct
    rw [putEntries, List.foldl_cons, ← putEntries, ih hdistinct.2, lookup_putEntry,
      lookup_cons_eq_ite]
    by_cases hkey : key = first.1
    · have hnone : rest.lookup key = none :=
        List.lookup_eq_none_iff.mpr fun entry hentry => bne_iff_ne.mpr fun heq =>
          hdistinct.1 (List.mem_map.mpr ⟨entry, hentry, heq.symm.trans hkey⟩)
      simp [hkey, hkey ▸ hnone]
    · simp [hkey]

/-- The new keys come behind the old ones, in the order of the entries. -/
theorem keys_putEntries (hdistinct : (entries.map (·.1)).Nodup) (table : List (κ × ν)) :
    (putEntries table entries).map (·.1) =
      table.map (·.1) ++ (entries.map (·.1)).filter (· ∉ table.map (·.1)) := by
  induction entries generalizing table with
  | nil => simp [putEntries]
  | cons first rest ih =>
    rw [List.map_cons, List.nodup_cons] at hdistinct
    rw [putEntries, List.foldl_cons, ← putEntries, ih hdistinct.2, keys_putEntry, List.map_cons]
    by_cases hkey : first.1 ∈ table.map (·.1)
    · rw [if_pos hkey, List.filter_cons_of_neg (by simpa using hkey)]
    · rw [if_neg hkey, List.filter_cons_of_pos (by simpa using hkey), List.append_assoc,
        List.singleton_append]
      congr 2
      refine List.filter_congr fun other hother => ?_
      have hne : other ≠ first.1 := fun heq => hdistinct.1 (heq ▸ hother)
      simp [hne]

end AllowPolicy
