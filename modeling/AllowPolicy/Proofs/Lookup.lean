import Mathlib.Data.List.Induction
import Mathlib.Data.List.Nodup

namespace AllowPolicy

section Entries

variable {κ ν : Type} [DecidableEq κ]

/-- The first entry of a key decides. -/
theorem lookup_cons_eq_ite (key owner : κ) (value : ν) (rest : List (κ × ν)) :
    ((owner, value) :: rest).lookup key = if key = owner then some value else rest.lookup key := by
  rw [List.lookup_cons]
  by_cases howner : key = owner
  · simp [howner]
  · have hne : (key == owner) = false := beq_false_of_ne howner
    simp [hne, howner]

/-- With distinct keys there is nothing to decide. -/
theorem lookup_eq_some_iff_mem {entries : List (κ × ν)} (hdistinct : (entries.map (·.1)).Nodup)
    {key : κ} {value : ν} :
    entries.lookup key = some value ↔ (key, value) ∈ entries := by
  induction entries with
  | nil => simp
  | cons entry rest ih =>
    obtain ⟨owner, other⟩ := entry
    rw [List.map_cons, List.nodup_cons] at hdistinct
    rw [lookup_cons_eq_ite, List.mem_cons, Prod.mk.injEq]
    by_cases howner : key = owner
    · subst howner
      have hrest : (key, value) ∉ rest :=
        fun hmem => hdistinct.1 (List.mem_map.mpr ⟨_, hmem, rfl⟩)
      simp [hrest, eq_comm]
    · simp [howner, ih hdistinct.2]

theorem lookup_map_replace (key : κ) (value : ν) (entries : List (κ × ν)) (other : κ) :
    (entries.map fun entry => if entry.1 = key then (key, value) else entry).lookup other =
      if other = key then (entries.lookup other).map fun _ => value else entries.lookup other := by
  induction entries with
  | nil => simp
  | cons entry rest ih =>
    obtain ⟨owner, old⟩ := entry
    rw [List.map_cons]
    by_cases howner : owner = key
    · subst howner
      rw [if_pos rfl, lookup_cons_eq_ite, lookup_cons_eq_ite, ih]
      by_cases hother : other = owner <;> simp [hother]
    · rw [if_neg howner, lookup_cons_eq_ite, lookup_cons_eq_ite, ih]
      by_cases hother : other = owner
      · subst hother
        simp [howner]
      · simp [hother]

theorem lookup_filter_ne (key : κ) (entries : List (κ × ν)) (other : κ) :
    (entries.filter (·.1 ≠ key)).lookup other =
      if other = key then none else entries.lookup other := by
  induction entries with
  | nil => simp
  | cons entry rest ih =>
    obtain ⟨owner, value⟩ := entry
    rw [lookup_cons_eq_ite]
    by_cases howner : owner = key
    · subst howner
      rw [List.filter_cons_of_neg (by simp), ih]
      by_cases hother : other = owner <;> simp [hother]
    · rw [List.filter_cons_of_pos (by simpa using howner), lookup_cons_eq_ite, ih]
      by_cases hother : other = owner
      · subst hother
        simp [howner]
      · simp [hother]

theorem isSome_lookup_of_mem {entries : List (κ × ν)} {entry : κ × ν} (hentry : entry ∈ entries) :
    (entries.lookup entry.1).isSome = true :=
  List.lookup_isSome_iff.mpr ⟨entry, hentry, beq_self_eq_true entry.1⟩

end Entries

/-- An element is followed by such others only: it is the last one, or the last one is such and it
    was before. -/
theorem exists_latest_concat_iff {α : Type} {P : List α → α → Prop} {Q : α → Prop}
    {elements : List α} {last : α} :
    (∃ early found late, elements ++ [last] = early ++ found :: late ∧ P early found ∧
        ∀ later ∈ late, Q later) ↔
      P elements last ∨ (Q last ∧ ∃ early found late, elements = early ++ found :: late ∧
        P early found ∧ ∀ later ∈ late, Q later) := by
  constructor
  · rintro ⟨early, found, late, helements, hfound, hkept⟩
    rcases List.eq_nil_or_concat late with rfl | ⟨rest, final, rfl⟩
    · obtain ⟨rfl, hlast⟩ := List.append_inj' helements rfl
      obtain rfl := List.singleton_inj.mp hlast
      exact .inl hfound
    · rw [List.concat_eq_append, ← List.cons_append, ← List.append_assoc] at helements
      obtain ⟨hbefore, hlast⟩ := List.append_inj' helements rfl
      obtain rfl := List.singleton_inj.mp hlast
      rw [List.concat_eq_append, List.forall_mem_append, List.forall_mem_singleton] at hkept
      exact .inr ⟨hkept.2, early, found, rest, hbefore, hfound, hkept.1⟩
  · rintro (hlast | ⟨hlast, early, found, late, rfl, hfound, hkept⟩)
    · exact ⟨elements, last, [], rfl, hlast, List.forall_mem_nil _⟩
    · refine ⟨early, found, late ++ [last], by simp, hfound, ?_⟩
      rw [List.forall_mem_append, List.forall_mem_singleton]
      exact ⟨hkept, hlast⟩

section EraseDups

variable {α : Type} [DecidableEq α]

/-- Of what comes again only the first stays. -/
theorem eraseDups_concat (front : List α) (a : α) :
    (front ++ [a]).eraseDups = if a ∈ front then front.eraseDups else front.eraseDups ++ [a] := by
  rw [List.eraseDups_append]
  by_cases ha : a ∈ front
  · simp [List.removeAll, ha]
  · have hnew : [a].removeAll front = [a] := by simpa [List.removeAll] using ha
    rw [hnew, if_neg ha]
    rfl

theorem nodup_eraseDups (l : List α) : l.eraseDups.Nodup := by
  induction l using List.reverseRecOn with
  | nil => exact List.nodup_nil
  | append_singleton front a ih =>
    rw [eraseDups_concat]
    split
    · exact ih
    · rename_i hnew
      exact List.nodup_append_comm.mp (List.nodup_cons.mpr ⟨mt List.mem_eraseDups.mp hnew, ih⟩)

end EraseDups

end AllowPolicy
