import AllowPolicy.Store
import Mathlib.Data.List.Induction

namespace AllowPolicy

/-- A row as a rule of the list. -/
def RuleRow.rule (row : RuleRow) : StoredRule := ⟨row.id, row.text, row.enacted ≠ 0⟩

/-- A row that the store has made itself, with a number up to `last`. -/
structure RuleRow.Plain (row : RuleRow) (last : Nat) : Prop where
  one_le : 1 ≤ row.id
  id_le : row.id ≤ last
  flag : row.enacted = 0 ∨ row.enacted = 1
  unstamped : row.stamp = none

namespace RuleTable

/-- The rules of a table, by number. -/
def listing (table : RuleTable) : List StoredRule := table.rows.map RuleRow.rule

/-- What holds of a table that only the store itself has used: its numbers rise from one to the last
    that was given. -/
structure Tidy (table : RuleTable) : Prop where
  sorted : table.rows.Pairwise (·.id < ·.id)
  plain : ∀ row ∈ table.rows, row.Plain table.last
  last_le : (table.last : Int) ≤ greatest

/-- What becomes of a table in time: a number that was given before is still that of the same text,
    or gone for good. -/
structure Follows (before after : RuleTable) : Prop where
  last_le : before.last ≤ after.last
  kept : ∀ row ∈ after.rows, row.id ≤ before.last →
    ∃ old ∈ before.rows, old.id = row.id ∧ old.text = row.text

theorem Follows.refl (table : RuleTable) : Follows table table :=
  ⟨Nat.le_refl _, fun row hrow _ => ⟨row, hrow, rfl, rfl⟩⟩

theorem Follows.trans {first second third : RuleTable} (hfirst : Follows first second)
    (hsecond : Follows second third) : Follows first third := by
  have hlast := hfirst.last_le
  refine ⟨Nat.le_trans hlast hsecond.last_le, fun row hrow hgiven => ?_⟩
  obtain ⟨there, hthere, hid, htext⟩ := hsecond.kept row hrow (by omega)
  obtain ⟨old, hold, holdId, holdText⟩ := hfirst.kept there hthere (by omega)
  exact ⟨old, hold, holdId.trans hid, holdText.trans htext⟩

/-- Rows may be changed or taken out, as long as their numbers and texts stay. -/
theorem Follows.of_rows {before after : RuleTable} (hlast : after.last = before.last)
    (hrows : ∀ row ∈ after.rows, ∃ old ∈ before.rows, old.id = row.id ∧ old.text = row.text) :
    Follows before after :=
  ⟨Nat.le_of_eq hlast.symm, fun row hrow _ => hrows row hrow⟩

theorem tidy_empty : Tidy {} := ⟨.nil, by simp, by decide⟩

variable {table : RuleTable}

/-- The table with a rule under the next number. -/
def append (table : RuleTable) (text : String) (enacted : Int) : RuleTable :=
  { rows := table.rows ++ [{ id := table.last + 1, text, enacted }], last := table.last + 1 }

theorem mem_rows_append {text : String} {enacted : Int} {row : RuleRow}
    (hrow : row ∈ (table.append text enacted).rows) :
    row ∈ table.rows ∨ row = { id := table.last + 1, text, enacted } := by
  simpa [append] using hrow

/-- What the database says when its numbers have run out. -/
def full : Failure := .statement "database or disk is full"

theorem add_of_lt (hroom : (table.last : Int) < greatest) (text : String) (enacted : Int) :
    table.add (some text) enacted = .ok (table.last + 1, table.append text enacted) := by
  unfold add nextId
  rw [if_pos hroom]
  rfl

theorem add_of_le (hfull : greatest ≤ (table.last : Int)) (text : String) (enacted : Int) :
    table.add (some text) enacted = .error full := by
  unfold add nextId
  rw [if_neg (by omega)]
  rfl

theorem Tidy.append (htidy : Tidy table) (hroom : (table.last : Int) < greatest) (text : String)
    {enacted : Int} (hflag : enacted = 0 ∨ enacted = 1) : Tidy (table.append text enacted) where
  sorted := by
    refine List.pairwise_append.mpr ⟨htidy.sorted, List.pairwise_singleton _ _, ?_⟩
    intro old hold new hnew
    obtain rfl := List.mem_singleton.mp hnew
    have hbound := (htidy.plain old hold).id_le
    simp only
    omega
  plain := by
    intro row hrow
    obtain hold | rfl := mem_rows_append hrow
    · obtain ⟨hfirst, hbound, holdFlag, hstamp⟩ := htidy.plain row hold
      refine ⟨hfirst, ?_, holdFlag, hstamp⟩
      simp only [RuleTable.append]
      omega
    · refine ⟨?_, Int.le_refl _, hflag, rfl⟩
      simp only
      omega
  last_le := by
    simp only [RuleTable.append]
    omega

theorem follows_append (table : RuleTable) (text : String) (enacted : Int) :
    Follows table (table.append text enacted) := by
  refine ⟨Nat.le_succ _, fun row hrow hgiven => ?_⟩
  obtain hold | rfl := mem_rows_append hrow
  · exact ⟨row, hold, rfl, rfl⟩
  · simp only at hgiven
    omega

theorem listing_append (table : RuleTable) (text : String) (enacted : Bool) :
    (table.append text enacted.toInt).listing =
      table.listing ++ [⟨table.last + 1, text, enacted⟩] := by
  cases enacted <;> simp [listing, append, RuleRow.rule]

/-- The table with rules in force under the next numbers. -/
def appendAll (table : RuleTable) (texts : List String) : RuleTable :=
  texts.foldl (fun table text => table.append text 1) table

theorem last_appendAll (table : RuleTable) (texts : List String) :
    (table.appendAll texts).last = table.last + texts.length := by
  induction texts generalizing table with
  | nil => rfl
  | cons text rest ih =>
    rw [appendAll, List.foldl_cons, ← appendAll, ih, List.length_cons]
    simp only [append]
    omega

theorem Tidy.appendAll (htidy : Tidy table) {texts : List String}
    (hroom : (table.last : Int) + texts.length ≤ greatest) : Tidy (table.appendAll texts) := by
  induction texts generalizing table with
  | nil => exact htidy
  | cons text rest ih =>
    rw [List.length_cons] at hroom
    refine ih (htidy.append (by omega) text (.inr rfl)) ?_
    simp only [RuleTable.append]
    omega

theorem follows_appendAll (table : RuleTable) (texts : List String) :
    Follows table (table.appendAll texts) := by
  induction texts generalizing table with
  | nil => exact .refl table
  | cons text rest ih => exact (follows_append table text 1).trans (ih _)

theorem listing_appendAll (table : RuleTable) (texts : List String) :
    (table.appendAll texts).listing =
      table.listing ++ texts.mapIdx fun place text => ⟨table.last + 1 + place, text, true⟩ := by
  induction texts using List.reverseRecOn with
  | nil => exact (List.append_nil _).symm
  | append_singleton front text ih =>
    have hlast := last_appendAll table front
    have happend := listing_append (table.appendAll front) text true
    rw [appendAll, List.foldl_append, ← appendAll, List.mapIdx_append, ← List.append_assoc, ← ih]
    refine happend.trans ?_
    rw [hlast]
    simp only [List.mapIdx_cons, List.mapIdx_nil, Nat.zero_add]
    congr 3
    push_cast
    omega

theorem Tidy.clear (htidy : Tidy table) : Tidy table.clear where
  sorted := .nil
  plain row hrow := by cases hrow
  last_le := htidy.last_le

theorem follows_clear (table : RuleTable) : Follows table table.clear :=
  .of_rows rfl fun row hrow => by cases hrow

theorem Tidy.setEnacted (htidy : Tidy table) (id : Int) {enacted : Int}
    (hflag : enacted = 0 ∨ enacted = 1) : Tidy (table.setEnacted id enacted) where
  sorted := by
    have hsame (row : RuleRow) :
        (if row.id = id then { row with enacted } else row).id = row.id := by
      by_cases hid : row.id = id <;> simp [hid]
    refine List.pairwise_map.mpr (htidy.sorted.imp fun hlt => ?_)
    rwa [hsame, hsame]
  plain := by
    intro row hrow
    obtain ⟨old, hold, rfl⟩ := List.mem_map.mp hrow
    obtain ⟨hfirst, hbound, holdFlag, hstamp⟩ := htidy.plain old hold
    by_cases hid : old.id = id
    · rw [if_pos hid]
      exact ⟨hfirst, hbound, hflag, hstamp⟩
    · rw [if_neg hid]
      exact ⟨hfirst, hbound, holdFlag, hstamp⟩
  last_le := htidy.last_le

theorem follows_setEnacted (table : RuleTable) (id enacted : Int) :
    Follows table (table.setEnacted id enacted) := by
  refine .of_rows rfl fun row hrow => ?_
  obtain ⟨old, hold, rfl⟩ := List.mem_map.mp hrow
  by_cases hid : old.id = id
  · exact ⟨old, hold, by simp [hid], by simp [hid]⟩
  · exact ⟨old, hold, by simp [hid], by simp [hid]⟩

theorem listing_setEnacted (table : RuleTable) (id : Int) (enacted : Bool) :
    (table.setEnacted id enacted.toInt).listing =
      table.listing.map fun rule => if rule.id = id then { rule with enacted } else rule := by
  simp only [listing, RuleTable.setEnacted, List.map_map]
  refine List.map_congr_left fun row _ => ?_
  by_cases hid : row.id = id <;> cases enacted <;> simp [RuleRow.rule, hid]

theorem Tidy.delete (htidy : Tidy table) (id : Int) : Tidy (table.delete id) where
  sorted := htidy.sorted.filter _
  plain row hrow := htidy.plain row (List.mem_filter.mp hrow).1
  last_le := htidy.last_le

theorem follows_delete (table : RuleTable) (id : Int) : Follows table (table.delete id) :=
  .of_rows rfl fun row hrow => ⟨row, (List.mem_filter.mp hrow).1, rfl, rfl⟩

theorem listing_delete (table : RuleTable) (id : Int) :
    (table.delete id).listing = table.listing.filter (·.id ≠ id) := by
  simp only [listing, RuleTable.delete, List.filter_map]
  rfl

theorem has_eq (table : RuleTable) (id : Int) : table.has id = table.listing.any (·.id = id) := by
  simp only [has, listing, List.any_map]
  rfl

end RuleTable

end AllowPolicy
