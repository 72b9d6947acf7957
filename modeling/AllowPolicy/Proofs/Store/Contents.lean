import AllowPolicy.Proofs.Store.Op

namespace AllowPolicy

namespace Store

/-- The store keeps this rule line in force. -/
def Enacts (store : Store) (text : String) : Prop :=
  ∃ table, store.draft.rules = .present table ∧
    ∃ row ∈ table.rows, row.enacted = 1 ∧ row.text = text

private theorem rows_keeps (db : Database) :
    ∀ answer draft, Store.rows.run db = .ok (answer, draft) → draft = db := by
  obtain ⟨rules, overrides, versioned⟩ := db
  intro answer draft hrun
  cases rules with
  | missing => cases hrun
  | foreign => cases hrun
  | present table =>
    cases hrun
    rfl

private theorem rows_answer {db : Database} {answer : List RuleRow} {draft : Database}
    (hrun : Store.rows.run db = .ok (answer, draft)) :
    ∃ table, db.rules = .present table ∧ answer = table.rows := by
  obtain ⟨rules, overrides, versioned⟩ := db
  cases rules with
  | missing => cases hrun
  | foreign => cases hrun
  | present table =>
    cases hrun
    exact ⟨table, rfl, rfl⟩

/-- The rules in force are read off the draft, or not at all. -/
theorem run_enactedRules (store : Store) :
    (∃ table, store.draft.rules = .present table ∧
      enactedRules.run.run store =
        (.ok ((table.rows.filter (·.enacted = 1)).map fun row => (row.id, row.text)), store)) ∨
      ∃ failure, enactedRules.run.run store = (.error failure, store) := by
  simp only [enactedRules, run_bind]
  rcases run_read "enacted_rules" (rows_keeps store.draft) with
    ⟨answer, _, hrun, hread⟩ | ⟨failure, hread⟩
  · obtain ⟨table, htable, rfl⟩ := rows_answer hrun
    refine .inl ⟨table, htable, ?_⟩
    rw [hread]
    rfl
  · refine .inr ⟨failure, ?_⟩
    rw [hread]

end Store

namespace Engine

/-- A source of rows either gives the lines that the store keeps in force, or fails at once. -/
theorem rows_cases (store : Store) :
    (∃ texts : List String, rows store = texts.map (fun text => .ok (.ofText text)) ∧
      ∀ text, text ∈ texts ↔ store.Enacts text) ∨
      ∃ failure, rows store = [.error failure] := by
  rcases Store.run_enactedRules store with ⟨table, htable, hrun⟩ | ⟨failure, hrun⟩
  · refine .inl ⟨(table.rows.filter (·.enacted = 1)).map (·.text), ?_, fun text => ?_⟩
    · simp [rows, hrun]
    · simp only [Store.Enacts, htable, List.mem_map, List.mem_filter, decide_eq_true_eq]
      constructor
      · rintro ⟨row, ⟨hrow, henacted⟩, htext⟩
        exact ⟨table, rfl, row, hrow, henacted, htext⟩
      · rintro ⟨other, hother, row, hrow, henacted, htext⟩
        cases hother
        exact ⟨row, ⟨hrow, henacted⟩, htext⟩
  · exact .inr ⟨failure, by simp [rows, hrun]⟩

/-- An engine that knows a mail program, on a store with these lines in force. -/
def onLines {ι : Type} (lines : List String) : Engine ι where
  settings := {}
  resolver := .ofTable [("mail", 7), ("root", 0)]
  store := .connect
    { rules := .present { rows := lines.mapIdx fun i text => { id := i + 1, text, enacted := 1 } } }
    true
  toggle := { enabled := true, interval := 5 }

theorem enacts_onLines {ι : Type} (lines : List String) (text : String) :
    (onLines lines : Engine ι).store.Enacts text ↔ text ∈ lines := by
  have htable : (onLines lines : Engine ι).store.draft.rules = .present
      { rows := lines.mapIdx fun i text => { id := i + 1, text, enacted := 1 } } := rfl
  simp only [Store.Enacts, htable, Table.present.injEq, exists_eq_left', List.mem_mapIdx]
  constructor
  · rintro ⟨_, ⟨i, hi, rfl⟩, _, rfl⟩
    exact List.getElem_mem hi
  · intro htext
    obtain ⟨i, hi, rfl⟩ := List.getElem_of_mem htext
    exact ⟨_, ⟨i, hi, rfl⟩, rfl, rfl⟩

end Engine

end AllowPolicy
