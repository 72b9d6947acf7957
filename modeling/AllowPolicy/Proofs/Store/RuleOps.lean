import AllowPolicy.Proofs.Store.Change
import AllowPolicy.Proofs.Store.RuleTable

namespace AllowPolicy.Store

/-- The store is on a file with this table of rules, and has nothing left to save. -/
structure Holds (store : Store) (table : RuleTable) : Prop where
  saved : store.saved.rules = .present table
  draft : store.Settled
  durable : store.volatile = false
  tidy : table.Tidy

/-- The store with a table of rules that is not saved yet. -/
def draftRules (store : Store) (table : RuleTable) : Store :=
  { store with draft := { store.draft with rules := .present table } }

/-- The store with a table of rules, and everything saved. -/
def saveRules (store : Store) (table : RuleTable) : Store :=
  { store with
    saved := { store.draft with rules := .present table }
    draft := { store.draft with rules := .present table } }

variable {store : Store} {table : RuleTable}

theorem Holds.draft_rules (hholds : Holds store table) : store.draft.rules = .present table := by
  rw [hholds.draft, hholds.saved]

theorem Holds.saveRules (hholds : Holds store table) {after : RuleTable} (htidy : after.Tidy) :
    Holds (store.saveRules after) after :=
  ⟨rfl, rfl, hholds.durable, htidy⟩

theorem bindInt_toInt (id : Int64) : bindInt id.toInt = .ok id.toInt :=
  if_pos ⟨id.le_toInt, id.toInt_lt⟩

theorem bindInt_flag (enacted : Bool) : bindInt enacted.toInt = .ok enacted.toInt := by
  cases enacted <;> rfl

/-- What a statement did is saved, unless the statement is refused. -/
theorem run_write {α : Type} (operation : String) (statement : Database.Statement α)
    (hopen : store.isOpen = true) :
    (write operation statement).run.run store =
      match statement.run store.draft with
      | .ok (answer, draft) => (.ok answer, { store with saved := draft, draft })
      | .error failure => (.error (reported .write operation failure), store) := by
  simp only [write, run_bind, run_tryCatch, run_throw, run_execute _ hopen]
  rcases statement.run store.draft with failure | ⟨answer, draft⟩ <;> rfl

/-- What a statement did stays in the draft if only the saving is refused. -/
theorem run_write_refused {α : Type} (operation : String) (statement : Database.Statement α)
    (message : String) (hopen : store.isOpen = true) :
    (write operation statement (some message)).run.run store =
      match statement.run store.draft with
      | .ok (_, draft) =>
        (.error (reported .write operation (.statement message)), { store with draft })
      | .error failure => (.error (reported .write operation failure), store) := by
  simp only [write, run_bind, run_tryCatch, run_throw, run_execute _ hopen]
  rcases statement.run store.draft with failure | ⟨answer, draft⟩ <;> rfl

-- With room and without are two lemmas: a case split inside the statement would leave the kernel to
-- count up to the bound.
theorem run_insertion [Surrogates] {db : Database} (htable : db.rules = .present table)
    (hroom : (table.last : Int) < RuleTable.greatest) {text : String}
    (hwhole : Text.isWhole text = true) (enacted : Bool) :
    (insertion (.text text) enacted.toInt).run db =
      .ok (table.last + 1, { db with rules := .present (table.append text enacted.toInt) }) := by
  rw [insertion, run_onRules _ _ htable]
  simp only [bindText, bindString_of_isWhole hwhole, bindInt_flag, bind, Except.bind, Functor.map,
    Except.map, RuleTable.add_of_lt hroom]

theorem run_insertion_full [Surrogates] {db : Database} (htable : db.rules = .present table)
    (hfull : RuleTable.greatest ≤ (table.last : Int)) {text : String}
    (hwhole : Text.isWhole text = true) (enacted : Bool) :
    (insertion (.text text) enacted.toInt).run db = .error RuleTable.full := by
  rw [insertion, run_onRules _ _ htable]
  simp only [bindText, bindString_of_isWhole hwhole, bindInt_flag, bind, Except.bind, Functor.map,
    Except.map, RuleTable.add_of_le hfull]

/-- A text in which surrogates stand alone is refused before there is a row. -/
theorem run_insertion_lone [Surrogates] {db : Database} (htable : db.rules = .present table)
    {text : String} (hlone : Text.isWhole text = false) (enacted : Int) :
    (insertion (.text text) enacted).run db = .error (.unencodable (Text.unencodable text)) := by
  rw [insertion, run_onRules _ _ htable, bindText, bindString_of_not_isWhole hlone]
  rfl

theorem run_addRule [Surrogates] (hopen : store.isOpen = true) (hholds : Holds store table)
    (hroom : (table.last : Int) < RuleTable.greatest) {text : String}
    (hwhole : Text.isWhole text = true) (enacted : Bool) :
    (addRule (.text text) enacted.toInt).run.run store =
      (.ok (table.last + 1), store.saveRules (table.append text enacted.toInt)) := by
  rw [addRule, run_write _ _ hopen, run_insertion hholds.draft_rules hroom hwhole]
  rfl

theorem run_addRule_full [Surrogates] (hopen : store.isOpen = true) (hholds : Holds store table)
    (hfull : RuleTable.greatest ≤ (table.last : Int)) {text : String}
    (hwhole : Text.isWhole text = true) (enacted : Bool) :
    (addRule (.text text) enacted.toInt).run.run store =
      (.error (reported .write "add_rule" RuleTable.full), store) := by
  rw [addRule, run_write _ _ hopen, run_insertion_full hholds.draft_rules hfull hwhole]

theorem run_addRule_lone [Surrogates] (hopen : store.isOpen = true)
    (htable : store.draft.rules = .present table) {text : String}
    (hlone : Text.isWhole text = false) (enacted : Int) :
    (addRule (.text text) enacted).run.run store =
      (.error (.unencodable (Text.unencodable text)), store) := by
  rw [addRule, run_write _ _ hopen, run_insertion_lone htable hlone]
  rfl

theorem run_setEnacted (hopen : store.isOpen = true) (hholds : Holds store table) (id : Int64)
    (enacted : Bool) :
    (setEnacted id.toInt enacted.toInt).run.run store =
      (.ok (table.has id.toInt), store.saveRules (table.setEnacted id.toInt enacted.toInt)) := by
  rw [setEnacted, run_write _ _ hopen, run_onRules _ _ hholds.draft_rules, bindInt_toInt,
    bindInt_flag]
  rfl

theorem run_deleteRule (hopen : store.isOpen = true) (hholds : Holds store table) (id : Int64) :
    (deleteRule id.toInt).run.run store =
      (.ok (table.has id.toInt), store.saveRules (table.delete id.toInt)) := by
  rw [deleteRule, run_write _ _ hopen, run_onRules _ _ hholds.draft_rules, bindInt_toInt]
  rfl

/-- Rules are added one after another, and saved if the numbers last. -/
theorem run_inOrder_insertion [Surrogates] {texts : List String}
    (hwhole : ∀ text ∈ texts, Text.isWhole text = true) (hopen : store.isOpen = true)
    (htable : store.draft.rules = .present table) (htidy : table.Tidy) :
    ((table.last : Int) + texts.length ≤ RuleTable.greatest →
        (inOrder (texts.map fun text =>
          discard (execute (insertion (.text text) 1)))).run.run store =
          (.ok (), store.saveRules (table.appendAll texts))) ∧
      (RuleTable.greatest < (table.last : Int) + texts.length → ∃ draft,
        (inOrder (texts.map fun text =>
          discard (execute (insertion (.text text) 1)))).run.run store =
          (.error RuleTable.full, { store with draft })) := by
  induction texts generalizing store table with
  | nil =>
    refine ⟨fun _ => ?_, fun hfull => ?_⟩
    · have hsave : store.saveRules (table.appendAll []) = { store with saved := store.draft } := by
        rw [RuleTable.appendAll, List.foldl_nil, saveRules, ← htable]
      rw [hsave]
      rfl
    · have hlast := htidy.last_le
      simp only [List.length_nil] at hfull
      omega
  | cons text rest ih =>
    obtain ⟨hfirst, hrest⟩ := List.forall_mem_cons.mp hwhole
    simp only [List.map_cons, inOrder, run_bind, run_discard, run_execute _ hopen,
      List.length_cons]
    by_cases hroom : (table.last : Int) < RuleTable.greatest
    · obtain ⟨hsaved, hfull⟩ := @ih (store.draftRules (table.append text 1)) _ hrest hopen rfl
        (htidy.append hroom text (.inr rfl))
      rw [← Bool.toInt_true, run_insertion htable hroom hfirst true, Bool.toInt_true]
      refine ⟨fun hlast => hsaved ?_, fun hlast => hfull ?_⟩
      all_goals
        simp only [RuleTable.append]
        omega
    · -- What was added before stays in the draft, for `replaceRules` to take back.
      have hfull : RuleTable.greatest ≤ (table.last : Int) := by omega
      rw [← Bool.toInt_true, run_insertion_full htable hfull hfirst true]
      refine ⟨fun hlast => ?_, fun _ => ⟨store.draft, rfl⟩⟩
      omega

theorem run_clearing (hopen : store.isOpen = true) (htable : store.draft.rules = .present table) :
    (execute clearing).run.run store = (.ok (), store.draftRules table.clear) := by
  have hclearing : clearing.run store.draft =
      .ok ((), { store.draft with rules := .present table.clear }) := by
    simp only [clearing, StateT.run_bind, StateT.run_get, pure_bind, htable]
    rfl
  rw [run_execute _ hopen, hclearing]
  rfl

theorem run_insertable (hopen : store.isOpen = true) (htable : store.draft.rules = .present table) :
    (execute insertable).run.run store = (.ok (), store) := by
  rw [run_execute _ hopen, insertable, run_onRules _ _ htable]
  simp only [pure, Except.pure, ← htable]

/-- The rules are replaced by all of the new ones, or stay as they are. -/
theorem run_replaceRules [Surrogates] (hopen : store.isOpen = true) (hholds : Holds store table)
    {texts : List String} (hwhole : ∀ text ∈ texts, Text.isWhole text = true) :
    ((table.last : Int) + texts.length ≤ RuleTable.greatest →
        (replaceRules (texts.map Value.text)).run.run store =
          (.ok texts.length, store.saveRules (table.clear.appendAll texts))) ∧
      (RuleTable.greatest < (table.last : Int) + texts.length →
        (replaceRules (texts.map Value.text)).run.run store =
          (.error (reported .write "replace_rules" RuleTable.full), store)) := by
  have hcleared : (store.draftRules table.clear).isOpen = true := hopen
  obtain ⟨hsaved, hfull⟩ := run_inOrder_insertion hwhole hcleared rfl hholds.tidy.clear
  simp only [replaceRules, run_bind, run_get, hopen, Bool.not_true, Bool.false_eq_true, if_false,
    run_pure, forM_commit, run_tryCatch, run_clearing hopen hholds.draft_rules, List.map_map,
    run_insertable hcleared rfl, List.length_map, run_rollback, run_throw]
  refine ⟨fun hroom => ?_, fun hlast => ?_⟩
  · have hrun := hsaved hroom
    simp only [Function.comp_def, hrun]
    rfl
  · obtain ⟨draft, hrun⟩ := hfull hlast
    simp only [Function.comp_def, hrun]
    exact congrArg (Prod.mk _) (Settled.rollback hholds.draft)

/-- A question about the rows leaves the store as it is. -/
theorem run_read_rows (operation : String) (hopen : store.isOpen = true)
    (hholds : Holds store table) :
    (read operation rows).run.run store = (.ok table.rows, store) := by
  simp only [read, run_tryCatch, run_execute _ hopen, rows, run_onRules _ _ hholds.draft_rules,
    pure, Except.pure, ← hholds.draft_rules]

theorem storedRule_of_plain {row : RuleRow} {last : Nat} (hplain : row.Plain last) :
    storedRule row = .ok row.rule := by
  have hfirst : ¬ row.id < StoredRule.firstId := by
    have hone := hplain.one_le
    simp only [StoredRule.firstId]
    omega
  simp only [storedRule, hplain.unstamped, Option.bind_none, StoredRule.make, hfirst, if_false]
  rfl

theorem run_mapM_storedRule {rows : List RuleRow} {last : Nat}
    (hplain : ∀ row ∈ rows, row.Plain last) (store : Store) :
    (rows.mapM fun row => listRules.liftExcept (storedRule row) : Op (List StoredRule)).run.run
      store = (.ok (rows.map RuleRow.rule), store) := by
  induction rows with
  | nil => rfl
  | cons row rest ih =>
    have hfirst := storedRule_of_plain (hplain row List.mem_cons_self)
    have hrest := ih fun other hother => hplain other (List.mem_cons_of_mem row hother)
    rw [List.mapM_cons, run_bind, hfirst, listRules.liftExcept, run_pure]
    simp only [run_bind, hrest, run_pure, List.map_cons]

theorem run_listRules (hopen : store.isOpen = true) (hholds : Holds store table) :
    listRules.run.run store = (.ok table.listing, store) := by
  simp only [listRules, run_bind, run_read_rows _ hopen hholds,
    run_mapM_storedRule hholds.tidy.plain, RuleTable.listing]

theorem run_enactedRules_ok (hopen : store.isOpen = true) (hholds : Holds store table) :
    enactedRules.run.run store =
      (.ok ((table.listing.filter (·.enacted)).map fun rule => (rule.id, rule.text)), store) := by
  have hflags : table.rows.filter (·.enacted = 1) = table.rows.filter (·.rule.enacted) := by
    refine List.filter_congr fun row hrow => ?_
    obtain hoff | hon := (hholds.tidy.plain row hrow).flag
    · simp [RuleRow.rule, hoff]
    · simp [RuleRow.rule, hon]
  simp only [enactedRules, run_bind, run_read_rows _ hopen hholds, run_pure, hflags,
    RuleTable.listing, List.filter_map, List.map_map]
  rfl

end AllowPolicy.Store
