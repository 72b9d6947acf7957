import AllowPolicy.Proofs.Command.Ending

namespace AllowPolicy.Command

open Run

/-- A command line, and the workspace that it finds. -/
structure Call where
  args : List String
  workspace : Workspace

section Kept

variable [Surrogates] {db : Database}

theorem exists_rules_kept (command : Command) (resolver : Resolver) {table : RuleTable}
    (htable : db.rules = .present table) :
    ∃ after, (command.kept resolver db).rules = .present after ∧
      RuleChange resolver table command after := by
  have hcompleted : (Store.connect db false).draft.rules = .present table := by
    simp [Store.connect, Database.completed, htable, Table.orNew]
  have hchange := change_leaves command (Store.fresh_connect db false) resolver
  unfold kept
  generalize command.leaves resolver (.connect db false) = store at hchange ⊢
  cases hchange with
  | none => exact ⟨table, hcompleted, .none⟩
  | rules hfound _ hchange =>
    rw [hcompleted] at hfound
    cases hfound
    exact ⟨_, rfl, hchange⟩
  | overrides => exact ⟨table, hcompleted, .none⟩

theorem overrides_kept (command : Command) (resolver : Resolver) {table : OverrideTable}
    (htable : db.overrides = .present table) :
    (command.kept resolver db).overrides = .present (told table command.override?) := by
  have hcompleted : (Store.connect db false).draft.overrides = .present table := by
    simp [Store.connect, Database.completed, htable, Table.orNew]
  have hchange := change_leaves command (Store.fresh_connect db false) resolver
  unfold kept
  generalize command.leaves resolver (.connect db false) = store at hchange ⊢
  cases hchange with
  | none hsilent =>
    rw [hsilent table hcompleted]
    exact hcompleted
  | rules _ hsilent _ =>
    rw [hsilent]
    exact hcompleted
  | overrides hfound =>
    rw [hcompleted] at hfound
    cases hfound
    rfl

variable (accounts : List (String × Int))

/-- The database after commands worked on it one after another. -/
def worked (works : List (Command × Settings)) (db : Database) : Database :=
  works.foldl (fun db work => (work.1.kept (work.2.resolver accounts) db).completed) db

theorem worked_concat (works : List (Command × Settings)) (work : Command × Settings)
    (db : Database) :
    worked accounts (works ++ [work]) db =
      (work.1.kept (work.2.resolver accounts) (worked accounts works db)).completed := by
  simp [worked]

end Kept

section Calls

variable [Surrogates] [Yaml.Reads] (accounts : List (String × Int))

/-- The command of a call that works on the database in a place, and its settings. -/
def Call.worksOn? (place : Place) (call : Call) : Option (Command × Settings) :=
  match request call.args with
  | .command command =>
    match command.target? call.workspace with
    | some (settings, found) => if found = place then some (command, settings) else none
    | none => none
  | _ => none

/-- The commands among calls that worked on the database in a place, in order. -/
def works (place : Place) (calls : List Call) : List (Command × Settings) :=
  calls.filterMap (·.worksOn? place)

variable [Console]

/-- Command lines one after another, each with the workspace that the ones before it left. -/
def calls (workspace : Workspace) : List (List String) → List Call
  | [] => []
  | args :: rest => ⟨args, workspace⟩ :: calls (execute args accounts workspace).workspace rest

/-- The workspace after command lines one after another. -/
def after (workspace : Workspace) (lines : List (List String)) : Workspace :=
  lines.foldl (fun workspace args => (execute args accounts workspace).workspace) workspace

/-- A command changes only the place of the file that it opens. -/
theorem stored_ending (command : Command) (workspace : Workspace) (place : Place) :
    (command.run.ending accounts workspace).workspace.stored place =
      match command.target? workspace with
      | some (settings, found) =>
        if found = place then
          (command.kept (settings.resolver accounts) (workspace.stored place)).completed
        else workspace.stored place
      | none => workspace.stored place := by
  obtain ⟨htarget, result, output, hrun⟩ | ⟨settings, found, result, output, htarget, hrun, _⟩ :=
    command.run_cases { workspace, accounts, opened := () }
  · simp only [htarget]
    rw [(ending_eq_of_run accounts workspace hrun).1]
  · obtain ⟨_, _, _, _, _, db, hfound⟩ := target?_eq_some_iff.mp htarget
    obtain ⟨_, _, hcontent, _⟩ := Workspace.database_eq_ok_iff.mp hfound
    simp only [htarget]
    rw [(ending_eq_of_run accounts workspace hrun).1,
      Workspace.stored_put (Workspace.isOuter_of_content? hcontent)]
    by_cases hplace : found = place
    · rw [if_pos hplace.symm, if_pos hplace, hplace]
    · rw [if_neg (Ne.symm hplace), if_neg hplace]

/-- A command line changes a place only by a command that works on the database there. -/
theorem stored_execute (args : List String) (workspace : Workspace) (place : Place) :
    (execute args accounts workspace).workspace.stored place =
      worked accounts (Call.worksOn? place ⟨args, workspace⟩).toList (workspace.stored place) := by
  unfold execute Call.worksOn?
  cases hrequest : request args with
  | misused => rfl
  | help => rfl
  | version =>
    obtain ⟨result, output, hrun⟩ :=
      shows_say (σ := Unit) versionLine { workspace, accounts, opened := () }
    rw [(ending_eq_of_run accounts workspace hrun).1]
    rfl
  | command command =>
    refine (stored_ending accounts command workspace place).trans ?_
    simp only
    cases htarget : command.target? workspace with
    | none => rfl
    | some target =>
      by_cases hplace : target.2 = place
      · simp only [if_pos hplace]
        rfl
      · simp only [if_neg hplace]
        rfl

/-- What is stored in a place is what the commands that worked on it made of what was there. -/
theorem stored_after (lines : List (List String)) (workspace : Workspace) (place : Place) :
    (after accounts workspace lines).stored place =
      worked accounts (works place (calls accounts workspace lines)) (workspace.stored place) := by
  induction lines generalizing workspace with
  | nil => rfl
  | cons args rest ih =>
    have hafter : after accounts workspace (args :: rest) =
        after accounts (execute args accounts workspace).workspace rest := rfl
    rw [hafter, ih, stored_execute]
    simp only [works, calls, List.filterMap_cons, worked, ← List.foldl_append]
    cases Call.worksOn? place ⟨args, workspace⟩ <;> rfl

end Calls

end AllowPolicy.Command
