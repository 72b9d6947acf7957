import AllowPolicy.Proofs.Command.Work
import AllowPolicy.Proofs.Value.Written

namespace AllowPolicy.Command

open Run

/-- Some path among the files of a command is none that a system could have. -/
def misfiled (command : Command) : Bool :=
  (command.config?.toList ++ command.database?.toList).any (·.toList.contains '\x00')

/-- How a run ends tells what it left in the workspace, and whether it was stopped. -/
theorem ending_eq_of_run (accounts : List (String × Int)) (workspace : Workspace)
    {run : Run Unit Unit} {result : Except Stop Unit} {after : Session Unit}
    (hrun : run.run.run { workspace, accounts, opened := () } = (result, after)) :
    (run.ending accounts workspace).workspace = after.workspace ∧
      ((run.ending accounts workspace).exit ≠ 0 → ∃ stop, result = .error stop) := by
  unfold Run.ending
  simp only [hrun]
  obtain (exit | failure) | _ := result
  · exact ⟨rfl, fun _ => ⟨_, rfl⟩⟩
  · exact ⟨rfl, fun _ => ⟨_, rfl⟩⟩
  · exact ⟨rfl, fun hexit => absurd rfl hexit⟩

/-- A command ends well and puts out one text, which says this to a program. -/
structure Ending.Tells (ending : Ending) (json : Json) : Prop where
  exit : ending.exit = 0
  failure : ending.failure = none
  output : ∃ text, ending.output = [.text text] ∧ Json.read text = some json

/-- The table of overrides in a place can be reached in the store on it. -/
theorem overrideTable?_connect {workspace : Workspace} {place : Place} {table : OverrideTable}
    (htable : (workspace.stored place).overrides = .present table) :
    (Store.connect (workspace.stored place) false).overrideTable? = some table := by
  refine Store.overrideTable?_eq_some_iff.mpr ⟨rfl, ?_⟩
  rw [Store.draft_connect, Workspace.completed_stored, htable]

private theorem toOption_eq_some_iff {α : Type} (result : Outcome α) (a : α) :
    result.toOption = some a ↔ result = .ok a := by
  cases result <;> simp [Except.toOption]

section Change

variable [Surrogates]

/-- What a command leaves in the store that it works with. -/
def leaves (command : Command) (resolver : Resolver) (store : Store) : Store :=
  match use? command with
  | some (_, leaves) => leaves resolver store
  | none => store

/-- What a command can make of the table of rules: it stays as it is, or has one more rule that was
    checked if it was to be, or has one rule in or out of force. -/
inductive RuleChange (resolver : Resolver) (table : RuleTable) : Command → RuleTable → Prop
  | none {command : Command} : RuleChange resolver table command table
  | added {line enacted check files} (hcheck : check = true → accepts resolver line = true) :
      RuleChange resolver table (.add line enacted check files) (table.append line enacted.toInt)
  | switched {id enacted files} :
      RuleChange resolver table (.enact id enacted files) (table.setEnacted id enacted.toInt)

/-- What a command says about an application: its decision, or none for a removal. Nothing is said
    about a name that cannot be encoded. -/
def override? : Command → Option (String × Option Bool)
  | .override name (some allowed) false _ =>
    if Text.isWhole name then some (name, some allowed) else none
  | .override name none true _ => if Text.isWhole name then some (name, none) else none
  | _ => none

/-- What a command can leave in a store: one table is changed at most. -/
inductive Change (resolver : Resolver) (store : Store) (command : Command) : Store → Prop
  /-- What a command says about an application is lost only where there is no table for it. -/
  | none (hsilent : ∀ table, store.draft.overrides = .present table → command.override? = none) :
      Change resolver store command store
  | rules {table after} (htable : store.draft.rules = .present table)
      (hsilent : command.override? = none) (hchange : RuleChange resolver table command after) :
      Change resolver store command (store.saveRules after)
  | overrides {table} (htable : store.draft.overrides = .present table) :
      Change resolver store command (store.saveOverrides (told table command.override?))

variable {store : Store}

/-- A command that says this about an application, if its name can be encoded, overrides it. -/
theorem change_overridden {command : Command} (hfresh : store.Fresh)
    (resolver : Resolver) {name : String} {change : Option Bool}
    (hsaid : command.override? = if Text.isWhole name then some (name, change) else none) :
    Change resolver store command (overridden name change store) := by
  obtain ⟨table, hpresent, hwhole, hdone⟩ | ⟨hsame, hlone⟩ :=
    overridden_cases hfresh name change
  · rw [if_pos hwhole] at hsaid
    rw [hdone, ← hsaid]
    exact .overrides hpresent
  · rw [hsame]
    refine .none fun table hpresent => ?_
    rw [hsaid, hlone table hpresent]
    rfl

theorem change_leaves (command : Command) (hfresh : store.Fresh) (resolver : Resolver) :
    Change resolver store command (command.leaves resolver store) := by
  cases command with
  | parse | toggle | list | load | query => exact .none fun _ _ => rfl
  | enact id enacted files =>
    simp only [leaves, use?]
    obtain ⟨table, htable, hdone⟩ | ⟨_, hrefused⟩ := hfresh.setEnacted_cases id enacted
    · rw [hdone]
      exact .rules htable rfl .switched
    · rw [hrefused]
      exact .none fun _ _ => rfl
  | add line enacted check files =>
    simp only [leaves, use?, added]
    split
    · exact .none fun _ _ => rfl
    · rename_i hpasses
      obtain ⟨table, htable, _, _, hdone⟩ | ⟨_, hrefused⟩ := hfresh.addRule_cases line enacted
      · rw [hdone]
        exact .rules htable rfl (.added fun hcheck => by simpa [hcheck] using hpasses)
      · rw [hrefused]
        exact .none fun _ _ => rfl
  | override name allow clear files =>
    obtain _ | allowed := allow <;> cases clear
    · exact .none fun _ _ => rfl
    · have hsaid : (Command.override name none true files).override? =
          if Text.isWhole name then some (name, none) else none := by rw [override?]
      exact change_overridden hfresh resolver hsaid
    · have hsaid : (Command.override name (some allowed) false files).override? =
          if Text.isWhole name then some (name, some allowed) else none := by rw [override?]
      exact change_overridden hfresh resolver hsaid
    · exact .none fun _ _ => rfl

/-- What is opened lasts as long as it would have lasted unused. -/
theorem volatile_leaves (command : Command) (hfresh : store.Fresh) (resolver : Resolver) :
    (command.leaves resolver store).volatile = store.volatile := by
  have hchange := change_leaves command hfresh resolver
  generalize command.leaves resolver store = after at hchange ⊢
  cases hchange <;> rfl

/-- The database that a command leaves in the file that it opened. -/
def kept (command : Command) (resolver : Resolver) (db : Database) : Database :=
  (command.leaves resolver (.connect db false)).saved

end Change

section Target

variable [Surrogates] [Yaml.Reads] {command : Command} {files : Files}
  {work : Resolver → Store → Store}

/-- The settings that a command works with, and the place of the file whose database it opens.
    Nothing if it opens none. -/
def target? (command : Command) (workspace : Workspace) : Option (Settings × Place) := do
  guard !command.misfiled
  let (files, _) ← use? command
  let settings ← (settingsOf files workspace).toOption
  guard ((Path.ofText settings.database).shown ≠ Workspace.inMemory)
  let (place, _) ← (workspace.database (.ofText settings.database)).toOption
  pure (settings, place)

theorem target?_eq_some_iff {workspace : Workspace} {settings : Settings} {place : Place} :
    command.target? workspace = some (settings, place) ↔
      command.misfiled = false ∧ ∃ files, (∃ work, use? command = some (files, work)) ∧
        settingsOf files workspace = .ok settings ∧
        (Path.ofText settings.database).shown ≠ Workspace.inMemory ∧
        ∃ db, workspace.database (.ofText settings.database) = .ok (place, db) := by
  simp [target?, toOption_eq_some_iff, Option.bind_eq_some_iff, guard]

/-- The store that a command opens is the one on what is stored in its place. -/
theorem storeOf?_of_target? {workspace : Workspace} {settings : Settings} {place : Place}
    (huse : use? command = some (files, work))
    (htarget : command.target? workspace = some (settings, place)) :
    storeOf? files workspace = some (settings, .connect (workspace.stored place) false) := by
  obtain ⟨_, _, ⟨_, huse'⟩, hread, hfile, db, hfound⟩ := target?_eq_some_iff.mp htarget
  rw [huse] at huse'
  cases huse'
  obtain ⟨_, _, hcontent, _⟩ := Workspace.database_eq_ok_iff.mp hfound
  refine storeOf?_eq_some_iff.mpr ⟨hread, ?_⟩
  refine Workspace.openStore_eq_ok_iff.mpr (.inr ⟨hfile, place, db, hfound, ?_⟩)
  rw [← Workspace.completed_of_content? hcontent]
  exact Workspace.connect_congr db.completed_completed false

/-- A command that opens a store has no target if the store is in memory. Else its store is the one
    on what is stored in its place, and is kept there. -/
theorem target?_cases {workspace : Workspace} {settings : Settings} {store : Store}
    (hmisfiled : command.misfiled = false) (huse : use? command = some (files, work))
    (hopens : storeOf? files workspace = some (settings, store)) :
    (command.target? workspace = none ∧ store = .connect {} true) ∨
      ∃ place, command.target? workspace = some (settings, place) ∧
        store = .connect (workspace.stored place) false ∧
        ∀ after : Store, after.volatile = false →
          workspace.keepStore (.ofText settings.database) after =
            workspace.put place (.database after.saved) := by
  obtain ⟨hread, hopen⟩ := storeOf?_eq_some_iff.mp hopens
  obtain ⟨_, rfl⟩ | ⟨hfile, place, db, hfound, rfl⟩ := Workspace.openStore_eq_ok_iff.mp hopen
  · refine .inl ⟨Option.eq_none_iff_forall_ne_some.mpr fun target htarget => ?_, rfl⟩
    have hsame := hopens.symm.trans (storeOf?_of_target? huse htarget)
    cases congrArg (·.2.volatile) (Option.some.inj hsame)
  · have htarget : command.target? workspace = some (settings, place) :=
      target?_eq_some_iff.mpr ⟨hmisfiled, files, ⟨work, huse⟩, hread, hfile, db, hfound⟩
    have hsame := hopens.symm.trans (storeOf?_of_target? huse htarget)
    refine .inr ⟨place, htarget, congrArg Prod.snd (Option.some.inj hsame), ?_⟩
    intro after hlasts
    rw [Workspace.keepStore, hlasts, hfound]
    rfl

variable [Console]

theorem ends_run_of_misfiled (hmisfiled : command.misfiled = true) : Ends command.run := by
  unfold misfiled at hmisfiled
  simp only [run, hmisfiled, if_true]
  exact (ends_throw _).bind _

/-- A command whose files can be named does what comes after the check of their names. -/
theorem run_of_filed {body : Run Unit Unit} (hfiled : command.misfiled = false)
    (hrun : command.run =
      if command.misfiled then
        (throw (.crash (.badValue "embedded null byte")) : Run Unit Unit) >>= fun _ => body
      else body) : command.run = body := by
  rw [hrun, if_neg (by simp [hfiled])]

/-- A command without a use of the store only shows something. -/
theorem shows_run (huse : use? command = none) : Shows command.run := by
  cases hmisfiled : command.misfiled with
  | true => exact (ends_run_of_misfiled hmisfiled).shows
  | false =>
    unfold misfiled at hmisfiled
    simp only [run, hmisfiled, Bool.false_eq_true, if_false]
    cases command with
    | parse line config json => exact shows_parse line config json
    | toggle count interval config => exact shows_toggle count interval config
    | override name allow clear files =>
      obtain _ | allowed := allow <;> cases clear
      · exact ((ends_refuse _).bind _).shows
      · cases huse
      · cases huse
      · exact ((ends_refuse _).bind _).shows
    | add line enacted check files => cases huse
    | list files json => cases huse
    | enact id enacted files => cases huse
    | load files json => cases huse
    | query name on default files json => cases huse

/-- Every command with a use of the store makes this use of it. -/
theorem does_run (hmisfiled : command.misfiled = false) (huse : use? command = some (files, work)) :
    Does command.run files work command.Confirms := by
  unfold misfiled at hmisfiled
  simp only [run, hmisfiled, Bool.false_eq_true, if_false]
  cases command with
  | parse line config json => cases huse
  | toggle count interval config => cases huse
  | add line enacted check files =>
    cases huse
    exact does_add line enacted check files
  | list files json =>
    cases huse
    exact does_list files json
  | enact id enacted files =>
    cases huse
    exact does_enact id enacted files
  | load files json =>
    cases huse
    exact does_load files json
  | query name on default files json =>
    cases huse
    exact does_query name on default files json
  | override name allow clear files =>
    obtain _ | allowed := allow <;> cases clear
    · cases huse
    · cases huse
      exact does_override name none files
    · cases huse
      exact does_override name (some allowed) files
    · cases huse

/-- A command that opens no file only shows something. Any other keeps its work in the file, which
    is what was there before if the command is stopped and its confirmation could be shown. -/
theorem run_cases (command : Command) (session : Session Unit) :
    (command.target? session.workspace = none ∧
        ∃ result output, command.run.run.run session = (result, { session with output })) ∨
      ∃ settings place result output,
        command.target? session.workspace = some (settings, place) ∧
        command.run.run.run session =
          (result, { session with
            output
            workspace := session.workspace.put place (.database
              (command.kept (settings.resolver session.accounts)
                (session.workspace.stored place))) }) ∧
        ∀ stop, result = .error stop → command.Confirms →
          command.kept (settings.resolver session.accounts) (session.workspace.stored place) =
            session.workspace.stored place := by
  cases hmisfiled : command.misfiled with
  | true =>
    obtain ⟨stop, output, hrun⟩ := ends_run_of_misfiled hmisfiled session
    refine .inl ⟨?_, .error stop, output, hrun⟩
    rw [target?, hmisfiled]
    rfl
  | false =>
    cases huse : use? command with
    | none =>
      obtain ⟨result, output, hrun⟩ := shows_run huse session
      refine .inl ⟨?_, result, output, hrun⟩
      rw [target?, hmisfiled, huse]
      rfl
    | some use =>
      obtain ⟨files, work⟩ := use
      have hleaves : work = command.leaves := by
        funext resolver store
        simp only [leaves, huse]
      obtain ⟨hnone, stop, output, hrun⟩ |
        ⟨settings, store, result, output, hopens, hrun, hsaved⟩ := does_run hmisfiled huse session
      · refine .inl
          ⟨Option.eq_none_iff_forall_ne_some.mpr fun target htarget => ?_, _, output, hrun⟩
        rw [storeOf?_of_target? huse htarget] at hnone
        cases hnone
      · rw [hleaves] at hrun hsaved
        have hvolatile := volatile_leaves command (fresh_of_storeOf? hopens)
          (settings.resolver session.accounts)
        obtain ⟨hnone, rfl⟩ | ⟨place, htarget, rfl, hkeep⟩ :=
          target?_cases hmisfiled huse hopens
        · -- A store in memory is gone with the command, so nothing is kept.
          have hmemory : (command.leaves (settings.resolver session.accounts)
              (.connect {} true)).volatile = true := hvolatile
          refine .inl ⟨hnone, result, output, ?_⟩
          rw [hrun, Workspace.keepStore, if_pos hmemory]
        · refine .inr ⟨settings, place, result, output, htarget, ?_, fun stop hstop hconfirms => ?_⟩
          · rw [hrun, hkeep _ hvolatile]
            rfl
          · exact (hsaved stop hstop hconfirms).trans (Workspace.completed_stored _ _)

variable {α : Type} {workspace : Workspace} {settings : Settings} {place : Place}
  {body : Run (Engine Unit) α}

/-- What a part of a command finds out in the database of a place is told. -/
theorem tells_usingStore (accounts : List (String × Int)) (rest : α → Run Unit Unit)
    (huse : use? command = some (files, work))
    (htarget : command.target? workspace = some (settings, place)) {a : α}
    (hbody : ∀ toggle, ∃ engine, body.run.run {
        workspace, accounts
        opened := engineOf settings accounts (.connect (workspace.stored place) false) toggle } =
      (.ok a, { workspace, accounts, opened := engine }))
    {text : String} (hrest : rest a = put (.text text)) {json : Json}
    (hread : Json.read text = some json) :
    ((usingStore files body >>= rest).ending accounts workspace).Tells json := by
  obtain ⟨toggle, hrun⟩ := run_usingStore { workspace, accounts, opened := () }
    (storeOf?_of_target? huse htarget) body
  obtain ⟨engine, hbody⟩ := hbody toggle
  rw [hbody] at hrun
  simp only [Run.ending, run_bind, hrun, hrest]
  exact ⟨rfl, rfl, text, rfl, hread⟩

/-- A part of a command that works with the store of its files comes to what its body comes to. -/
theorem fst_run_usingStore (accounts : List (String × Int))
    (huse : use? command = some (files, work))
    (htarget : command.target? workspace = some (settings, place)) (body : Run (Engine Unit) α) :
    ∃ toggle, ((usingStore files body).run.run { workspace, accounts, opened := () }).1 =
      (body.run.run {
        workspace, accounts
        opened :=
          engineOf settings accounts (.connect (workspace.stored place) false) toggle }).1 := by
  obtain ⟨toggle, hrun⟩ := run_usingStore { workspace, accounts, opened := () }
    (storeOf?_of_target? huse htarget) body
  refine ⟨toggle, ?_⟩
  rw [hrun]
  rfl

end Target

end AllowPolicy.Command
