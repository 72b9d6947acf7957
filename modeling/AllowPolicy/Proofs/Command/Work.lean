import AllowPolicy.Proofs.Command.Confirmation
import AllowPolicy.Proofs.Command.Session
import AllowPolicy.Proofs.Engine.Refresh
import AllowPolicy.Proofs.Store.Fresh
import AllowPolicy.Proofs.Workspace.Stored

namespace AllowPolicy.Command

open Run

variable {α : Type}

/-- The check before a line is stored finds a rule in it. -/
def accepts [Surrogates] (resolver : Resolver) (line : String) : Bool :=
  match (RuleLine.parseStrict resolver line).value with
  | .ok (some _) => true
  | _ => false

theorem run_checkLine_of_accepts [Surrogates] [Console] {line : String}
    (session : Session (Engine Unit)) (haccepts : accepts session.opened.resolver line = true) :
    (checkLine line).run.run session = (.ok (), session) := by
  simp only [checkLine, run_bind, run_get]
  unfold accepts at haccepts
  split at haccepts
  · rename_i hparse
    rw [hparse]
    rfl
  · cases haccepts

theorem run_checkLine_of_not_accepts [Surrogates] [Console] {line : String}
    (session : Session (Engine Unit)) (hrefuses : accepts session.opened.resolver line = false) :
    ∃ stop output, (checkLine line).run.run session = (.error stop, { session with output }) := by
  simp only [checkLine, run_bind, run_get]
  cases hparse : (RuleLine.parseStrict session.opened.resolver line).value with
  | error failure =>
    obtain ⟨stop, output, hrun⟩ := ends_expectOr (σ := Engine Unit) (α := Option ScopedRule)
      "Refusing rule: " failure session
    exact ⟨stop, output, by simp only [hrun]⟩
  | ok rule =>
    cases rule with
    | none => exact ends_refuse _ session
    | some entry =>
      rw [accepts, hparse] at hrefuses
      cases hrefuses

/-- What an action of an engine does with the store is this use of it. -/
def Uses (action : Act (Engine Unit) (Outcome α)) (op : Store.Op α) : Prop :=
  ∀ engine : Engine Unit, engine.lock = {} →
    ∃ after, (action.run engine).value = ((op.run.run engine.store).1, after) ∧
      after.store = (op.run.run engine.store).2

theorem uses_exclusively (op : Store.Op α) : Uses (Engine.exclusively () op) op := by
  intro engine hunused
  exact ⟨_, Engine.exclusively_unused () op hunused, rfl⟩

theorem uses_onStore (op : Store.Op α) : Uses (Engine.onStore op) op :=
  fun _ _ => ⟨_, rfl, rfl⟩

theorem uses_setOverride [Surrogates] (name : Option String) (verdict : Verdict) :
    Uses (Engine.setOverride name verdict) (Store.setOverride name verdict.toInt) := by
  intro engine _
  rcases hrun : (Store.setOverride name verdict.toInt).run.run engine.store with
    ⟨failure | answer, after⟩
  · exact ⟨{ engine with store := after }, by simp [Engine.setOverride, Engine.onStore, hrun], rfl⟩
  · exact ⟨{ engine with store := after, overrides := engine.overrides.set name verdict },
      by simp [Engine.setOverride, Engine.onStore, hrun], rfl⟩

theorem uses_removeOverride [Surrogates] (name : Option String) :
    Uses (Engine.removeOverride name) (Store.removeOverride name) := by
  intro engine _
  rcases hrun : (Store.removeOverride name).run.run engine.store with ⟨failure | removed, after⟩
  · exact ⟨{ engine with store := after },
      by simp [Engine.removeOverride, Engine.onStore, hrun], rfl⟩
  · exact ⟨{ engine with store := after, overrides := engine.overrides.remove name },
      by simp [Engine.removeOverride, Engine.onStore, hrun], rfl⟩

/-- What a body leaves in the store of its engine. Where it ends the command, it has saved
    nothing new, as long as the console confirms what was done. -/
def Works (body : Run (Engine Unit) α) (leaves : Resolver → Store → Store) (confirms : Prop) :
    Prop :=
  ∀ session, session.opened.lock = {} → session.opened.store.Fresh →
    ∃ result output engine,
      body.run.run session = (result, { session with output, opened := engine }) ∧
      engine.store = leaves session.opened.resolver session.opened.store ∧
      ∀ stop, result = .error stop → confirms →
        engine.store.saved = session.opened.store.saved

variable {confirms : Prop}

theorem Works.bind {β : Type} {body : Run (Engine Unit) α} {leaves : Resolver → Store → Store}
    (hworks : Works body leaves confirms) {next : α → Run (Engine Unit) β}
    (hshows : ∀ a, Shows (next a)) (hpasses : confirms → ∀ a, Passes (next a)) :
    Works (body >>= next) leaves confirms := by
  intro session hunused hfresh
  obtain ⟨result, output, engine, hrun, hstore, hsaved⟩ := hworks session hunused hfresh
  rw [run_bind, hrun]
  cases result with
  | error stop =>
    exact ⟨.error stop, output, engine, rfl, hstore, fun _ _ => hsaved stop rfl⟩
  | ok a =>
    obtain ⟨result, later, hnext⟩ := hshows a { session with output, opened := engine }
    refine ⟨result, later, engine, hnext, hstore, fun stop hstop hconfirms => ?_⟩
    obtain ⟨_, _, hpass⟩ := hpasses hconfirms a { session with output, opened := engine }
    rw [hpass] at hnext
    cases hnext
    cases hstop

section Console

variable [Console]

/-- Lets the engine act, and ends the command if that fails. -/
def perform (action : Act (Engine Unit) (Outcome α)) : Run (Engine Unit) α := do
  expectOr "" (← act action)

variable {action : Act (Engine Unit) (Outcome α)} {op : Store.Op α}

/-- The command goes on with the answer of the store, or ends. -/
theorem run_perform (huses : Uses action op) (session : Session (Engine Unit))
    (hunused : session.opened.lock = {}) :
    ∃ engine, engine.store = (op.run.run session.opened.store).2 ∧
      (perform action).run.run session =
        (expectOr "" (op.run.run session.opened.store).1).run.run
          { session with opened := engine } := by
  obtain ⟨engine, hact, hstore⟩ := huses session.opened hunused
  refine ⟨engine, hstore, ?_⟩
  simp only [perform, run_bind, run_act, hact]

theorem run_perform_ok (huses : Uses action op) (session : Session (Engine Unit))
    (hunused : session.opened.lock = {}) {answer : α} {after : Store}
    (hop : op.run.run session.opened.store = (.ok answer, after)) :
    ∃ engine, engine.store = after ∧
      (perform action).run.run session = (.ok answer, { session with opened := engine }) := by
  obtain ⟨engine, hstore, hrun⟩ := run_perform huses session hunused
  rw [hop] at hstore hrun
  exact ⟨engine, hstore, hrun⟩

theorem run_perform_error (huses : Uses action op) (session : Session (Engine Unit))
    (hunused : session.opened.lock = {}) {failure : Failure} {after : Store}
    (hop : op.run.run session.opened.store = (.error failure, after)) :
    ∃ stop output engine, engine.store = after ∧
      (perform action).run.run session =
        (.error stop, { session with output, opened := engine }) := by
  obtain ⟨engine, hstore, hrun⟩ := run_perform huses session hunused
  rw [hop] at hstore hrun
  obtain ⟨stop, output, hends⟩ := ends_expectOr (σ := Engine Unit) (α := α) "" failure
    { session with opened := engine }
  exact ⟨stop, output, engine, hstore, hrun.trans hends⟩

/-- A use of the store that saves nothing when it fails. -/
theorem works_perform (huses : Uses action op)
    (hatomic : ∀ store failure after, store.Fresh → op.run.run store = (.error failure, after) →
      after = store) :
    Works (perform action) (fun _ store => (op.run.run store).2) confirms := by
  intro session hunused hfresh
  rcases hop : op.run.run session.opened.store with ⟨failure | answer, after⟩
  · obtain ⟨stop, output, engine, hstore, hrun⟩ := run_perform_error huses session hunused hop
    have hsame := hatomic _ _ _ hfresh hop
    refine ⟨.error stop, output, engine, hrun, ?_, fun _ _ _ => by rw [hstore, hsame]⟩
    simp only [hstore, hop]
  · obtain ⟨engine, hstore, hrun⟩ := run_perform_ok huses session hunused hop
    refine ⟨.ok answer, session.output, engine, hrun, ?_, fun _ hstop => by cases hstop⟩
    simp only [hstore, hop]

/-- A question. -/
theorem works_question (huses : Uses action op) (hkeeps : ∀ store, (op.run.run store).2 = store) :
    Works (perform action) (fun _ store => store) confirms := by
  have hworks : Works (perform action) (fun _ store => (op.run.run store).2) confirms :=
    works_perform huses fun store failure after _ hfailed => by rw [← hkeeps store, hfailed]
  simpa only [hkeeps] using hworks

end Console

/-- Stores a line. -/
def storing [Surrogates] [Console] (line : String) (enacted : Bool) : Run (Engine Unit) Unit := do
  let id ← perform (Engine.addRule () (.text line) enacted.toInt)
  say (green "✓" ++ " Stored rule [bold]" ++ toString id ++ "[/bold]")

theorem works_storing [Surrogates] [Console] (line : String) (enacted : Bool) :
    Works (storing line enacted)
      (fun _ store => ((Store.addRule (.text line) enacted.toInt).run.run store).2)
      (∀ id, Displays (storedMarks id)) := by
  refine (works_perform (uses_exclusively _) fun store failure after hfresh hfailed => ?_).bind
    (fun _ => shows_say _) fun hconfirms id => (hconfirms id).passes
  obtain ⟨_, _, _, _, hdone⟩ | ⟨_, hrefused⟩ := hfresh.addRule_cases line enacted
  · rw [hdone] at hfailed
    cases hfailed
  · rw [hrefused] at hfailed
    exact (Prod.mk.inj hfailed).2.symm

/-- Stores a line, if it is to be checked only one with a rule. -/
def adding [Surrogates] [Console] (line : String) (enacted check : Bool) :
    Run (Engine Unit) Unit := do
  if check then checkLine line
  storing line enacted

/-- What the command to add a line leaves. -/
def added [Surrogates] (line : String) (enacted check : Bool) (resolver : Resolver)
    (store : Store) : Store :=
  if check && !accepts resolver line then store
  else ((Store.addRule (.text line) enacted.toInt).run.run store).2

theorem works_adding [Surrogates] [Console] (line : String) (enacted check : Bool) :
    Works (adding line enacted check) (added line enacted check)
      (∀ id, Displays (storedMarks id)) := by
  intro session hunused hfresh
  have hstores := works_storing line enacted session hunused hfresh
  unfold added
  cases check with
  | false =>
    have hadding : adding line enacted false = storing line enacted := rfl
    rw [hadding]
    exact hstores
  | true =>
    have hadding : adding line enacted true =
        (checkLine line >>= fun _ => storing line enacted) := rfl
    rw [hadding, run_bind]
    cases haccepts : accepts session.opened.resolver line with
    | true =>
      rw [run_checkLine_of_accepts session haccepts]
      exact hstores
    | false =>
      obtain ⟨stop, output, hrun⟩ := run_checkLine_of_not_accepts session haccepts
      rw [hrun]
      exact ⟨.error stop, output, session.opened, rfl, rfl, fun _ _ _ => rfl⟩

/-- Puts a rule in or out of force. -/
def switching [Console] (id : Int) (enacted : Bool) : Run (Engine Unit) Unit := do
  let found ← perform (Engine.setEnacted () id enacted.toInt)
  if !found then refuse ("Rule not found: " ++ toString id)

theorem works_switching [Console] (id : Int) (enacted : Bool) {confirms : Prop} :
    Works (switching id enacted)
      (fun _ store => ((Store.setEnacted id enacted.toInt).run.run store).2) confirms := by
  intro session hunused hfresh
  obtain ⟨table, htable, hop⟩ | ⟨failure, hop⟩ := hfresh.setEnacted_cases id enacted
  · obtain ⟨engine, hstore, hrun⟩ := run_perform_ok (uses_exclusively _) session hunused hop
    simp only [switching, run_bind, Engine.setEnacted, hrun, hop]
    cases hhas : table.has id with
    | true => exact ⟨.ok (), session.output, engine, rfl, hstore, fun _ hstop => by cases hstop⟩
    | false =>
      obtain ⟨stop, output, hrefuse⟩ := ends_refuse (σ := Engine Unit) (α := Unit)
        ("Rule not found: " ++ toString id) { session with opened := engine }
      refine ⟨.error stop, output, engine, hrefuse, hstore, fun _ _ _ => ?_⟩
      rw [hstore]
      exact hfresh.saved_of_not_has htable hhas _
  · obtain ⟨stop, output, engine, hstore, hrun⟩ :=
      run_perform_error (uses_exclusively _) session hunused hop
    simp only [switching, run_bind, Engine.setEnacted, hrun, hop]
    exact ⟨.error stop, output, engine, rfl, hstore, fun _ _ _ => by rw [hstore]⟩

/-- Sets or removes an override, and tells what came of it. -/
def overriding [Surrogates] [Console] (name : String) (change : Option Bool) :
    Run (Engine Unit) String :=
  match change with
  | some allowed => do
    perform (Engine.setOverride (some name) (.flag allowed))
    pure (if allowed then " -> allow" else " -> deny")
  | none => do
    let removed ← perform (Engine.removeOverride (some name))
    pure (if removed then " cleared" else " had no override")

/-- What the command to override leaves. -/
def overridden [Surrogates] (name : String) (change : Option Bool) (store : Store) : Store :=
  match change with
  | some allowed => ((Store.setOverride (some name) (Verdict.flag allowed).toInt).run.run store).2
  | none => ((Store.removeOverride (some name)).run.run store).2

/-- A table of overrides after a command said something. -/
def told (table : OverrideTable) : Option (String × Option Bool) → OverrideTable
  | some (name, some allowed) => table.set (some name) (Verdict.flag allowed).toInt
  | some (name, none) => table.remove name
  | none => table

/-- An override changes the table of overrides if there is one and the name can be encoded, and else
    nothing. -/
theorem overridden_cases [Surrogates] {store : Store} (hfresh : store.Fresh) (name : String)
    (change : Option Bool) :
    (∃ table, store.draft.overrides = .present table ∧ Text.isWhole name = true ∧
        overridden name change store = store.saveOverrides (told table (some (name, change)))) ∨
      overridden name change store = store ∧
        ∀ table, store.draft.overrides = .present table → Text.isWhole name = false := by
  cases change with
  | some allowed =>
    obtain ⟨table, htable, hdone⟩ | ⟨_, hrefused⟩ := store.run_setOverride name allowed
    · have hpresent := (Store.overrideTable?_eq_some_iff.mp htable).2
      cases hwhole : Text.isWhole name with
      | true => exact .inl ⟨table, hpresent, rfl, by rw [overridden, hdone]; rfl⟩
      | false =>
        rw [hfresh.run_setOverride_lone hpresent hwhole] at hdone
        cases hdone
    · refine .inr ⟨by rw [overridden, hrefused], fun table hpresent => ?_⟩
      cases hwhole : Text.isWhole name with
      | true =>
        rw [hfresh.run_setOverride hpresent hwhole] at hrefused
        cases hrefused
      | false => rfl
  | none =>
    obtain ⟨table, htable, hdone⟩ | ⟨_, hrefused⟩ := store.run_removeOverride name
    · have hpresent := (Store.overrideTable?_eq_some_iff.mp htable).2
      cases hwhole : Text.isWhole name with
      | true => exact .inl ⟨table, hpresent, rfl, by rw [overridden, hdone]; rfl⟩
      | false =>
        rw [hfresh.run_removeOverride_lone hpresent hwhole] at hdone
        cases hdone
    · refine .inr ⟨by rw [overridden, hrefused], fun table hpresent => ?_⟩
      cases hwhole : Text.isWhole name with
      | true =>
        rw [hfresh.run_removeOverride hpresent hwhole] at hrefused
        cases hrefused
      | false => rfl

theorem works_overriding [Surrogates] [Console] (name : String) (change : Option Bool)
    {confirms : Prop} :
    Works (overriding name change) (fun _ => overridden name change) confirms := by
  cases change with
  | some allowed =>
    refine (works_perform (uses_setOverride _ _) fun store failure after _ hfailed => ?_).bind
      (fun _ => shows_pure _) fun _ _ => passes_pure _
    obtain ⟨_, _, hdone⟩ | ⟨_, hrefused⟩ := store.run_setOverride name allowed
    · rw [hdone] at hfailed
      cases hfailed
    · rw [hrefused] at hfailed
      exact (Prod.mk.inj hfailed).2.symm
  | none =>
    refine (works_perform (uses_removeOverride _) fun store failure after _ hfailed => ?_).bind
      (fun _ => shows_pure _) fun _ _ => passes_pure _
    obtain ⟨_, _, hdone⟩ | ⟨_, hrefused⟩ := store.run_removeOverride name
    · rw [hdone] at hfailed
      cases hfailed
    · rw [hrefused] at hfailed
      exact (Prod.mk.inj hfailed).2.symm

/-- Loads the rules in force. -/
def loading [Surrogates] [Console] (json : Bool) : Run (Engine Unit) (LoadReport × Allowlist) := do
  let report ← expect (runLoad.report json) (← act (Engine.refresh ()))
  pure (report, (← get).opened.allowlist)

theorem shows_report [Surrogates] [Console] (json : Bool) (fault : Fault) :
    Shows (runLoad.report json fault) := by
  cases json with
  | false => exact shows_say _
  | true => exact shows_put _

theorem works_loading [Surrogates] [Console] (json : Bool) {confirms : Prop} :
    Works (loading json) (fun _ store => store) confirms := by
  intro session hunused hfresh
  have hrefresh := Engine.refresh_unused () hunused
  obtain ⟨failure, hfailed⟩ | ⟨report, fresh, stored, _, _, hdone⟩ :=
    Engine.refreshed_cases session.opened
  · rw [hfailed] at hrefresh
    obtain ⟨stop, output, hends⟩ :=
      ends_expect (α := LoadReport) (shows_report json) failure session
    refine ⟨.error stop, output, session.opened, ?_, rfl, fun _ _ _ => rfl⟩
    simp only [loading, run_bind, run_act, hrefresh]
    simp only [hends]
  · rw [hdone] at hrefresh
    refine ⟨.ok (report, fresh), session.output,
      { session.opened with overrides := Engine.inForce stored, allowlist := fresh }, ?_, rfl,
      fun _ hstop => by cases hstop⟩
    simp only [loading, run_bind, run_act, hrefresh]
    rfl

/-- The words behind the name of an application whose override was set or removed. -/
def confirmations : List String := [" -> allow", " -> deny", " cleared", " had no override"]

theorem mem_confirmations [Surrogates] [Console] {name : String} {change : Option Bool}
    {session after : Session (Engine Unit)} {done : String}
    (hrun : (overriding name change).run.run session = (.ok done, after)) :
    done ∈ confirmations := by
  cases change with
  | some allowed =>
    simp only [overriding, run_bind] at hrun
    split at hrun
    · cases hrun
      cases allowed <;> simp [confirmations]
    · cases hrun
  | none =>
    simp only [overriding, run_bind] at hrun
    split at hrun
    · rename_i removed _ _
      cases hrun
      cases removed <;> simp [confirmations]
    · cases hrun

/-- The files of the store that a command works with, and what it leaves there. Another command
    opens no store. -/
def use? [Surrogates] : Command → Option (Files × (Resolver → Store → Store))
  | .parse _ _ _ | .toggle _ _ _ => none
  | .add line enacted check files => some (files, added line enacted check)
  | .list files _ | .load files _ | .query _ _ _ files _ => some (files, fun _ store => store)
  | .enact id enacted files =>
    some (files, fun _ store => ((Store.setEnacted id enacted.toInt).run.run store).2)
  | .override name allow clear files =>
    match allow, clear with
    | some allowed, false => some (files, fun _ => overridden name (some allowed))
    | none, true => some (files, fun _ => overridden name none)
    | _, _ => none

/-- The console can show that a command that stores something did so, whatever came of it. Under a
    name that cannot be encoded nothing is stored. -/
def Confirms [Surrogates] [Console] : Command → Prop
  | .add _ _ _ _ => ∀ id, Displays (storedMarks id)
  | .enact id enacted _ => Displays (switchedMarks id enacted)
  | .override name _ _ _ => Text.isWhole name = true →
    ∀ done ∈ confirmations, Displays (green "✓" ++ " " ++ name ++ done)
  | .parse _ _ _ | .list _ _ | .load _ _ | .query _ _ _ _ _ | .toggle _ _ _ => True

/-- A run that works with the store of files and shows what came of it. -/
def Does [Yaml.Reads] (run : Run Unit Unit) (files : Files) (leaves : Resolver → Store → Store)
    (confirms : Prop) : Prop :=
  ∀ session,
    (storeOf? files session.workspace = none ∧
        ∃ stop output, run.run.run session = (.error stop, { session with output })) ∨
      ∃ settings store result output, storeOf? files session.workspace = some (settings, store) ∧
        run.run.run session =
          (result, { session with
            output
            workspace := session.workspace.keepStore (.ofText settings.database)
              (leaves (settings.resolver session.accounts) store) }) ∧
        ∀ stop, result = .error stop → confirms →
          (leaves (settings.resolver session.accounts) store).saved = store.saved

theorem fresh_of_storeOf? [Yaml.Reads] {files : Files} {workspace : Workspace} {settings : Settings}
    {store : Store} (hopens : storeOf? files workspace = some (settings, store)) : store.Fresh := by
  obtain ⟨_, hopen⟩ := storeOf?_eq_some_iff.mp hopens
  obtain ⟨_, rfl⟩ | ⟨_, _, _, _, rfl⟩ := Workspace.openStore_eq_ok_iff.mp hopen
  · exact Store.fresh_connect _ _
  · exact Store.fresh_connect _ _

/-- A body is worked off, and what is shown behind it changes nothing any more. -/
theorem does_bind [Console] [Yaml.Reads] {body : Run (Engine Unit) α}
    {leaves : Resolver → Store → Store} {confirms : Prop} (hworks : Works body leaves confirms)
    {rest : α → Run Unit Unit} (hrest : ∀ a, Shows (rest a))
    (hlate : confirms → (∀ resolver store, store.Fresh → leaves resolver store = store) ∨
      ∀ a session after, body.run.run session = (.ok a, after) → Passes (rest a))
    (files : Files) :
    Does (do let a ← withEngine (← settings files) body; rest a) files leaves confirms := by
  have hassoc : (do let a ← withEngine (← settings files) body; rest a : Run Unit Unit) =
      usingStore files body >>= rest := (bind_assoc ..).symm
  rw [hassoc]
  intro session
  cases hopens : storeOf? files session.workspace with
  | none =>
    obtain ⟨stop, output, hrun⟩ := run_usingStore_none hopens body
    refine .inl ⟨rfl, stop, output, ?_⟩
    rw [run_bind, hrun]
  | some opened =>
    obtain ⟨settings, store⟩ := opened
    obtain ⟨toggle, hrun⟩ := run_usingStore session hopens body
    obtain ⟨result, output, engine, hbody, hstore, hsaved⟩ := hworks
      { session with opened := engineOf settings session.accounts store toggle } rfl
      (fresh_of_storeOf? hopens)
    rw [hbody] at hrun
    simp only [hstore] at hrun hsaved
    cases result with
    | error stop =>
      refine .inr ⟨settings, store, .error stop, output, rfl, ?_, fun _ _ => hsaved stop rfl⟩
      rw [run_bind, hrun]
      rfl
    | ok a =>
      obtain ⟨result, later, hshow⟩ := hrest a
        { session with
          output
          workspace := session.workspace.keepStore (.ofText settings.database)
            (leaves (settings.resolver session.accounts) store) }
      refine .inr ⟨settings, store, result, later, rfl, ?_, fun stop hstop hconfirms => ?_⟩
      · rw [run_bind, hrun]
        exact hshow
      · -- The store is kept by now: it has to be as it was, or what is shown cannot stop any more.
        obtain hsame | hpasses := hlate hconfirms
        · rw [hsame _ _ (fresh_of_storeOf? hopens)]
        · obtain ⟨_, _, hpass⟩ := hpasses a _ _ hbody _
          rw [hpass] at hshow
          cases hshow
          cases hstop

theorem does_usingStore [Console] [Yaml.Reads] {body : Run (Engine Unit) Unit}
    {leaves : Resolver → Store → Store} {confirms : Prop} (hworks : Works body leaves confirms)
    (files : Files) : Does (usingStore files body) files leaves confirms := by
  have hdoes : Does (settings files >>= fun found => withEngine found body >>= pure) files leaves
      confirms :=
    does_bind hworks (fun a => shows_pure a)
      (fun _ => .inr fun _ _ _ _ => passes_pure _) files
  simp only [bind_pure] at hdoes
  exact hdoes

theorem shows_meaning (result : Outcome (Option ScopedRule)) : Shows (meaning result) := by
  unfold meaning
  split
  · exact shows_pure _
  · exact shows_pure _
  · split
    · exact shows_pure _
    · exact (ends_throw _).shows

theorem shows_showFlips [Console] (interval : Float) (enabled : Bool) (seen more : Nat) :
    Shows (showFlips interval enabled seen more) := by
  induction more generalizing enabled seen with
  | zero => exact shows_pure ()
  | succ more ih =>
    refine (shows_put _).bind fun _ => ?_
    refine (shows_say _).bind fun _ => ?_
    exact ih (!enabled) (seen + 1)

section Commands

variable [Console] [Yaml.Reads]

theorem runAdd_eq [Surrogates] (line : String) (enacted check : Bool) (files : Files) :
    runAdd line enacted check files = usingStore files (adding line enacted check) := by
  cases enacted <;> rfl

theorem does_add [Surrogates] (line : String) (enacted check : Bool) (files : Files) :
    Does (runAdd line enacted check files) files (added line enacted check)
      (Confirms (.add line enacted check files)) := by
  rw [runAdd_eq]
  exact does_usingStore (works_adding line enacted check) files

theorem does_list (files : Files) (json : Bool) {confirms : Prop} :
    Does (runList files json) files (fun _ store => store) confirms := by
  refine does_bind (works_question (uses_onStore Store.listRules) Store.run_listRules_keeps)
    (fun rules => ?_) (fun _ => .inl fun _ _ _ => rfl) files
  split
  · exact shows_put _
  · split
    · exact shows_say _
    · exact shows_sayTable _ _

theorem runEnact_eq (id : Int) (enacted : Bool) (files : Files) :
    runEnact id enacted files = (do
      withEngine (← settings files) (switching id enacted)
      say (green "✓" ++ " Rule " ++ toString id ++
        (if enacted then " enacted" else " disabled"))) := by
  cases enacted <;> rfl

theorem does_enact (id : Int) (enacted : Bool) (files : Files) :
    Does (runEnact id enacted files) files
      (fun _ store => ((Store.setEnacted id enacted.toInt).run.run store).2)
      (Confirms (.enact id enacted files)) := by
  rw [runEnact_eq]
  exact does_bind (works_switching id enacted) (fun _ => shows_say _)
    (fun hconfirms => .inr fun _ _ _ _ => hconfirms.passes) files

theorem does_load [Surrogates] (files : Files) (json : Bool) {confirms : Prop} :
    Does (runLoad files json) files (fun _ store => store) confirms := by
  refine does_bind (works_loading json) (fun found => ?_)
    (fun _ => .inl fun _ _ _ => rfl) files
  cases json with
  | true => exact shows_put _
  | false => exact (shows_sayTable _ _).bind fun _ => shows_say _

theorem does_query [Surrogates] (name : String) (on : Connectivity) (default : Bool) (files : Files)
    (json : Bool) {confirms : Prop} :
    Does (runQuery name on default files json) files (fun _ store => store) confirms := by
  refine does_bind (works_question (uses_onStore Store.overrides) Store.run_overrides_keeps)
    (fun stored => ?_) (fun _ => .inl fun _ _ _ => rfl) files
  split
  · exact shows_put _
  · exact shows_say _

theorem runOverride_eq [Surrogates] (name : String) (change : Option Bool) (files : Files) :
    runOverride name change change.isNone files = (do
      let done ← withEngine (← settings files) (overriding name change)
      say (green "✓" ++ " " ++ name ++ done)) := by
  cases change <;> rfl

theorem does_override [Surrogates] (name : String) (change : Option Bool) (files : Files) :
    Does (runOverride name change change.isNone files) files (fun _ => overridden name change)
      (Confirms (.override name change change.isNone files)) := by
  rw [runOverride_eq]
  refine does_bind (works_overriding name change) (fun _ => shows_say _)
    (fun hconfirms => ?_) files
  cases hwhole : Text.isWhole name with
  | true =>
    exact .inr fun done _ _ hdone => (hconfirms hwhole done (mem_confirmations hdone)).passes
  | false =>
    refine .inl fun _ store hfresh => ?_
    obtain ⟨_, _, hother, _⟩ | ⟨hsame, _⟩ := overridden_cases hfresh name change
    · rw [hwhole] at hother
      cases hother
    · exact hsame

theorem shows_settings {σ : Type} (files : Files) : Shows (settings files : Run σ Settings) := by
  intro session
  rw [run_settings]
  split
  · exact ⟨_, session.output, rfl⟩
  · exact shows_expectOr "" _ session

theorem shows_parse [Surrogates] (line : String) (config : Option String) (json : Bool) :
    Shows (runParse line config json) := by
  refine (shows_settings _).bind fun settings => ?_
  refine (shows_get.bind fun _ => shows_pure _).bind fun resolver => ?_
  refine (shows_meaning _).bind fun result => ?_
  cases result with
  | ok entry =>
    cases json with
    | true => exact shows_put _
    | false => exact shows_say _
  | error error =>
    cases json with
    | true => exact (shows_put _).bind fun _ => (ends_throw _).shows
    | false => exact (shows_say _).bind fun _ => (ends_throw _).shows

theorem shows_toggle (count : Int) (interval : Option Float) (config : Option String) :
    Shows (runToggle count interval config) := by
  refine (shows_settings _).bind fun settings => ?_
  refine shows_unless _ (ends_refuse _) ?_
  refine shows_unless _ (ends_refuse _) ?_
  refine shows_unless _ (ends_throw _) ?_
  exact shows_showFlips _ _ _ _

end Commands

end AllowPolicy.Command
