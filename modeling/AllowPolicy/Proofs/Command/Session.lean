import AllowPolicy.Command.Run
import AllowPolicy.Proofs.Settings.Valid

namespace AllowPolicy.Command

section Files

variable [Yaml.Reads]

/-- The settings that are in files, with another database if one is given. -/
def settingsOf (files : Files) (workspace : Workspace) : Outcome Settings := do
  let found ← match files.config with
    | none => .ok {}
    | some path => workspace.settings path
  match files.database with
  | none => .ok found
  | some path => .ok { found with database := (Path.ofText path).shown }

theorem valid_of_settingsOf {files : Files} {workspace : Workspace} {settings : Settings}
    (hread : settingsOf files workspace = .ok settings) : settings.Valid := by
  obtain ⟨config, database⟩ := files
  have hother (found : Settings) (hfound : found.Valid) (path : String) :
      Settings.Valid { found with database := path } := ⟨hfound.interval_pos, hfound.identity_pos⟩
  cases config with
  | none =>
    cases database with
    | none =>
      cases hread
      exact Settings.valid_default
    | some path =>
      cases hread
      exact hother _ Settings.valid_default _
  | some given =>
    cases hfound : workspace.settings given with
    | error failure =>
      simp only [settingsOf, hfound] at hread
      cases hread
    | ok found =>
      simp only [settingsOf, hfound] at hread
      have hvalid := Workspace.valid_of_settings hfound
      cases database with
      | none =>
        cases hread
        exact hvalid
      | some path =>
        cases hread
        exact hother _ hvalid _

/-- The settings that are in files, and the store that they choose, if there are both. -/
def storeOf? (files : Files) (workspace : Workspace) : Option (Settings × Store) :=
  match settingsOf files workspace with
  | .error _ => none
  | .ok settings =>
    match workspace.openStore (.ofText settings.database) with
    | .error _ => none
    | .ok store => some (settings, store)

theorem storeOf?_eq_some_iff {files : Files} {workspace : Workspace} {settings : Settings}
    {store : Store} :
    storeOf? files workspace = some (settings, store) ↔
      settingsOf files workspace = .ok settings ∧
        workspace.openStore (.ofText settings.database) = .ok store := by
  unfold storeOf?
  cases settingsOf files workspace with
  | error failure => simp
  | ok found =>
    simp only [Except.ok.injEq]
    constructor
    · intro hopens
      split at hopens
      · cases hopens
      · rename_i hopen
        cases hopens
        exact ⟨rfl, hopen⟩
    · rintro ⟨rfl, hopen⟩
      rw [hopen]

end Files

namespace Run

variable {σ α β : Type}

theorem run_bind (run : Run σ α) (next : α → Run σ β) (session : Session σ) :
    (run >>= next).run.run session =
      match run.run.run session with
      | (.ok a, after) => (next a).run.run after
      | (.error stop, after) => (.error stop, after) := by
  simp only [ExceptT.run_bind, StateT.run_bind]
  rcases run.run.run session with ⟨_ | _, after⟩ <;> rfl

theorem run_pure (a : α) (session : Session σ) :
    (pure a : Run σ α).run.run session = (.ok a, session) := rfl

theorem run_throw (stop : Stop) (session : Session σ) :
    (throw stop : Run σ α).run.run session = (.error stop, session) := rfl

theorem run_get (session : Session σ) :
    (get : Run σ (Session σ)).run.run session = (.ok session, session) := rfl

theorem run_set (after session : Session σ) :
    (set after : Run σ PUnit).run.run session = (.ok ⟨⟩, after) := rfl

theorem run_act (action : Act (Engine Unit) α) (session : Session (Engine Unit)) :
    (act action).run.run session =
      (.ok (action.run session.opened).value.1,
        { session with opened := (action.run session.opened).value.2 }) := rfl

/-- The run puts something out, perhaps, and changes nothing. -/
def Shows (run : Run σ α) : Prop :=
  ∀ session, ∃ result output, run.run.run session = (result, { session with output })

/-- The run puts something out, perhaps, and ends the command. -/
def Ends (run : Run σ α) : Prop :=
  ∀ session, ∃ stop output, run.run.run session = (.error stop, { session with output })

/-- The run puts something out, perhaps, and goes on. -/
def Passes (run : Run σ α) : Prop :=
  ∀ session, ∃ a output, run.run.run session = (.ok a, { session with output })

theorem Ends.shows {run : Run σ α} (hends : Ends run) : Shows run := by
  intro session
  obtain ⟨stop, output, hrun⟩ := hends session
  exact ⟨.error stop, output, hrun⟩

theorem Shows.bind {run : Run σ α} {next : α → Run σ β} (hrun : Shows run)
    (hnext : ∀ a, Shows (next a)) : Shows (run >>= next) := by
  intro session
  obtain ⟨result, output, hrun⟩ := hrun session
  rw [run_bind, hrun]
  cases result with
  | error stop => exact ⟨.error stop, output, rfl⟩
  | ok a =>
    obtain ⟨result, later, hnext⟩ := hnext a { session with output }
    exact ⟨result, later, hnext⟩

theorem Shows.bind_ends {run : Run σ α} {next : α → Run σ β} (hrun : Shows run)
    (hnext : ∀ a, Ends (next a)) : Ends (run >>= next) := by
  intro session
  obtain ⟨result, output, hrun⟩ := hrun session
  rw [run_bind, hrun]
  cases result with
  | error stop => exact ⟨stop, output, rfl⟩
  | ok a =>
    obtain ⟨stop, later, hnext⟩ := hnext a { session with output }
    exact ⟨stop, later, hnext⟩

theorem Ends.bind {run : Run σ α} (hends : Ends run) (next : α → Run σ β) :
    Ends (run >>= next) := by
  intro session
  obtain ⟨stop, output, hrun⟩ := hends session
  rw [run_bind, hrun]
  exact ⟨stop, output, rfl⟩

theorem shows_unless (condition : Prop) [Decidable condition] {stopping : Run σ Unit}
    (hends : Ends stopping) {going : Unit → Run σ α} (hgoing : Shows (going ())) :
    Shows (if condition then stopping >>= going else going ()) := by
  split
  · exact (hends.bind going).shows
  · exact hgoing

theorem shows_pure (a : α) : Shows (pure a : Run σ α) := fun session => ⟨.ok a, session.output, rfl⟩

theorem passes_pure (a : α) : Passes (pure a : Run σ α) :=
  fun session => ⟨a, session.output, rfl⟩

theorem ends_throw (stop : Stop) : Ends (throw stop : Run σ α) :=
  fun session => ⟨stop, session.output, rfl⟩

theorem shows_get : Shows (get : Run σ (Session σ)) :=
  fun session => ⟨.ok session, session.output, rfl⟩

theorem shows_put (output : Output) : Shows (put output : Run σ Unit) :=
  fun session => ⟨.ok (), session.output ++ [output], rfl⟩

theorem tell_eq [Surrogates] (v : Value) :
    (tell v : Run σ Unit) = put (.text (v.jsonIndented ++ "\n")) := rfl

theorem ends_expect {report : Fault → Run σ Unit} (hreport : ∀ fault, Shows (report fault))
    (failure : Failure) : Ends (expect report (.error failure) : Run σ α) := by
  simp only [expect]
  cases fault? failure with
  | none => exact ends_throw _
  | some fault => exact (hreport fault).bind_ends fun _ => ends_throw _

/-- The engine that a command opens. -/
def engineOf (settings : Settings) (accounts : List (String × Int)) (store : Store)
    (toggle : Toggle Float) : Engine Unit where
  settings
  resolver := settings.resolver accounts
  store
  toggle

section Console

variable [Console]

/-- What is said is put out, unless the console cannot show it. -/
theorem run_say (marked : String) (session : Session σ) :
    (say marked).run.run session =
      match Console.print marked with
      | .ok text => (.ok (), { session with output := session.output ++ [.text text] })
      | .error failure => (.error (.crash failure), session) := by
  unfold say
  cases Console.print marked <;> rfl

theorem shows_say (marked : String) : Shows (say marked : Run σ Unit) := by
  intro session
  rw [run_say]
  cases Console.print marked with
  | ok text => exact ⟨.ok (), _, rfl⟩
  | error failure => exact ⟨.error (.crash failure), session.output, rfl⟩

/-- The console shows a marked text. -/
def Displays (marked : String) : Prop := ∃ text, Console.print marked = .ok text

theorem Displays.passes {marked : String} (hdisplays : Displays marked) :
    Passes (say marked : Run σ Unit) := by
  intro session
  obtain ⟨text, hprint⟩ := hdisplays
  rw [run_say, hprint]
  exact ⟨_, _, rfl⟩

theorem shows_sayTable (columns : List Screen.Column) (rows : List (List String)) :
    Shows (sayTable columns rows : Run σ Unit) := by
  unfold sayTable
  cases Console.table columns rows with
  | ok text => exact shows_put _
  | error failure => exact (ends_throw _).shows

theorem ends_refuse (reason : String) : Ends (refuse reason : Run σ α) :=
  (shows_say _).bind_ends fun _ => ends_throw _

theorem ends_expectOr (front : String) (failure : Failure) :
    Ends (expectOr front (.error failure) : Run σ α) :=
  ends_expect (fun _ => shows_say _) failure

theorem shows_expectOr (front : String) (result : Outcome α) :
    Shows (expectOr front result : Run σ α) := by
  cases result with
  | ok a => exact shows_pure a
  | error failure => exact (ends_expectOr front failure).shows

theorem run_settings [Yaml.Reads] (files : Files) (session : Session σ) :
    (settings files).run.run session =
      match settingsOf files session.workspace with
      | .ok found => (.ok found, session)
      | .error failure => (expectOr "" (.error failure)).run.run session := by
  obtain ⟨config, database⟩ := files
  cases config with
  | none => cases database <;> rfl
  | some given =>
    simp only [settings, settingsOf, run_bind, run_get]
    cases session.workspace.settings given with
    | ok found => cases database <;> rfl
    | error failure =>
      obtain ⟨stop, output, hrun⟩ := ends_expectOr (σ := σ) (α := Settings) "" failure session
      simp only [hrun]
      exact hrun.symm

/-- A body works with the engine of its settings. Whatever it leaves in the store is kept. -/
theorem run_withEngine {settings : Settings} (hvalid : settings.Valid)
    (body : Run (Engine Unit) α) {session : Session Unit} {store : Store}
    (hopen : session.workspace.openStore (.ofText settings.database) = .ok store) :
    ∃ toggle, (withEngine settings body).run.run session =
      match body.run.run {
        session with opened := engineOf settings session.accounts store toggle } with
      | (result, after) =>
        (result, { after with
          workspace := after.workspace.keepStore (.ofText settings.database) after.opened.store
          opened := () }) := by
  obtain ⟨toggle, hmake⟩ := Engine.make_of_valid (ι := Unit) hvalid
    (settings.resolver session.accounts) store
  refine ⟨toggle, ?_⟩
  have hresolver : (resolver settings : Run Unit Resolver).run.run session =
      (.ok (settings.resolver session.accounts), session) := rfl
  have hengine : (expectOr "" do
        let store ← session.workspace.openStore (.ofText settings.database)
        Engine.make settings (settings.resolver session.accounts) store :
        Run Unit (Engine Unit)).run.run session =
      (.ok (engineOf settings session.accounts store toggle), session) := by
    rw [hopen]
    exact congrArg (fun made => (expectOr "" made : Run Unit (Engine Unit)).run.run session) hmake
  simp only [withEngine, run_bind, run_get, hresolver, hengine]
  rcases body.run.run { session with opened := engineOf settings session.accounts store toggle }
    with ⟨_ | _, after⟩ <;> rfl

/-- Where no store can be opened nothing is done. -/
theorem run_withEngine_error {settings : Settings} (body : Run (Engine Unit) α)
    {session : Session Unit} {failure : Failure}
    (hopen : session.workspace.openStore (.ofText settings.database) = .error failure) :
    ∃ stop output, (withEngine settings body).run.run session =
      (.error stop, { session with output }) := by
  have hresolver : (resolver settings : Run Unit Resolver).run.run session =
      (.ok (settings.resolver session.accounts), session) := rfl
  have hengine : (expectOr "" do
        let store ← session.workspace.openStore (.ofText settings.database)
        Engine.make settings (settings.resolver session.accounts) store :
        Run Unit (Engine Unit)) = expectOr "" (.error failure) := by
    rw [hopen]
    rfl
  obtain ⟨stop, output, hrun⟩ := ends_expectOr (σ := Unit) (α := Engine Unit) "" failure session
  refine ⟨stop, output, ?_⟩
  simp only [withEngine, run_bind, run_get, hresolver, hengine, hrun]

variable [Yaml.Reads]

/-- A part of a command that works with the store of its files. -/
def usingStore (files : Files) (body : Run (Engine Unit) α) : Run Unit α := do
  withEngine (← settings files) body

theorem run_usingStore {files : Files} {settings : Settings} {store : Store}
    (session : Session Unit)
    (hopens : storeOf? files session.workspace = some (settings, store))
    (body : Run (Engine Unit) α) :
    ∃ toggle, (usingStore files body).run.run session =
      match body.run.run {
        session with opened := engineOf settings session.accounts store toggle } with
      | (result, after) =>
        (result, { after with
          workspace := after.workspace.keepStore (.ofText settings.database) after.opened.store
          opened := () }) := by
  obtain ⟨hread, hopen⟩ := storeOf?_eq_some_iff.mp hopens
  simp only [usingStore, run_bind, run_settings, hread]
  exact run_withEngine (valid_of_settingsOf hread) body hopen

theorem run_usingStore_none {files : Files} {session : Session Unit}
    (hopens : storeOf? files session.workspace = none) (body : Run (Engine Unit) α) :
    ∃ stop output, (usingStore files body).run.run session =
      (.error stop, { session with output }) := by
  simp only [usingStore, run_bind, run_settings]
  cases hread : settingsOf files session.workspace with
  | error failure =>
    obtain ⟨stop, output, hrun⟩ := ends_expectOr (σ := Unit) (α := Settings) "" failure session
    exact ⟨stop, output, by simp only [hrun]⟩
  | ok settings =>
    cases hopen : session.workspace.openStore (.ofText settings.database) with
    | error failure => exact run_withEngine_error body hopen
    | ok store =>
      rw [storeOf?_eq_some_iff.mpr ⟨hread, hopen⟩] at hopens
      cases hopens

end Console

end Run

end AllowPolicy.Command
