import AllowPolicy.Proofs.Command.Work

namespace AllowPolicy.Command

/-- The exit code that a stop gives a command. -/
def Stop.code : Stop → Nat
  | .exit code => code
  | .crash _ => 1

namespace Run

variable {σ α β : Type}

/-- Wherever the run ends the command, it does so with the exit code of a failure. -/
def Stops (run : Run σ α) : Prop :=
  ∀ session stop, (run.run.run session).1 = .error stop → Stop.code stop ≠ 0

theorem Stops.bind {run : Run σ α} (hrun : Stops run) {next : α → Run σ β}
    (hnext : ∀ a, Stops (next a)) : Stops (run >>= next) := by
  intro session stop hstop
  rw [run_bind] at hstop
  rcases hresult : run.run.run session with ⟨_ | a, after⟩
  · rw [hresult] at hstop
    cases hstop
    exact hrun session stop (by rw [hresult])
  · rw [hresult] at hstop
    exact hnext a after stop hstop

theorem stops_pure (a : α) : Stops (pure a : Run σ α) := fun _ _ hstop => by cases hstop

theorem stops_throw {stop : Stop} (hcode : Stop.code stop ≠ 0) : Stops (throw stop : Run σ α) := by
  intro session other hother
  cases hother
  exact hcode

theorem stops_crash (failure : Failure) : Stops (throw (.crash failure) : Run σ α) :=
  stops_throw Nat.one_ne_zero

theorem stops_get : Stops (get : Run σ (Session σ)) := fun _ _ hstop => by cases hstop

theorem stops_set (after : Session σ) : Stops (set after : Run σ PUnit) :=
  fun _ _ hstop => by cases hstop

theorem stops_put (output : Output) : Stops (put output : Run σ Unit) :=
  fun _ _ hstop => by cases hstop

theorem stops_expect {report : Fault → Run σ Unit} (hreport : ∀ fault, Stops (report fault))
    (result : Outcome α) : Stops (expect report result) := by
  cases result with
  | ok a => exact stops_pure a
  | error failure =>
    simp only [expect]
    cases fault? failure with
    | none => exact stops_crash failure
    | some fault => exact (hreport fault).bind fun _ => stops_throw (by decide)

theorem stops_act (action : Act (Engine Unit) α) : Stops (act action) :=
  fun _ _ hstop => by cases hstop

theorem stops_unless (condition : Prop) [Decidable condition] {stopping : Run σ Unit}
    (hstopping : Stops stopping) {going : Unit → Run σ α} (hgoing : Stops (going ())) :
    Stops (if condition then stopping >>= going else going ()) := by
  split
  · exact hstopping.bind fun _ => hgoing
  · exact hgoing

section Console

variable [Console]

theorem stops_say (marked : String) : Stops (say marked : Run σ Unit) := by
  unfold say
  cases Console.print marked with
  | ok text => exact stops_put _
  | error failure => exact stops_crash failure

theorem stops_sayTable (columns : List Screen.Column) (rows : List (List String)) :
    Stops (sayTable columns rows : Run σ Unit) := by
  unfold sayTable
  cases Console.table columns rows with
  | ok text => exact stops_put _
  | error failure => exact stops_crash failure

theorem stops_refuse (reason : String) : Stops (refuse reason : Run σ α) :=
  (stops_say _).bind fun _ => stops_throw (by decide)

theorem stops_expectOr (front : String) (result : Outcome α) :
    Stops (expectOr front result : Run σ α) :=
  stops_expect (fun _ => stops_say _) result

theorem stops_perform (action : Act (Engine Unit) (Outcome α)) : Stops (perform action) :=
  (stops_act action).bind fun _ => stops_expectOr _ _

theorem stops_withEngine (settings : Settings) {body : Run (Engine Unit) α} (hbody : Stops body) :
    Stops (withEngine settings body) := by
  refine stops_get.bind fun session => ?_
  refine (stops_get.bind fun _ => stops_pure _).bind fun resolver => ?_
  refine (stops_expectOr _ _).bind fun engine => ?_
  have hresult := hbody { session with opened := engine }
  generalize body.run.run { session with opened := engine } = result at hresult ⊢
  obtain ⟨stop | a, after⟩ := result
  · exact (stops_set _).bind fun _ => stops_throw (hresult stop rfl)
  · exact (stops_set _).bind fun _ => stops_pure a

variable [Yaml.Reads]

theorem stops_settings (files : Files) : Stops (settings files : Run σ Settings) := by
  intro session stop hstop
  rw [run_settings] at hstop
  split at hstop
  · cases hstop
  · exact stops_expectOr "" _ session stop hstop

/-- A command that works with a store, and then tells what came of it. -/
theorem stops_opening (files : Files) {body : Run (Engine Unit) α} (hbody : Stops body)
    {tell : α → Run Unit β} (htell : ∀ a, Stops (tell a)) :
    Stops (do
      let found ← withEngine (← settings files) body
      tell found) :=
  (stops_settings files).bind fun settings => (stops_withEngine settings hbody).bind htell

end Console

end Run

open Run

theorem stops_meaning (result : Outcome (Option ScopedRule)) : Stops (meaning result) := by
  unfold meaning
  split
  · exact stops_pure _
  · exact stops_pure _
  · split
    · exact stops_pure _
    · exact stops_crash _

variable [Console]

theorem stops_switching (id : Int) (enacted : Bool) : Stops (switching id enacted) := by
  refine (stops_perform _).bind fun found => ?_
  split
  · exact stops_refuse _
  · exact stops_pure ()

theorem stops_showFlips (interval : Float) (enabled : Bool) (seen more : Nat) :
    Stops (showFlips interval enabled seen more) := by
  induction more generalizing enabled seen with
  | zero => exact stops_pure ()
  | succ more ih => exact (stops_put _).bind fun _ => (stops_say _).bind fun _ => ih _ _

theorem stops_checkLine [Surrogates] (line : String) : Stops (checkLine line) := by
  refine stops_get.bind fun session => ?_
  refine (stops_expectOr _ _).bind fun rule => ?_
  cases rule with
  | none => exact stops_refuse _
  | some entry => exact stops_pure ()

theorem stops_adding [Surrogates] (line : String) (enacted check : Bool) :
    Stops (adding line enacted check) := by
  have hstoring : Stops (storing line enacted) := (stops_perform _).bind fun _ => stops_say _
  cases check with
  | true => exact (stops_checkLine line).bind fun _ => hstoring
  | false => exact hstoring

theorem stops_overriding [Surrogates] (name : String) (change : Option Bool) :
    Stops (overriding name change) := by
  cases change with
  | some allowed => exact (stops_perform _).bind fun _ => stops_pure _
  | none => exact (stops_perform _).bind fun _ => stops_pure _

variable [Yaml.Reads]

theorem stops_list (files : Files) (json : Bool) : Stops (runList files json) := by
  refine stops_opening files (stops_perform _) fun rules => ?_
  split
  · exact stops_put _
  · split
    · exact stops_say _
    · exact stops_sayTable _ _

theorem stops_enact (id : Int) (enacted : Bool) (files : Files) :
    Stops (runEnact id enacted files) := by
  rw [runEnact_eq]
  exact stops_opening files (stops_switching id enacted) fun _ => stops_say _

theorem stops_toggle (count : Int) (interval : Option Float) (config : Option String) :
    Stops (runToggle count interval config) := by
  refine (stops_settings _).bind fun settings => ?_
  refine stops_unless _ (stops_refuse _) ?_
  refine stops_unless _ (stops_refuse _) ?_
  refine stops_unless _ (stops_crash _) ?_
  exact stops_showFlips _ _ _ _

variable [Surrogates]

theorem stops_parse (line : String) (config : Option String) (json : Bool) :
    Stops (runParse line config json) := by
  refine (stops_settings _).bind fun settings => ?_
  refine (stops_get.bind fun _ => stops_pure _).bind fun resolver => ?_
  refine (stops_meaning _).bind fun result => ?_
  cases result with
  | ok entry =>
    cases json with
    | true => exact stops_put _
    | false => exact stops_say _
  | error error =>
    cases json with
    | true => exact (stops_put _).bind fun _ => stops_throw Nat.one_ne_zero
    | false => exact (stops_say _).bind fun _ => stops_throw Nat.one_ne_zero

theorem stops_add (line : String) (enacted check : Bool) (files : Files) :
    Stops (runAdd line enacted check files) := by
  rw [runAdd_eq]
  exact (stops_settings files).bind fun settings =>
    stops_withEngine settings (stops_adding line enacted check)

theorem stops_load (files : Files) (json : Bool) : Stops (runLoad files json) := by
  have hreport (fault : Fault) : Stops (runLoad.report json fault) := by
    cases json with
    | true => exact stops_put _
    | false => exact stops_say _
  refine stops_opening files ?_ fun loaded => ?_
  · refine (stops_act _).bind fun _ => (stops_expect hreport _).bind fun report => ?_
    exact stops_get.bind fun _ => stops_pure _
  · cases json with
    | true => exact stops_put _
    | false => exact (stops_sayTable _ _).bind fun _ => stops_say _

theorem stops_override (name : String) (allow : Option Bool) (clear : Bool) (files : Files) :
    Stops (runOverride name allow clear files) := by
  have hchange (change : Option Bool) : Stops (do
      let done ← withEngine (← settings files) (overriding name change)
      say (green "✓" ++ " " ++ name ++ done)) :=
    stops_opening files (stops_overriding name change) fun _ => stops_say _
  obtain _ | allowed := allow <;> cases clear
  · exact (stops_refuse _).bind hchange
  · exact hchange none
  · exact hchange (some allowed)
  · exact (stops_refuse _).bind hchange

theorem stops_query (name : String) (on : Connectivity) (default : Bool) (files : Files)
    (json : Bool) : Stops (runQuery name on default files json) := by
  refine stops_opening files (stops_perform _) fun stored => ?_
  split
  · exact stops_put _
  · exact stops_say _

theorem stops_run (command : Command) : Stops command.run := by
  refine stops_unless _ (stops_crash _) ?_
  cases command with
  | parse line config json => exact stops_parse line config json
  | add line enacted check files => exact stops_add line enacted check files
  | list files json => exact stops_list files json
  | enact id enacted files => exact stops_enact id enacted files
  | load files json => exact stops_load files json
  | override name allow clear files => exact stops_override name allow clear files
  | query name on default files json => exact stops_query name on default files json
  | toggle count interval config => exact stops_toggle count interval config

/-- A command has the exit code of success exactly if it went on to its end. -/
theorem exit_eq_zero_iff (command : Command) (accounts : List (String × Int))
    (workspace : Workspace) :
    (command.run.ending accounts workspace).exit = 0 ↔
      (command.run.run.run { workspace, accounts, opened := () }).1 = .ok () := by
  have hstops := stops_run command { workspace, accounts, opened := () }
  unfold Run.ending
  generalize command.run.run.run { workspace, accounts, opened := () } = result at hstops ⊢
  obtain ⟨stop | _, after⟩ := result
  · have hcode := hstops stop rfl
    cases stop with
    | exit code => simpa [Stop.code] using hcode
    | crash failure => simp
  · simp

end AllowPolicy.Command
