import AllowPolicy.Proofs.Command.Ending
import AllowPolicy.Proofs.Command.Switching
import AllowPolicy.Proofs.Settings.Contained

namespace AllowPolicy.Command

open Run

/-- The command gets as far as its settings: its files can be named, and an override has one
    decision or is to be cleared. -/
def configures (command : Command) : Bool :=
  !command.misfiled && match command with
    | .override _ allow clear _ => allow.isSome != clear
    | _ => true

/-- The first thing that a command does is to read its settings. -/
theorem run_eq_settings [Surrogates] [Console] [Yaml.Reads] {command : Command}
    (hconfigures : command.configures = true) :
    ∃ (files : Files) (rest : Settings → Run Unit Unit), files.config = command.config? ∧
      command.run = settings files >>= rest := by
  obtain ⟨hfiled, hconfigures⟩ := Bool.and_eq_true_iff.mp hconfigures
  have hfiled : command.misfiled = false := by simpa using hfiled
  unfold misfiled at hfiled
  simp only [run, hfiled, Bool.false_eq_true, if_false]
  cases command with
  | parse line config json => exact ⟨_, _, rfl, rfl⟩
  | toggle count interval config => exact ⟨_, _, rfl, rfl⟩
  | add line enacted check files => exact ⟨_, _, rfl, rfl⟩
  | list files json => exact ⟨_, _, rfl, rfl⟩
  | enact id enacted files => exact ⟨_, _, rfl, rfl⟩
  | load files json => exact ⟨_, _, rfl, rfl⟩
  | query name on default files json => exact ⟨_, _, rfl, rfl⟩
  | override name allow clear files =>
    -- An override without one clear wish is refused before any settings are read.
    obtain _ | allowed := allow <;> cases clear
    · cases hconfigures
    · exact ⟨files, _, rfl, rfl⟩
    · exact ⟨files, _, rfl, rfl⟩
    · cases hconfigures

/-- The failure of a stop that is not reported. -/
def Stop.failure? : Stop → Option Failure
  | .exit _ => none
  | .crash failure => some failure

/-- The command says in a line why it failed, or ends where the console cannot show that line. -/
def Ending.Reports [Console] (ending : Ending) (reason : String) : Prop :=
  match Console.print (red reason) with
  | .ok line => ending.Says 1 line
  | .error failure => ending.Crashes failure

/-- The command failed, and left everything as it was. -/
structure Ending.Fails (ending : Ending) (workspace : Workspace) : Prop where
  exit : ending.exit = 1
  workspace : ending.workspace = workspace

section Ends

variable (accounts : List (String × Int)) (workspace : Workspace)

/-- A run that begins with a stop ends by it. -/
theorem ending_of_stop {α : Type} {run : Run Unit α} {stop : Stop} {output : List Output}
    (hstops : run.run.run { workspace, accounts, opened := () } =
      (.error stop, { workspace, accounts, output, opened := () }))
    (rest : α → Run Unit Unit) :
    (run >>= rest).ending accounts workspace =
      { exit := stop.code, output, failure := stop.failure?, workspace } := by
  rw [Run.ending, run_bind, hstops]
  cases stop <;> rfl

variable [Console]

/-- A failure that is not reported ends the command. -/
theorem crashes_of_expectOr {α : Type} {failure : Failure} (hfault : fault? failure = none)
    (rest : α → Run Unit Unit) :
    let ending := ((expectOr "" (.error failure) : Run Unit α) >>= rest).ending accounts workspace
    ending.Crashes failure ∧ ending.Fails workspace := by
  have hstops : (expectOr "" (.error failure) : Run Unit α).run.run
      { workspace, accounts, opened := () } =
      (.error (.crash failure), { workspace, accounts, opened := () }) := by
    rw [expectOr, expect, hfault]
    rfl
  rw [ending_of_stop accounts workspace hstops]
  exact ⟨⟨rfl, rfl, rfl⟩, rfl, rfl⟩

/-- A command says why it goes no further, if the console can show it. -/
theorem reports_of_refuse {α : Type} (reason : String) (rest : α → Run Unit Unit) :
    let ending := ((refuse reason : Run Unit α) >>= rest).ending accounts workspace
    ending.Reports reason ∧ ending.Fails workspace := by
  unfold Ending.Reports
  cases hprint : Console.print (red reason) with
  | ok line =>
    rw [ending_of_stop accounts workspace (run_refuse hprint _)]
    exact ⟨⟨rfl, rfl, rfl⟩, rfl, rfl⟩
  | error failure =>
    have hstops : (refuse reason : Run Unit α).run.run { workspace, accounts, opened := () } =
        (.error (.crash failure), { workspace, accounts, opened := () }) := by
      simp only [refuse, run_bind, run_say, hprint]
    rw [ending_of_stop accounts workspace hstops]
    exact ⟨⟨rfl, rfl, rfl⟩, rfl, rfl⟩

/-- What becomes of a command by the failure of its settings: it reports the fault behind it, or
    ends by the failure if there is none. -/
def Ending.Answers (ending : Ending) (failure : Failure) : Prop :=
  match fault? failure with
  | some fault => ending.Reports fault.shown
  | none => ending.Crashes failure

theorem answers_of_expectOr {α : Type} (failure : Failure) (rest : α → Run Unit Unit) :
    let ending := ((expectOr "" (.error failure) : Run Unit α) >>= rest).ending accounts workspace
    ending.Answers failure ∧ ending.Fails workspace := by
  unfold Ending.Answers
  cases hfault : fault? failure with
  | none => exact crashes_of_expectOr accounts workspace hfault rest
  | some fault =>
    have hrefuse : (expectOr "" (.error failure) : Run Unit α) = refuse fault.shown := by
      rw [expectOr, expect, hfault]
      simp only [String.empty_append]
      rfl
    rw [hrefuse]
    exact reports_of_refuse accounts workspace _ rest

end Ends

section Configured

variable [Surrogates] [Console] [Yaml.Reads] {accounts : List (String × Int)}
  {workspace : Workspace} {command : Command} {path : String} {failure : Failure}

theorem answers_of_configures (hconfigures : command.configures = true)
    (hconfig : command.config? = some path) (hread : workspace.settings path = .error failure) :
    let ending := command.run.ending accounts workspace
    ending.Answers failure ∧ ending.Fails workspace := by
  obtain ⟨files, rest, hfiles, hrun⟩ := run_eq_settings hconfigures
  have hsettings : settingsOf files workspace = .error failure := by
    simp only [settingsOf, hfiles, hconfig, hread]
    rfl
  have hending : command.run.ending accounts workspace =
      ((expectOr "" (.error failure) : Run Unit Settings) >>= rest).ending accounts workspace := by
    simp only [hrun, Run.ending, run_bind, run_settings, hsettings]
  rw [hending]
  exact answers_of_expectOr accounts workspace failure rest

theorem fails_of_not_configures (hconfigures : command.configures = false) :
    (command.run.ending accounts workspace).Fails workspace := by
  cases hmisfiled : command.misfiled with
  | true =>
    unfold misfiled at hmisfiled
    simp only [run, hmisfiled, if_true]
    rw [ending_of_stop accounts workspace (run_throw _ _)]
    exact ⟨rfl, rfl⟩
  | false =>
    unfold configures at hconfigures
    rw [hmisfiled] at hconfigures
    unfold misfiled at hmisfiled
    simp only [run, hmisfiled, Bool.false_eq_true, if_false]
    cases command with
    | override name allow clear files =>
      obtain _ | allowed := allow <;> cases clear
      · exact (reports_of_refuse accounts workspace _ _).2
      · cases hconfigures
      · cases hconfigures
      · exact (reports_of_refuse accounts workspace _ _).2
    | _ => cases hconfigures

/-- There are valid settings, or a report says why not, exactly for a text on which the reader does
    not fail by itself, and for a file with such a text and a name that files can have. A command
    that is given settings that cannot be had fails, leaves all as it was, and shows the report if
    there is one. That no failure of the reader's own is a report is all that is asked of it. -/
theorem reported_or_uncaught (hunreported : Yaml.Reads.Unreported) (source text : String)
    (workspace : Workspace) (given : String) :
    Settings.Reads text (Settings.ofText source text) ∧
      workspace.Reads given (workspace.settings given) ∧
      ∀ {args command failure} accounts, request args = .command command →
        command.config? = some given → workspace.settings given = .error failure →
          let ending := execute args accounts workspace
          ending.Fails workspace ∧ (command.configures = true → ending.Answers failure) := by
  refine ⟨Settings.reads_ofText hunreported source text,
    workspace.reads_settings hunreported given, ?_⟩
  intro args command failure accounts hrequest hconfig hread
  simp only [execute, hrequest]
  cases hconfigures : command.configures with
  | true =>
    obtain ⟨hanswers, hfails⟩ := answers_of_configures hconfigures hconfig hread
    exact ⟨hfails, fun _ => hanswers⟩
  | false => exact ⟨fails_of_not_configures hconfigures, fun htrue => absurd htrue (by decide)⟩

end Configured

section Undated

/-- A text with a date that no calendar has. -/
def undated : String := "toggle:\n  interval_seconds: 2001-02-30\n"

/-- What comes of a date that no calendar has. -/
def noSuchDay : Failure := .badValue "day is out of range for month"

/-- What is said of a value that is none. -/
def badValue? : Except Yaml.Problem Value → Option String
  | .error (.failed (.badValue message)) => some message
  | _ => none

theorem eq_of_badValue? {result : Except Yaml.Problem Value} {message : String}
    (hsaid : badValue? result = some message) : result = .error (.failed (.badValue message)) := by
  unfold badValue? at hsaid
  split at hsaid
  · cases hsaid
    rfl
  · cases hsaid

theorem ofText_undated (source : String) : Settings.ofText source undated = .error noSuchDay := by
  have hread : Yaml.read undated = .error (.failed noSuchDay) := eq_of_badValue? (by decide +kernel)
  exact Settings.ofText_of_failed source hread

/-- A directory with such a text in a file. -/
def besideUndated : Workspace := ⟨[(["c.yaml"], .text undated)]⟩

theorem settings_undated : besideUndated.settings "c.yaml" = .error noSuchDay := by
  have hfind : besideUndated.find? (.ofText "c.yaml") = .ok (.text undated) := rfl
  have hlines : String.ofList (Workspace.unixLines undated.toList) = undated := by decide +kernel
  rw [Workspace.settings, if_neg (by decide)]
  simp only [hfind, hlines, ofText_undated]

theorem request_list :
    request ["list", "--config", "c.yaml"] =
      .command (.list { config := some "c.yaml" } false) := rfl

theorem configures_list : (Command.list { config := some "c.yaml" } false).configures = true := by
  decide

/-- A list of the rules, with settings from such a text. -/
theorem reported_or_uncaught_undated :
    Settings.Reads undated (.error noSuchDay) ∧ besideUndated.Reads "c.yaml" (.error noSuchDay) ∧
      let ending := execute ["list", "--config", "c.yaml"] [] besideUndated
      ending.Fails besideUndated ∧ ending.Crashes noSuchDay := by
  obtain ⟨htext, hfile, hcommand⟩ :=
    reported_or_uncaught Yaml.unreported_read "" undated besideUndated "c.yaml"
  rw [ofText_undated] at htext
  rw [settings_undated] at hfile
  obtain ⟨hfails, hanswers⟩ := hcommand [] request_list rfl settings_undated
  exact ⟨htext, hfile, hfails, hanswers configures_list⟩

/-- Such a text gives no settings and no report, whether it is read as it is or from a file, and a
    command that is given the file ends by the failure and says nothing. -/
theorem exists_uncaught :
    Settings.ofText "" undated = .error noSuchDay ∧
      besideUndated.settings "c.yaml" = .error noSuchDay ∧ fault? noSuchDay = none ∧
      (execute ["list", "--config", "c.yaml"] [] besideUndated).Crashes noSuchDay := by
  refine ⟨ofText_undated "", settings_undated, rfl, ?_⟩
  rw [execute, request_list]
  exact (answers_of_configures configures_list rfl settings_undated).1

end Undated

end AllowPolicy.Command
