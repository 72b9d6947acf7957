import AllowPolicy.Proofs.Command.Ending

namespace AllowPolicy.Command

open Run

/-- A command that stores nothing, however it ends. -/
def asks : Command → Bool
  | .parse _ _ _ | .list _ _ | .load _ _ | .query _ _ _ _ _ | .toggle _ _ _ => true
  | .add _ _ _ _ | .enact _ _ _ | .override _ _ _ _ => false

/-- The command overrides no application that has a bracket in its name. -/
def isPlain : Command → Bool
  | .override name _ _ _ => '[' ∉ name.toList
  | _ => true

/-- A console that shows what commands say of themselves shows all that they confirm, but for names
    with a bracket. -/
theorem confirms_of_isPlain [Surrogates] [Console] (hshows : ShowsOwn) {command : Command}
    (hplain : command.isPlain = true) : command.Confirms := by
  cases command with
  | parse | list | load | query | toggle => trivial
  | add line enacted check files => exact hshows.stored
  | enact id enacted files =>
    have hword : '[' ∉ (if enacted then " enacted" else " disabled").toList := by
      cases enacted <;> decide
    have hwhole : Text.isWhole (if enacted then " enacted" else " disabled") = true :=
      Text.isWhole_of_lt (by cases enacted <;> decide)
    have hid := not_mem_toString (c := '[') (by decide) (by decide) id
    rw [Confirms, switchedMarks, String.append_assoc, String.append_assoc]
    apply hshows.success
    · simp only [String.toList_append, List.mem_append, not_or]
      exact ⟨by decide, hid, hword⟩
    · rw [Text.isWhole_append, Text.isWhole_append, isWhole_toString, hwhole,
        Text.isWhole_of_lt (by decide)]
      rfl
  | override name allow clear files =>
    have hname : '[' ∉ name.toList := by simpa [isPlain] using hplain
    intro hwhole done hdone
    have hword : '[' ∉ done.toList ∧ done.toList.all (·.toNat < 0xf0000) = true := by
      simp only [confirmations, List.mem_cons, List.not_mem_nil, or_false] at hdone
      obtain rfl | rfl | rfl | rfl := hdone <;> decide
    rw [String.append_assoc, String.append_assoc]
    apply hshows.success
    · simp only [String.toList_append, List.mem_append, not_or]
      exact ⟨by decide, hname, hword.1⟩
    · rw [Text.isWhole_append, Text.isWhole_append, hwhole, Text.isWhole_of_lt hword.2,
        Text.isWhole_of_lt (by decide)]
      rfl

/-- A command that asks keeps what it finds. -/
theorem kept_of_asks [Surrogates] {command : Command} (hasks : command.asks = true)
    (resolver : Resolver) (db : Database) : command.kept resolver db = db.completed := by
  cases command with
  | parse | toggle | list | load | query => rfl
  | add | enact | override => cases hasks

section Execute

variable [Surrogates] [Console] [Yaml.Reads] (accounts : List (String × Int))
  (workspace : Workspace)

theorem sameData_ending (command : Command) (hharmless : command.asks = true ∨
      (command.run.ending accounts workspace).exit ≠ 0 ∧ command.Confirms) :
    workspace.SameData (command.run.ending accounts workspace).workspace := by
  obtain ⟨_, result, output, hrun⟩ | ⟨settings, place, result, output, htarget, hrun, hsaved⟩ :=
    command.run_cases { workspace, accounts, opened := () }
  · obtain ⟨hafter, _⟩ := ending_eq_of_run accounts workspace hrun
    rw [hafter]
    exact .refl workspace
  · obtain ⟨hafter, hstopped⟩ := ending_eq_of_run accounts workspace hrun
    obtain ⟨_, _, _, _, _, db, hfound⟩ := target?_eq_some_iff.mp htarget
    obtain ⟨_, _, hcontent, _⟩ := Workspace.database_eq_ok_iff.mp hfound
    rw [hafter]
    apply Workspace.sameData_put hfound
    rw [Workspace.completed_of_content? hcontent]
    obtain hasks | ⟨hexit, hconfirms⟩ := hharmless
    · rw [kept_of_asks hasks, Database.completed_completed, Workspace.completed_stored]
    · obtain ⟨stop, hstop⟩ := hstopped hexit
      rw [hsaved stop hstop hconfirms, Workspace.completed_stored]

/-- A command line that asks leaves every stored rule and override as it was. So does every other
    that ends with a failure, unless the console cannot show the confirmation: that is shown when
    all is stored. If the console shows what commands say of themselves in marks of their own, only
    an override of an application with a bracket in its name can leave something else. -/
theorem sameData_execute (args : List String) :
    (∀ command, request args = .command command → command.asks = true →
      workspace.SameData (execute args accounts workspace).workspace) ∧
    ((execute args accounts workspace).exit ≠ 0 →
      (∀ command, request args = .command command → command.Confirms) →
        workspace.SameData (execute args accounts workspace).workspace) ∧
    (ShowsOwn → (execute args accounts workspace).exit ≠ 0 →
      (∀ command, request args = .command command → command.isPlain = true) →
        workspace.SameData (execute args accounts workspace).workspace) := by
  have hfailed : (execute args accounts workspace).exit ≠ 0 →
      (∀ command, request args = .command command → command.Confirms) →
        workspace.SameData (execute args accounts workspace).workspace := by
    unfold execute
    cases hrequest : request args with
    | misused => exact fun _ _ => .refl workspace
    | help => exact fun _ _ => .refl workspace
    | version =>
      obtain ⟨result, output, hrun⟩ :=
        shows_say (σ := Unit) versionLine { workspace, accounts, opened := () }
      intro _ _
      rw [(ending_eq_of_run accounts workspace hrun).1]
      exact .refl workspace
    | command command =>
      exact fun hexit hconfirms =>
        sameData_ending accounts workspace command (.inr ⟨hexit, hconfirms command rfl⟩)
  refine ⟨fun command hrequest hasks => ?_, hfailed, fun hshows hexit hplain => ?_⟩
  · rw [execute, hrequest]
    exact sameData_ending accounts workspace command (.inl hasks)
  · exact hfailed hexit fun command hrequest =>
      confirms_of_isPlain hshows (hplain command hrequest)

end Execute

/-- A list, and a number that no rule has, in an empty directory. -/
theorem sameData_execute_enact :
    Workspace.SameData {} (execute ["list", "--json"] [] {}).workspace ∧
      (execute ["enact", "5"] [] {}).exit ≠ 0 ∧
      Workspace.SameData {} (execute ["enact", "5"] [] {}).workspace := by
  have henact : request ["enact", "5"] = .command (.enact 5 true {}) := rfl
  have hexit : (execute ["enact", "5"] [] {}).exit ≠ 0 := by decide +kernel
  refine ⟨(sameData_execute [] {} _).1 (.list {} true) rfl rfl, hexit,
    (sameData_execute [] {} _).2.2 showsOwn_usual hexit ?_⟩
  intro command hcommand
  rw [henact] at hcommand
  cases hcommand
  rfl

/-- An override that is stored though the command fails: the name of the application closes a style
    that nothing opened. -/
theorem exists_not_sameData :
    (execute ["override", "[/x]", "--deny"] [] {}).exit = 1 ∧
      ¬ Workspace.SameData {} (execute ["override", "[/x]", "--deny"] [] {}).workspace := by
  have hstopped : (execute ["override", "[/x]", "--deny"] [] {}).exit = 1 ∧
      ((execute ["override", "[/x]", "--deny"] [] {}).workspace.stored ["netrules.db"]).overrides =
        .present ⟨[(some "[/x]", 0)]⟩ := by
    decide +kernel
  refine ⟨hstopped.1, fun hsame => ?_⟩
  have hstored := congrArg Database.overrides (hsame.stored ["netrules.db"])
  rw [hstopped.2] at hstored
  cases hstored

end AllowPolicy.Command
