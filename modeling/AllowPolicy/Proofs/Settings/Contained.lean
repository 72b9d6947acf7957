import AllowPolicy.Proofs.Settings.Valid
import AllowPolicy.Proofs.Yaml.Uncaught

namespace AllowPolicy

open Command.Run (fault?)

variable [Yaml.Reads]

namespace Settings

/-- The settings are read and valid, or a report says why there are none. -/
inductive Contained : Outcome Settings → Prop
  | settings {settings : Settings} (hvalid : settings.Valid) : Contained (.ok settings)
  | reported {problem} (hkind : problem.fault.kind = .configuration)
      (hcode : problem.fault.code = 3001) : Contained (.error (.settings problem))

/-- What comes of a text: a failure of the reader's own ends the reading without a report, and
    nothing else does. -/
inductive Reads (text : String) : Outcome Settings → Prop
  | contained {outcome} (hread : ∀ failure, Yaml.Reads.read text ≠ .error (.failed failure))
      (hcontained : Contained outcome) : Reads text outcome
  | uncaught {failure} (hread : Yaml.Reads.read text = .error (.failed failure))
      (hreport : fault? failure = none) : Reads text (.error failure)

variable {text : String} {failure : Failure}

theorem ofText_of_failed (source : String)
    (hfailed : Yaml.Reads.read text = .error (.failed failure)) :
    ofText source text = .error failure := by
  rw [ofText, hfailed]

/-- Without such a failure, there are settings or a report. -/
theorem contained_ofText (source : String)
    (hread : ∀ failure, Yaml.Reads.read text ≠ .error (.failed failure)) :
    Contained (ofText source text) := by
  unfold ofText
  split
  · exact .reported rfl rfl
  · rename_i hfailed
    exact absurd hfailed (hread _)
  · rename_i v hread
    cases hvalue : ofValue (if v.isAbsent then .table [] else v) with
    | ok settings => exact .settings (valid_of_ofValue hvalue)
    | error refusal => exact .reported rfl rfl

theorem reads_ofText (hunreported : Yaml.Reads.Unreported) (source text : String) :
    Reads text (ofText source text) := by
  by_cases hfailed : ∃ failure, Yaml.Reads.read text = .error (.failed failure)
  · obtain ⟨failure, hfailed⟩ := hfailed
    rw [ofText_of_failed source hfailed]
    exact .uncaught hfailed (hunreported text failure hfailed)
  · have hread := not_exists.mp hfailed
    exact .contained hread (contained_ofText source hread)

end Settings

namespace Workspace

/-- The settings in a file are read and valid, or a report says that its content is wrong, or that
    it is none that can be read. -/
inductive Contained (workspace : Workspace) (given : String) : Outcome Settings → Prop
  | settings {settings : Settings} (hvalid : settings.Valid) :
      Contained workspace given (.ok settings)
  | content {content problem} (hfind : workspace.find? (.ofText given) = .ok (.text content))
      (hkind : problem.fault.kind = .configuration) (hcode : problem.fault.code = 3001) :
      Contained workspace given (.error (.settings problem))
  | unreadable {problem} (hfind : workspace.find? (.ofText given) = .ok .directory)
      (hkind : problem.fault.kind = .configuration) (hcode : problem.fault.code = 3002) :
      Contained workspace given (.error (.settings problem))

/-- The settings in a file cannot be had: the reader fails on the text of the file by itself, or the
    file is no text, or its name is too long for any file. -/
inductive Uncaught (workspace : Workspace) (given : String) : Failure → Prop
  | content {content failure} (hnamed : ¬ given.toList.contains '\x00')
      (hfind : workspace.find? (.ofText given) = .ok (.text content))
      (hread : Yaml.Reads.read (.ofList (unixLines content.toList)) = .error (.failed failure)) :
      Uncaught workspace given failure
  | notText {db} (hnamed : ¬ given.toList.contains '\x00')
      (hfind : workspace.find? (.ofText given) = .ok (.database db)) :
      Uncaught workspace given .notText
  | nameTooLong (hnamed : ¬ given.toList.contains '\x00')
      (hfind : workspace.find? (.ofText given) = .error .nameTooLong) :
      Uncaught workspace given (.system
        ("[Errno 36] File name too long: " ++ Text.quoted (Path.ofText given).shown))

/-- What comes of a path: such a file ends the reading without a report, and nothing else does. -/
inductive Reads (workspace : Workspace) (given : String) : Outcome Settings → Prop
  | contained {outcome} (hvalued : ∀ failure, ¬ Uncaught workspace given failure)
      (hcontained : Contained workspace given outcome) : Reads workspace given outcome
  | uncaught {failure} (hcause : Uncaught workspace given failure)
      (hreport : fault? failure = none) : Reads workspace given (.error failure)

variable {workspace : Workspace} {given : String} {failure : Failure}

theorem Uncaught.unreported (hunreported : Yaml.Reads.Unreported)
    (huncaught : Uncaught workspace given failure) : fault? failure = none := by
  cases huncaught with
  | content _ _ hread => exact hunreported _ _ hread
  | notText => rfl
  | nameTooLong => rfl

theorem settings_of_uncaught (huncaught : Uncaught workspace given failure) :
    workspace.settings given = .error failure := by
  cases huncaught with
  | content hnamed hfind hread =>
    simp only [settings, if_neg hnamed, hfind]
    exact Settings.ofText_of_failed _ hread
  | notText hnamed hfind => simp only [settings, if_neg hnamed, hfind]
  | nameTooLong hnamed hfind => simp only [settings, if_neg hnamed, hfind]

theorem contained_settings (hvalued : ∀ failure, ¬ Uncaught workspace given failure) :
    workspace.Contained given (workspace.settings given) := by
  unfold settings
  dsimp only
  split
  · exact .settings Settings.valid_default
  · rename_i hnamed
    split
    · rename_i hfind
      exact absurd (.nameTooLong hnamed hfind) (hvalued _)
    · exact .settings Settings.valid_default
    · rename_i hfind
      exact .unreadable hfind rfl rfl
    · rename_i hfind
      exact absurd (.notText hnamed hfind) (hvalued _)
    · rename_i content hfind
      have hcontained := Settings.contained_ofText (Path.ofText given).shown fun failure hread =>
        hvalued failure (.content hnamed hfind hread)
      generalize Settings.ofText (Path.ofText given).shown _ = outcome at hcontained
      cases hcontained with
      | settings hvalid => exact .settings hvalid
      | reported hkind hcode => exact .content hfind hkind hcode

theorem reads_settings (hunreported : Yaml.Reads.Unreported) (workspace : Workspace)
    (given : String) : workspace.Reads given (workspace.settings given) := by
  by_cases huncaught : ∃ failure, Uncaught workspace given failure
  · obtain ⟨failure, huncaught⟩ := huncaught
    rw [settings_of_uncaught huncaught]
    exact .uncaught huncaught (huncaught.unreported hunreported)
  · have hvalued := not_exists.mp huncaught
    exact .contained hvalued (contained_settings hvalued)

end Workspace

end AllowPolicy
