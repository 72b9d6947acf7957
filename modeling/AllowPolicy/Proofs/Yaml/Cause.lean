import AllowPolicy.Yaml.Cursor

namespace AllowPolicy.Yaml

section Bind

variable {ε α β : Type} {x : Except ε α} {next : α → Except ε β}

theorem eq_ok_of_bind {b : β} (hok : x >>= next = .ok b) : ∃ a, x = .ok a ∧ next a = .ok b := by
  cases x with
  | error problem => cases hok
  | ok a => exact ⟨a, rfl, hok⟩

theorem eq_error_of_bind {problem : ε} (herror : x >>= next = .error problem) :
    x = .error problem ∨ ∃ a, x = .ok a ∧ next a = .error problem := by
  cases x with
  | error other => exact .inl (by cases herror; rfl)
  | ok a => exact .inr ⟨a, rfl, herror⟩

theorem bind_ne_error {problem : ε} (hx : x ≠ .error problem)
    (hnext : ∀ a, next a ≠ .error problem) : x >>= next ≠ .error problem := by
  intro herror
  obtain herror | ⟨a, _, herror⟩ := eq_error_of_bind herror
  · exact hx herror
  · exact hnext a herror

end Bind

variable {σ α β : Type} {cause : σ → Failure → Prop}

/-- From a state, a step fails for a value with an allowed failure only, and leaves causes of
    allowed failures only. -/
structure Blames (cause : σ → Failure → Prop) (allowed : Failure → Prop)
    (step : StateT σ (Except Problem) α) (s : σ) : Prop where
  failed : ∀ failure, step.run s = .error (.failed failure) → allowed failure
  left : ∀ a after, step.run s = .ok (a, after) → ∀ failure, cause after failure → allowed failure

/-- Whatever the state, a failure of the step for a value has a cause in it, and the step brings in
    no cause. -/
def FailsFor (cause : σ → Failure → Prop) (step : StateT σ (Except Problem) α) : Prop :=
  ∀ s, Blames cause (cause s) step s

variable {allowed : Failure → Prop} {s : σ} {step : StateT σ (Except Problem) α}
  {next : α → StateT σ (Except Problem) β}

theorem Blames.bind (hfailed : ∀ failure, step.run s = .error (.failed failure) → allowed failure)
    (hnext : ∀ a after, step.run s = .ok (a, after) → Blames cause allowed (next a) after) :
    Blames cause allowed (step >>= next) s := by
  have hrun : (step >>= next).run s = step.run s >>= fun found => (next found.1).run found.2 :=
    StateT.run_bind ..
  cases hresult : step.run s with
  | error problem =>
    rw [hresult] at hrun
    refine ⟨fun failure hstopped => ?_, fun a after hok => ?_⟩
    · rw [hrun] at hstopped
      cases hstopped
      exact hfailed failure hresult
    · rw [hrun] at hok
      cases hok
  | ok result =>
    obtain ⟨a, after⟩ := result
    rw [hresult] at hrun
    have hhere := hnext a after hresult
    exact ⟨fun failure hstopped => hhere.failed failure (hrun.symm.trans hstopped),
      fun b last hok => hhere.left b last (hrun.symm.trans hok)⟩

theorem FailsFor.blames (hstep : FailsFor cause step)
    (hcause : ∀ failure, cause s failure → allowed failure) : Blames cause allowed step s :=
  ⟨fun failure hfailed => hcause failure ((hstep s).failed failure hfailed),
    fun a after hok failure hleft => hcause failure ((hstep s).left a after hok failure hleft)⟩

theorem FailsFor.bind (hstep : FailsFor cause step) (hnext : ∀ a, FailsFor cause (next a)) :
    FailsFor cause (step >>= next) :=
  fun s => .bind (hstep s).failed fun a after hok => (hnext a).blames ((hstep s).left a after hok)

theorem FailsFor.ite {condition : Prop} [Decidable condition]
    {other : StateT σ (Except Problem) α} (hstep : FailsFor cause step)
    (hother : FailsFor cause other) : FailsFor cause (if condition then step else other) := by
  split
  · exact hstep
  · exact hother

theorem failsFor_pure (a : α) : FailsFor cause (pure a) := by
  refine fun s => ⟨nofun, fun b after hok failure hcause => ?_⟩
  cases hok
  exact hcause

theorem failsFor_malformed : FailsFor cause (malformed : StateT σ (Except Problem) α) :=
  fun _ => ⟨nofun, nofun⟩

theorem failsFor_modify {change : σ → σ}
    (hchange : ∀ s failure, cause (change s) failure → cause s failure) :
    FailsFor cause (modify change : StateT σ (Except Problem) PUnit) := by
  refine fun s => ⟨nofun, fun _ after hok => ?_⟩
  cases hok
  exact hchange s

theorem failsFor_get : FailsFor cause (get : StateT σ (Except Problem) σ) := by
  refine fun s => ⟨nofun, fun _ after hok failure hcause => ?_⟩
  cases hok
  exact hcause

/-- A step that looks at the state goes on from the very state that it saw. -/
theorem failsFor_get_bind {next : σ → StateT σ (Except Problem) β}
    (hnext : ∀ s, Blames cause (cause s) (next s) s) : FailsFor cause (get >>= next) := by
  refine fun s => .bind nofun fun seen after hok => ?_
  cases hok
  exact hnext s

theorem blames_set {after : σ} (hcause : ∀ failure, cause after failure → allowed failure) :
    Blames cause allowed (set after : StateT σ (Except Problem) PUnit) s := by
  refine ⟨nofun, fun _ last hok => ?_⟩
  cases hok
  exact hcause

end AllowPolicy.Yaml
