import AllowPolicy.Proofs.Bus.Snapshot
import AllowPolicy.Proofs.Engine.Fleet
import Mathlib.Data.List.Induction

namespace AllowPolicy.Engine.Fleet

variable {κ ι η ω : Type}

/-- An engine was started, whatever came of it, and has not been closed since. -/
def Live (name : κ) (calls : List (ι × Call κ η ω)) : Prop :=
  ∃ before thread after, calls = before ++ (thread, .start name) :: after ∧
    ∀ call ∈ after, call.2 ≠ .close name

theorem not_live_nil (name : κ) : ¬ Live name ([] : List (ι × Call κ η ω)) := by
  rintro ⟨before, thread, after, hcalls, _⟩
  cases before <;> cases hcalls

theorem live_concat_iff {name : κ} {calls : List (ι × Call κ η ω)} {thread : ι}
    {call : Call κ η ω} :
    Live name (calls ++ [(thread, call)]) ↔
      call = .start name ∨ Live name calls ∧ call ≠ .close name := by
  constructor
  · rintro ⟨before, starter, after, hcalls, hopen⟩
    rcases after.eq_nil_or_concat with rfl | ⟨early, last, rfl⟩
    · obtain ⟨-, hlast⟩ := List.append_inj' hcalls rfl
      cases hlast
      exact .inl rfl
    · rw [List.concat_eq_append, ← List.cons_append, ← List.append_assoc] at hcalls
      obtain ⟨rfl, hlast⟩ := List.append_inj' hcalls rfl
      cases hlast
      simp only [List.concat_eq_append, List.forall_mem_append, List.forall_mem_singleton] at hopen
      exact .inr ⟨⟨before, starter, early, rfl, hopen.1⟩, hopen.2⟩
  · rintro (rfl | ⟨⟨before, starter, after, rfl, hopen⟩, hlast⟩)
    · exact ⟨calls, thread, [], rfl, by simp⟩
    · refine ⟨before, starter, after ++ [(thread, call)], by simp, ?_⟩
      rw [List.forall_mem_append, List.forall_mem_singleton]
      exact ⟨hopen, hlast⟩

section

variable [DecidableEq κ] [DecidableEq η]

/-- Nobody is inside an engine, and the bus has one subscription of each engine that listens, to
    updates, and none of the others. -/
structure Wired (fleet : Fleet κ ι η ω) : Prop where
  unused : ∀ name, (fleet.engine name).lock = {}
  count : ∀ name, fleet.bus.subscriptions.count ⟨rulesUpdate, .own name⟩ =
    if (fleet.engine name).listening then 1 else 0
  only : ∀ event name, (⟨event, .own name⟩ : Subscription (Handler κ η)) ∈ fleet.bus.subscriptions →
    event = rulesUpdate

theorem wired_idle (engine : κ → Engine ι) (others : List (Subscription η)) (rest : ω) :
    (idle engine others rest : Fleet κ ι η ω).Wired := by
  have hothers (event : String) (name : κ) :
      (⟨event, .own name⟩ : Subscription (Handler κ η)) ∉
        (idle engine others rest : Fleet κ ι η ω).bus.subscriptions := by
    simp [idle]
  exact ⟨fun _ => rfl, fun name => List.count_eq_zero_of_not_mem (hothers _ name),
    fun event name hmem => absurd hmem (hothers event name)⟩

/-- What changes neither the bus nor who listens keeps a fleet wired. -/
theorem Wired.of_bus_eq {fleet after : Fleet κ ι η ω} (hwired : fleet.Wired)
    (hbus : after.bus = fleet.bus)
    (hengine : ∀ name, (after.engine name).lock = (fleet.engine name).lock ∧
      (after.engine name).listening = (fleet.engine name).listening) : after.Wired where
  unused name := (hengine name).1.trans (hwired.unused name)
  count name := by rw [hbus, (hengine name).2, hwired.count]
  only := by rw [hbus]; exact hwired.only

theorem Wired.listened {fleet : Fleet κ ι η ω} (hwired : fleet.Wired) (name : κ) :
    (fleet.listened name).Wired := by
  by_cases hlistening : (fleet.engine name).listening
  · rwa [Fleet.listened, if_pos hlistening]
  · have hbus : (fleet.listened name).bus = fleet.bus.subscribe ⟨rulesUpdate, .own name⟩ := by
      rw [Fleet.listened, if_neg hlistening]
    refine ⟨fun other => ?_, fun other => ?_, fun event other hmem => ?_⟩
    · rw [engine_listened, Function.update_apply]
      split <;> exact hwired.unused _
    · rw [hbus, engine_listened, Bus.subscribe, List.count_append, hwired.count,
        List.count_singleton, Function.update_apply]
      by_cases hname : other = name
      · simp [hname, hlistening]
      · simp [hname, Ne.symm hname]
    · rw [hbus, Bus.subscribe, List.mem_append, List.mem_singleton] at hmem
      rcases hmem with hmem | hnew
      · exact hwired.only event other hmem
      · cases hnew
        rfl

theorem Wired.ignored {fleet : Fleet κ ι η ω} (hwired : fleet.Wired) (name : κ) :
    (fleet.ignored name).Wired := by
  by_cases hlistening : (fleet.engine name).listening
  · have hbus : (fleet.ignored name).bus = fleet.bus.unsubscribe ⟨rulesUpdate, .own name⟩ := by
      rw [Fleet.ignored, if_pos hlistening]
    refine ⟨fun other => ?_, fun other => ?_, fun event other hmem => ?_⟩
    · rw [engine_ignored, Function.update_apply]
      split <;> exact hwired.unused _
    · rw [hbus, engine_ignored, Bus.unsubscribe, List.count_erase, hwired.count,
        Function.update_apply]
      by_cases hname : other = name
      · simp [hname, hlistening]
      · simp [hname, Ne.symm hname]
    · rw [hbus] at hmem
      exact hwired.only event other (List.mem_of_mem_erase hmem)
  · rwa [Fleet.ignored, if_neg hlistening]

/-- Handlers of others come and go without a difference to the engines. -/
theorem Wired.of_others {fleet : Fleet κ ι η ω} (hwired : fleet.Wired) {bus : Bus (Handler κ η)}
    (hcount : ∀ event name, bus.subscriptions.count ⟨event, .own name⟩ =
      fleet.bus.subscriptions.count ⟨event, .own name⟩) :
    ({ fleet with bus } : Fleet κ ι η ω).Wired where
  unused := hwired.unused
  count name := (hcount rulesUpdate name).trans (hwired.count name)
  only event name hmem := by
    rw [← List.count_pos_iff, hcount, List.count_pos_iff] at hmem
    exact hwired.only event name hmem

/-- An event goes to the engines that listen if it is an update, and else to none. -/
theorem Wired.mem_handlers_iff {fleet : Fleet κ ι η ω} (hwired : fleet.Wired) (event : String)
    (name : κ) :
    .own name ∈ fleet.bus.handlers event ↔
      event = rulesUpdate ∧ (fleet.engine name).listening = true := by
  have hmem : .own name ∈ fleet.bus.handlers event ↔
      ⟨event, .own name⟩ ∈ fleet.bus.subscriptions := by
    rw [← List.count_pos_iff, Bus.count_handlers, List.count_pos_iff]
  have hlistening : ⟨rulesUpdate, .own name⟩ ∈ fleet.bus.subscriptions ↔
      (fleet.engine name).listening = true := by
    rw [← List.count_pos_iff, hwired.count]
    split <;> simp_all
  rw [hmem]
  constructor
  · intro hmem
    obtain rfl := hwired.only event name hmem
    exact ⟨rfl, hlistening.mp hmem⟩
  · rintro ⟨rfl, hlistens⟩
    exact hlistening.mpr hlistens

end

variable [DecidableEq κ]

/-- What a call comes to for the engine of a name. -/
def Call.effect (name : κ) (engine : Engine ι) : Call κ η ω → Engine ι
  | .start other => if other = name then started engine else engine
  | .close other => if other = name then ended engine else engine
  | .publish event =>
    if event = rulesUpdate ∧ engine.listening then (refreshed engine).2 else engine
  | .edit other change => if other = name then edited change engine else engine
  | _ => engine

/-- A call may make a difference to the engine of a name. -/
def Call.concerns (name : κ) : Call κ η ω → Bool
  | .start other => other = name
  | .close other => other = name
  | .publish event => event = rulesUpdate
  | .edit other _ => other = name
  | _ => false

theorem Call.effect_of_not_concerns {name : κ} {call : Call κ η ω}
    (hconcerns : call.concerns name = false) (engine : Engine ι) :
    call.effect name engine = engine := by
  cases call <;> simp_all [Call.concerns, Call.effect]

theorem Call.listening_effect_iff (name : κ) (engine : Engine ι) (call : Call κ η ω) :
    (call.effect name engine).listening = true ↔
      call = .start name ∨ engine.listening = true ∧ call ≠ .close name := by
  cases call with
  | start other =>
    by_cases hname : other = name <;> simp [Call.effect, started, hname]
  | close other =>
    by_cases hname : other = name <;> simp [Call.effect, ended, hname]
  | publish event =>
    simp only [Call.effect]
    split <;> simp [listening_refreshed]
  | edit other change =>
    by_cases hname : other = name <;> simp [Call.effect, edited, hname]
  | join other => simp [Call.effect]
  | leave other => simp [Call.effect]
  | pass change => simp [Call.effect]

theorem Same.effect {a b : Engine ι} (hsame : Same a b) (call : Call κ η ω) (name : κ) :
    Same (call.effect name a) (call.effect name b) := by
  cases call with
  | start other =>
    simp only [Call.effect]
    split
    · obtain ⟨hresolver, hstore, hlock, hoverrides, hallowlist⟩ := hsame.toAlike.refreshed
      exact ⟨⟨hresolver, hstore, hlock, hoverrides, hallowlist⟩, rfl⟩
    · exact hsame
  | close other =>
    simp only [Call.effect]
    split
    · exact ⟨⟨hsame.resolver, congrArg Store.close hsame.store, hsame.lock, hsame.overrides,
        hsame.allowlist⟩, rfl⟩
    · exact hsame
  | publish event =>
    simp only [Call.effect, hsame.listening]
    split
    · refine ⟨hsame.toAlike.refreshed, ?_⟩
      rw [listening_refreshed, listening_refreshed, hsame.listening]
    · exact hsame
  | edit other change =>
    simp only [Call.effect]
    split
    · exact ⟨⟨hsame.resolver, congrArg change hsame.store, hsame.lock, hsame.overrides,
        hsame.allowlist⟩, hsame.listening⟩
    · exact hsame
  | join other => exact hsame
  | leave other => exact hsame
  | pass change => exact hsame

/-- What some calls come to for the engine of a name, were it alone. -/
def solo (name : κ) (engine : Engine ι) (calls : List (ι × Call κ η ω)) : Engine ι :=
  calls.foldl (fun engine made => made.2.effect name engine) engine

theorem solo_concat (name : κ) (engine : Engine ι) (calls : List (ι × Call κ η ω))
    (made : ι × Call κ η ω) :
    solo name engine (calls ++ [made]) = made.2.effect name (solo name engine calls) := by
  simp [solo]

/-- Calls that do not concern an engine may be left out. -/
theorem solo_filter (name : κ) (engine : Engine ι) (calls : List (ι × Call κ η ω)) :
    solo name engine (calls.filter (·.2.concerns name)) = solo name engine calls := by
  induction calls generalizing engine with
  | nil => rfl
  | cons made rest ih =>
    cases hconcerns : made.2.concerns name
    · rw [List.filter_cons_of_neg (by simpa using hconcerns), ih]
      simp [solo, Call.effect_of_not_concerns hconcerns]
    · rw [List.filter_cons_of_pos (by simpa using hconcerns)]
      exact ih _

/-- The engine that something is done with, and no other one, is another afterwards. -/
theorem same_update {engine : κ → Engine ι} {name : κ} {fresh : Engine ι}
    {f : Engine ι → Engine ι} (hsame : Same fresh (f (engine name))) (other : κ) :
    Same (Function.update engine name fresh other)
      (if name = other then f (engine other) else engine other) := by
  by_cases hname : name = other
  · subst hname
    rw [Function.update_self, if_pos rfl]
    exact hsame
  · rw [Function.update_of_ne (Ne.symm hname), if_neg hname]
    exact .refl _

variable [DecidableEq ι] [DecidableEq η]

/-- After a call, each engine is as the call has it, and the fleet is wired as before. -/
theorem Wired.perform {fleet : Fleet κ ι η ω} (hwired : fleet.Wired)
    (around : Surroundings κ ι η ω) (made : ι × Call κ η ω) :
    (Fleet.perform around fleet made).Wired ∧ ∀ name,
      Same ((Fleet.perform around fleet made).engine name)
        (made.2.effect name (fleet.engine name)) := by
  obtain ⟨thread, call⟩ := made
  cases call with
  | start name =>
    obtain ⟨engine, rest, hrun, hsame⟩ := run_start around thread name (hwired.unused name)
    have hperform : Fleet.perform around fleet (thread, .start name) = _ := hrun
    rw [hperform]
    refine ⟨(hwired.listened name).of_bus_eq rfl fun other => ?_, same_update hsame⟩
    rw [engine_listened]
    simp only [Function.update_apply]
    split
    · exact ⟨hsame.lock.trans (lock_refreshed _), hsame.listening⟩
    · exact ⟨rfl, rfl⟩
  | close name =>
    obtain ⟨engine, rest, hrun, hsame⟩ := run_close around thread name fleet
    have hperform : Fleet.perform around fleet (thread, .close name) = _ := hrun
    rw [hperform]
    refine ⟨(hwired.ignored name).of_bus_eq rfl fun other => ?_, same_update hsame⟩
    rw [engine_ignored]
    simp only [Function.update_apply]
    split
    · exact ⟨hsame.lock, hsame.listening⟩
    · exact ⟨rfl, rfl⟩
  | publish event =>
    obtain ⟨rest, hrun⟩ := run_deliver around thread event (fleet.bus.handlers event) hwired.unused
    have hperform : Fleet.perform around fleet (thread, .publish event) = _ :=
      (Bus.run_publish Fleet.bus (Fleet.call around thread) event fleet).trans hrun
    rw [hperform]
    refine ⟨hwired.of_bus_eq rfl fun name => ⟨lock_updated .., listening_updated ..⟩,
      fun name => ?_⟩
    simp only [updated, hwired.mem_handlers_iff]
    exact .refl _
  | edit name change =>
    refine ⟨hwired.of_bus_eq rfl fun other => ?_, same_update (.refl _)⟩
    have hperform : (Fleet.perform around fleet (thread, .edit name change)).engine =
        Function.update fleet.engine name (edited change (fleet.engine name)) := rfl
    rw [hperform, Function.update_apply]
    split
    · next hname =>
      rw [hname]
      exact ⟨rfl, rfl⟩
    · exact ⟨rfl, rfl⟩
  | join other =>
    refine ⟨hwired.of_others fun event name => ?_, fun name => .refl _⟩
    simp [Bus.subscribe]
  | leave other =>
    refine ⟨hwired.of_others fun event name => ?_, fun name => .refl _⟩
    simp [Bus.unsubscribe]
  | pass change => exact ⟨hwired.of_bus_eq rfl fun _ => ⟨rfl, rfl⟩, fun name => .refl _⟩

theorem run_concat (around : Surroundings κ ι η ω) (fleet : Fleet κ ι η ω)
    (calls : List (ι × Call κ η ω)) (made : ι × Call κ η ω) :
    run around fleet (calls ++ [made]) = Fleet.perform around (run around fleet calls) made := by
  simp [run]

theorem wired_run (around : Surroundings κ ι η ω) {fleet : Fleet κ ι η ω} (hwired : fleet.Wired)
    (calls : List (ι × Call κ η ω)) : (run around fleet calls).Wired := by
  induction calls using List.reverseRecOn with
  | nil => exact hwired
  | append_singleton calls made ih =>
    rw [run_concat]
    exact (ih.perform around made).1

/-- An engine listens exactly if it is live. -/
theorem listening_run_iff (around : Surroundings κ ι η ω) (engine : κ → Engine ι)
    (others : List (Subscription η)) (rest : ω) (calls : List (ι × Call κ η ω)) (name : κ) :
    ((run around (idle engine others rest) calls).engine name).listening = true ↔
      Live name calls := by
  induction calls using List.reverseRecOn with
  | nil => exact iff_of_false (by simp [run, idle]) (not_live_nil name)
  | append_singleton calls made ih =>
    have hwired := wired_run around (wired_idle engine others rest) calls
    rw [run_concat, ((hwired.perform around made).2 name).listening, Call.listening_effect_iff, ih,
      live_concat_iff]

theorem same_run (around : Surroundings κ ι η ω) {fleet : Fleet κ ι η ω} (hwired : fleet.Wired)
    (calls : List (ι × Call κ η ω)) (name : κ) :
    Same ((run around fleet calls).engine name) (solo name (fleet.engine name) calls) := by
  induction calls using List.reverseRecOn with
  | nil => exact .refl _
  | append_singleton calls made ih =>
    rw [run_concat, solo_concat]
    have hmade := ((wired_run around hwired calls).perform around made).2 name
    exact hmade.trans (ih.effect made.2 name)

/-- The engine of a name is called once by an update if it listens, and is not called else. -/
theorem Wired.publish {fleet : Fleet κ ι η ω} (hwired : fleet.Wired)
    (around : Surroundings κ ι η ω) (thread : ι) (name : κ) :
    let published := ((Bus.publish (·.state.bus) (Bus.Heard.call (call around thread))
      rulesUpdate).run { state := fleet }).value.2
    published.calls.count ⟨rulesUpdate, .own name⟩ =
        (if (fleet.engine name).listening then 1 else 0) ∧
      published.state.engine name =
        if (fleet.engine name).listening then (refreshed (fleet.engine name)).2
        else fleet.engine name := by
  constructor
  · rw [Bus.calls_publish fun fleet : Fleet κ ι η ω => fleet.bus]
    simp [List.count_filter, hwired.count]
  · obtain ⟨rest, hdeliver⟩ := run_deliver around thread rulesUpdate
      (fleet.bus.handlers rulesUpdate) hwired.unused
    rw [Bus.state_publish fun fleet : Fleet κ ι η ω => fleet.bus, Bus.run_publish, hdeliver]
    simp only [updated, hwired.mem_handlers_iff, true_and]

/-- Engines share a bus. They are started and closed in any order, also again and whatever comes of
    it, updates are published, and others change their stores and use the bus. At all times an
    engine has one subscription to updates if it was started and not closed since, even if its rules
    could not be loaded, and else none. An update calls it once or not at all, and it refreshes or
    stays as it is. What happens to the other engines makes no difference to it. -/
theorem subscribed_while_live (around : Surroundings κ ι η ω) (engine : κ → Engine ι)
    (others : List (Subscription η)) (rest : ω) (calls : List (ι × Call κ η ω)) (name : κ) :
    let fleet := run around (idle engine others rest) calls
    (fleet.bus.handlers rulesUpdate).count (.own name) ≤ 1 ∧
      (.own name ∈ fleet.bus.handlers rulesUpdate ↔ Live name calls) ∧
      (∀ thread,
        let published := ((Bus.publish (·.state.bus) (Bus.Heard.call (call around thread))
          rulesUpdate).run { state := fleet }).value.2
        (Live name calls → published.calls.count ⟨rulesUpdate, .own name⟩ = 1 ∧
          published.state.engine name = (refreshed (fleet.engine name)).2) ∧
        (¬ Live name calls → published.calls.count ⟨rulesUpdate, .own name⟩ = 0 ∧
          published.state.engine name = fleet.engine name)) ∧
      Same (fleet.engine name)
        ((run around (idle engine others rest)
          (calls.filter (·.2.concerns name))).engine name) := by
  intro fleet
  have hidle := wired_idle engine others rest
  have hwired : fleet.Wired := wired_run around hidle calls
  have hlive : (fleet.engine name).listening = true ↔ Live name calls :=
    listening_run_iff around engine others rest calls name
  refine ⟨?_, ?_, fun thread => ?_, ?_⟩
  · rw [Bus.count_handlers, hwired.count]
    split <;> decide
  · rw [hwired.mem_handlers_iff, ← hlive]
    exact and_iff_right rfl
  · have hpublish := hwired.publish around thread name
    constructor
    · intro hlives
      simpa only [hlive.mpr hlives, if_true] using hpublish
    · intro hdead
      simpa only [if_neg (mt hlive.mp hdead)] using hpublish
  · have hsolo := same_run around hidle (calls.filter (·.2.concerns name)) name
    rw [solo_filter] at hsolo
    exact (same_run around hidle calls name).trans hsolo.symm

/-- The start of the one engine fails, and the other one is closed. -/
example :
    let around : Surroundings Bool Unit Empty Unit :=
      { handle := nofun, now := fun _ _ => 0, schedule := fun _ _ => pure (),
        cancelAll := fun _ => pure () }
    let fleet := idle (fun name => onLines (if name then ["allow host:a host:b"] else [])) [] ()
    let calls : List (Unit × Call Bool Empty Unit) :=
      [((), .start true), ((), .start false), ((), .close false)]
    ((site around () true).start.run fleet).value.1.isOk = false ∧
      (run around fleet calls).bus.handlers rulesUpdate = [.own true] := by
  decide +kernel

end AllowPolicy.Engine.Fleet
