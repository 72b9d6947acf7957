import AllowPolicy.Proofs.Engine.Host

namespace AllowPolicy.Engine

/-- What is asked of an engine, or done to its store behind its back. -/
inductive Request where
  | start
  | refresh
  | addRule (text : Value) (enacted : Int)
  | setEnacted (id enacted : Int)
  | replaceRules (texts : List Value)
  | setOverride (name : Option String) (verdict : Verdict)
  | removeOverride (name : Option String)
  | publish (event : String)
  | direct (op : Store.Op Unit)

namespace Request

variable {ι η ω : Type}

/-- The request makes the engine refresh. -/
def refreshes (host : Host ι η ω) : Request → Bool
  | .start | .refresh => true
  | .publish event => (host.bus.handlers event).any (·.isNone)
  | _ => false

variable [DecidableEq ι]

/-- What a request does, on the thread that makes it. -/
def act (around : Around ι η ω) (thread : ι) : Request → Act (Host ι η ω) Unit
  | .start => do
    let _ ← (Host.site around thread).start
  | .refresh => do
    let _ ← (Host.site around thread).act (Engine.refresh thread)
  | .addRule text enacted => do
    let _ ← (Host.site around thread).act (Engine.addRule thread text enacted)
  | .setEnacted id enacted => do
    let _ ← (Host.site around thread).act (Engine.setEnacted thread id enacted)
  | .replaceRules texts => do
    let _ ← (Host.site around thread).act (Engine.replaceRules thread texts)
  | .setOverride name verdict => do
    let _ ← (Host.site around thread).act (Engine.setOverride name verdict)
  | .removeOverride name => do
    let _ ← (Host.site around thread).act (Engine.removeOverride name)
  | .publish event => do
    let site := Host.site around thread
    let _ ← Bus.publish site.bus site.call event
  | .direct op => do
    let _ ← (Host.site around thread).act (Engine.onStore op)

theorem run_publish (around : Around ι η ω) (thread : ι) (event : String) (host : Host ι η ω) :
    ((act around thread (.publish event)).run host).value.2 =
      ((Bus.deliver ((Host.site around thread).call · event) event
        (host.bus.handlers event)).run host).value.2 :=
  Bus.run_publish _ _ _ _

/-- A request that makes the engine refresh comes to a refresh, as far as what is in force is
    concerned. -/
theorem alike_of_refreshes (around : Around ι η ω) (thread : ι) {request : Request}
    {host : Host ι η ω} (hrefreshes : request.refreshes host = true)
    (hunused : host.engine.lock = {}) :
    Alike ((request.act around thread).run host).value.2.engine (refreshed host.engine).2 := by
  cases request with
  | start =>
    obtain ⟨engine, rest, hrun, halike, _⟩ := Host.run_start around thread hunused
    exact congrArg Host.engine hrun ▸ halike
  | refresh =>
    rw [← refresh_unused thread hunused]
    exact ⟨rfl, rfl, rfl, rfl, rfl⟩
  | publish event =>
    obtain ⟨rest, hrun⟩ := Host.run_deliver around thread event (host.bus.handlers event) hunused
    rw [refreshes] at hrefreshes
    rw [run_publish, hrun, if_pos hrefreshes]
    exact ⟨rfl, rfl, rfl, rfl, rfl⟩
  | addRule text enacted => cases hrefreshes
  | setEnacted id enacted => cases hrefreshes
  | replaceRules texts => cases hrefreshes
  | setOverride name verdict => cases hrefreshes
  | removeOverride name => cases hrefreshes
  | direct op => cases hrefreshes

/-- Two engines with the same rules in force, in the same world and with the same permits given
    out, of which both or neither hear of updates. -/
structure SameRules (a b : Engine ι) : Prop where
  resolver : a.resolver = b.resolver
  lock : a.lock = b.lock
  allowlist : a.allowlist = b.allowlist
  listening : a.listening = b.listening

theorem sameRules_exclusively {α : Type} (thread : ι) (op : Store.Op α) {engine : Engine ι}
    (hunused : engine.lock = {}) :
    SameRules ((exclusively thread op).run engine).value.2 engine := by
  rw [exclusively_unused thread op hunused]
  exact ⟨rfl, rfl, rfl, rfl⟩

omit [DecidableEq ι] in
theorem sameRules_setOverride (name : Option String) (verdict : Verdict) (engine : Engine ι) :
    SameRules ((Engine.setOverride name verdict).run engine).value.2 engine := by
  simp only [Engine.setOverride, onStore, StateT.run_bind, StateT.run_get,
    Logged.value_bind, Logged.value_pure]
  rcases (Store.setOverride name verdict.toInt).run.run engine.store with ⟨_ | _, after⟩
  · exact ⟨rfl, rfl, rfl, rfl⟩
  · exact ⟨rfl, rfl, rfl, rfl⟩

omit [DecidableEq ι] in
theorem sameRules_removeOverride (name : Option String) (engine : Engine ι) :
    SameRules ((Engine.removeOverride name).run engine).value.2 engine := by
  simp only [Engine.removeOverride, onStore, StateT.run_bind, StateT.run_get,
    Logged.value_bind, Logged.value_pure]
  rcases (Store.removeOverride name).run.run engine.store with ⟨_ | _, after⟩
  · exact ⟨rfl, rfl, rfl, rfl⟩
  · exact ⟨rfl, rfl, rfl, rfl⟩

/-- Other requests leave the rules in force alone. -/
theorem sameRules_of_not_refreshes (around : Around ι η ω) (thread : ι) {request : Request}
    {host : Host ι η ω} (hquiet : request.refreshes host = false)
    (hunused : host.engine.lock = {}) :
    SameRules ((request.act around thread).run host).value.2.engine host.engine := by
  cases request with
  | start => cases hquiet
  | refresh => cases hquiet
  | addRule text enacted => exact sameRules_exclusively thread (Store.addRule text enacted) hunused
  | setEnacted id enacted =>
    exact sameRules_exclusively thread (Store.setEnacted id enacted) hunused
  | replaceRules texts => exact sameRules_exclusively thread (Store.replaceRules texts) hunused
  | setOverride name verdict => exact sameRules_setOverride name verdict host.engine
  | removeOverride name => exact sameRules_removeOverride name host.engine
  | publish event =>
    obtain ⟨rest, hrun⟩ := Host.run_deliver around thread event (host.bus.handlers event) hunused
    rw [refreshes] at hquiet
    rw [run_publish, hrun, hquiet]
    exact ⟨rfl, rfl, rfl, rfl⟩
  | direct op => exact ⟨rfl, rfl, rfl, rfl⟩

/-- Requests other than to start keep the subscriptions, and whether the engine hears of updates. -/
theorem bus_of_ne_start (around : Around ι η ω) (thread : ι) {request : Request}
    {host : Host ι η ω} (hother : request ≠ .start) (hunused : host.engine.lock = {}) :
    ((request.act around thread).run host).value.2.bus = host.bus ∧
      ((request.act around thread).run host).value.2.engine.listening = host.engine.listening := by
  cases hrefreshes : request.refreshes host with
  | false =>
    have hsame := sameRules_of_not_refreshes around thread hrefreshes hunused
    refine ⟨?_, hsame.listening⟩
    cases request with
    | publish event =>
      obtain ⟨rest, hrun⟩ := Host.run_deliver around thread event (host.bus.handlers event) hunused
      rw [run_publish, hrun]
    | _ => first | rfl | cases hrefreshes
  | true =>
    cases request with
    | start => exact absurd rfl hother
    | refresh =>
      refine ⟨rfl, ?_⟩
      rw [← listening_refreshed host.engine, ← refresh_unused thread hunused]
      rfl
    | publish event =>
      obtain ⟨rest, hrun⟩ := Host.run_deliver around thread event (host.bus.handlers event) hunused
      rw [refreshes] at hrefreshes
      rw [run_publish, hrun, if_pos hrefreshes]
      exact ⟨rfl, listening_refreshed host.engine⟩
    | _ => cases hrefreshes

end Request

/-- An engine in use, with the rows that were in force in its store at the last good refresh. -/
structure Session (ι η ω : Type) where
  host : Host ι η ω
  basis : Rows := []

namespace Session

variable {ι η ω : Type} [DecidableEq ι]

def perform (around : Around ι η ω) (session : Session ι η ω) (call : ι × Request) :
    Session ι η ω where
  host := ((call.2.act around call.1).run session.host).value.2
  basis :=
    if call.2.refreshes session.host &&
        ((Engine.refresh call.1).run session.host.engine).value.1.isOk then
      rows session.host.engine.store
    else session.basis

/-- The session after requests in some order, from an engine that has not started, with an empty
    allowlist and a lock that nobody has used. -/
def run (around : Around ι η ω) (engine : Engine ι) (bus : Bus (Option η)) (rest : ω)
    (calls : List (ι × Request)) : Session ι η ω :=
  calls.foldl (perform around)
    { host :=
        { engine := { engine with lock := {}, allowlist := {}, listening := false }, bus, rest } }

/-- The rules in force are those of the last good refresh, no permit is given out, and an engine
    that hears of updates is on the bus. -/
structure Current (resolver : Resolver) (session : Session ι η ω) : Prop where
  fixed : session.host.engine.resolver = resolver
  unused : session.host.engine.lock = {}
  loaded : ∃ report, Loading.outcome Allowlist.sink resolver session.basis {} =
    (.ok report, session.host.engine.allowlist)
  heard : session.host.engine.listening = true →
    (Request.publish rulesUpdate).refreshes session.host = true

/-- A request whose refresh fails leaves everything in force as it was. -/
theorem Current.perform_failed {resolver : Resolver} {session : Session ι η ω}
    (hcurrent : Current resolver session) (around : Around ι η ω) {thread : ι} {request : Request}
    (hrefreshes : request.refreshes session.host = true) {failure : Failure}
    (hfailed : ((Engine.refresh thread).run session.host.engine).value.1 = .error failure) :
    Alike (session.perform around (thread, request)).host.engine session.host.engine ∧
      (session.perform around (thread, request)).basis = session.basis := by
  have halike := Request.alike_of_refreshes around thread hrefreshes hcurrent.unused
  constructor
  · rw [refresh_unused thread hcurrent.unused] at hfailed
    rcases refreshed_cases session.host.engine with
      ⟨other, hother⟩ | ⟨report, fresh, stored, _, _, hdone⟩
    · rwa [hother] at halike
    · rw [hdone] at hfailed
      cases hfailed
  · simp [Session.perform, hrefreshes, hfailed, Except.isOk, Except.toBool]

/-- A request whose refresh goes through puts the stored rules and overrides in force together. -/
theorem Current.perform_done {resolver : Resolver} {session : Session ι η ω}
    (hcurrent : Current resolver session) (around : Around ι η ω) {thread : ι} {request : Request}
    (hrefreshes : request.refreshes session.host = true) {report : LoadReport}
    (hdone : ((Engine.refresh thread).run session.host.engine).value.1 = .ok report) :
    ∃ fresh stored,
      Loading.outcome Allowlist.sink resolver (rows session.host.engine.store) {} =
        (.ok report, fresh) ∧
      (Store.overrides.run.run session.host.engine.store).1 = .ok stored ∧
      Alike (session.perform around (thread, request)).host.engine
        { session.host.engine with overrides := inForce stored, allowlist := fresh } ∧
      (session.perform around (thread, request)).basis = rows session.host.engine.store := by
  have halike := Request.alike_of_refreshes around thread hrefreshes hcurrent.unused
  have hbasis : (session.perform around (thread, request)).basis =
      rows session.host.engine.store := by
    simp [Session.perform, hrefreshes, hdone, Except.isOk, Except.toBool]
  rw [refresh_unused thread hcurrent.unused] at hdone
  rcases refreshed_cases session.host.engine with
    ⟨failure, hfailed⟩ | ⟨report', fresh, stored, hload, hstored, hrefreshed⟩
  · rw [hfailed] at hdone
    cases hdone
  · rw [hrefreshed] at hdone halike
    cases hdone
    rw [hcurrent.fixed] at hload
    exact ⟨fresh, stored, hload, hstored, halike, hbasis⟩

theorem Current.perform_quiet {resolver : Resolver} {session : Session ι η ω}
    (hcurrent : Current resolver session) (around : Around ι η ω) {thread : ι} {request : Request}
    (hquiet : request.refreshes session.host = false) :
    Request.SameRules (session.perform around (thread, request)).host.engine session.host.engine ∧
      (session.perform around (thread, request)).basis = session.basis := by
  refine ⟨Request.sameRules_of_not_refreshes around thread hquiet hcurrent.unused, ?_⟩
  simp [Session.perform, hquiet]

theorem Current.perform_heard {resolver : Resolver} {session : Session ι η ω}
    (hcurrent : Current resolver session) (around : Around ι η ω) (call : ι × Request)
    (hlistening : (session.perform around call).host.engine.listening = true) :
    (Request.publish rulesUpdate).refreshes (session.perform around call).host = true := by
  obtain ⟨thread, request⟩ := call
  by_cases hstart : request = .start
  · subst hstart
    obtain ⟨engine, rest, hrun, _⟩ := Host.run_start around thread hcurrent.unused
    have hhost : (session.perform around (thread, .start)).host =
        { engine, bus := session.host.listened.bus, rest } := hrun
    rw [Request.refreshes, hhost]
    by_cases hbefore : session.host.engine.listening
    · rw [Host.listened, if_pos hbefore]
      exact hcurrent.heard hbefore
    · rw [Host.listened, if_neg hbefore]
      simp [Bus.handlers, Bus.subscribe]
  · obtain ⟨hbus, hsame⟩ := Request.bus_of_ne_start around thread hstart hcurrent.unused
    rw [Request.refreshes, Session.perform, hbus]
    exact hcurrent.heard (hsame.symm.trans hlistening)

theorem Current.perform {resolver : Resolver} {session : Session ι η ω}
    (hcurrent : Current resolver session) (around : Around ι η ω) (call : ι × Request) :
    Current resolver (session.perform around call) := by
  have hheard := hcurrent.perform_heard around call
  obtain ⟨thread, request⟩ := call
  obtain ⟨hfixed, hunused, hloaded, _⟩ := id hcurrent
  cases hrefreshes : request.refreshes session.host with
  | true =>
    cases hresult : ((Engine.refresh thread).run session.host.engine).value.1 with
    | error failure =>
      obtain ⟨halike, hbasis⟩ := hcurrent.perform_failed around hrefreshes hresult
      refine ⟨halike.resolver.trans hfixed, halike.lock.trans hunused, ?_, hheard⟩
      rwa [hbasis, halike.allowlist]
    | ok report =>
      obtain ⟨fresh, stored, hload, _, halike, hbasis⟩ :=
        hcurrent.perform_done around hrefreshes hresult
      refine ⟨halike.resolver.trans hfixed, halike.lock.trans hunused, ⟨report, ?_⟩, hheard⟩
      rwa [hbasis, halike.allowlist]
  | false =>
    obtain ⟨hsame, hbasis⟩ := hcurrent.perform_quiet around hrefreshes
    refine ⟨hsame.resolver.trans hfixed, hsame.lock.trans hunused, ?_, hheard⟩
    rwa [hbasis, hsame.allowlist]

/-- Once started, an engine hears of updates. -/
theorem Current.perform_listening {resolver : Resolver} {session : Session ι η ω}
    (hcurrent : Current resolver session) (around : Around ι η ω) {call : ι × Request}
    (hstarted : session.host.engine.listening = true ∨ call.2 = .start) :
    (session.perform around call).host.engine.listening = true := by
  obtain ⟨thread, request⟩ := call
  by_cases hstart : request = .start
  · subst hstart
    obtain ⟨engine, rest, hrun, _, hlistening⟩ := Host.run_start around thread hcurrent.unused
    have hhost : (session.perform around (thread, .start)).host =
        { engine, bus := session.host.listened.bus, rest } := hrun
    rw [hhost, hlistening]
  · have hsame := (Request.bus_of_ne_start around thread hstart hcurrent.unused).2
    exact hsame.trans (hstarted.resolve_right hstart)

theorem current_run (around : Around ι η ω) (engine : Engine ι) (bus : Bus (Option η)) (rest : ω)
    (calls : List (ι × Request)) :
    Current engine.resolver (run around engine bus rest calls) ∧
      ((∃ call ∈ calls, call.2 = .start) →
        (run around engine bus rest calls).host.engine.listening = true) := by
  have hkeeps : ∀ session : Session ι η ω, Current engine.resolver session →
      Current engine.resolver (calls.foldl (Session.perform around) session) ∧
        ((session.host.engine.listening = true ∨ ∃ call ∈ calls, call.2 = .start) →
          (calls.foldl (Session.perform around) session).host.engine.listening = true) := by
    induction calls with
    | nil => exact fun _ hcurrent => ⟨hcurrent, by simp⟩
    | cons call rest ih =>
      intro session hcurrent
      obtain ⟨hrest, hlistening⟩ := ih _ (hcurrent.perform around call)
      refine ⟨hrest, fun hstarted => hlistening ?_⟩
      simp only [List.mem_cons, exists_eq_or_imp, ← or_assoc] at hstarted
      exact hstarted.imp_left (hcurrent.perform_listening around)
  have hbegin : Current engine.resolver ({ host := {
      engine := { engine with lock := {}, allowlist := {}, listening := false }, bus, rest } } :
      Session ι η ω) := ⟨rfl, rfl, ⟨_, rfl⟩, fun hlistening => by cases hlistening⟩
  obtain ⟨hcurrent, hlistening⟩ := hkeeps _ hbegin
  exact ⟨hcurrent, fun hstarted => hlistening (.inr hstarted)⟩

/-- At any time the rules in force are what a load of the rows at the last good refresh gives, and a
    started engine refreshes on updates. A refresh goes through exactly if every row of the store
    and its overrides can be read; then the stored rules and overrides are put in force together,
    and otherwise everything in force stays as it is, also when the refresh is the answer to an
    event. No permit is left given out. -/
theorem refresh_all_or_nothing (around : Around ι η ω) (engine : Engine ι) (bus : Bus (Option η))
    (rest : ω) (calls : List (ι × Request)) (thread : ι) (request : Request) :
    let session := run around engine bus rest calls
    let before := session.host.engine
    let after := (session.perform around (thread, request)).host.engine
    (∃ ending, ((Loading.run Allowlist.sink engine.resolver session.basis before.lock).run
        {}).value = (ending, before.allowlist) ∧ ending.result.isOk = true) ∧
      ((∃ call ∈ calls, call.2 = .start) →
        (Request.publish rulesUpdate).refreshes session.host = true) ∧
      after.lock = {} ∧
      if request.refreshes session.host then
        (((refresh thread).run before).value.1.isOk = true ↔
          (∀ row ∈ rows before.store, (Loading.readRow engine.resolver row).value.isOk = true) ∧
            (Store.overrides.run.run before.store).1.isOk = true) ∧
        match ((refresh thread).run before).value.1 with
        | .error _ => after.allowlist = before.allowlist ∧ after.overrides = before.overrides
        | .ok report => ∃ count stored,
          ((Loading.run Allowlist.sink engine.resolver (rows before.store) before.lock).run
            {}).value = (⟨.ok report, count, before.lock⟩, after.allowlist) ∧
          (Store.overrides.run.run before.store).1 = .ok stored ∧
          after.overrides = inForce stored
      else after.allowlist = before.allowlist := by
  intro session before after
  obtain ⟨hcurrent, hlistening⟩ := current_run around engine bus rest calls
  have hafter := hcurrent.perform around (thread, request)
  refine ⟨?_, fun hstarted => hcurrent.heard (hlistening hstarted), hafter.unused, ?_⟩
  · obtain ⟨report, hloaded⟩ := hcurrent.loaded
    obtain ⟨count, hrun⟩ :=
      Loading.run_run Allowlist.sink engine.resolver session.basis before.lock {}
    exact ⟨_, by rw [hrun, hloaded], rfl⟩
  · cases hrefreshes : request.refreshes session.host with
    | false =>
      exact (hcurrent.perform_quiet around hrefreshes).1.allowlist
    | true =>
      rw [if_pos rfl]
      have hiff := isOk_refreshed_iff before
      rw [← refresh_unused thread hcurrent.unused, hcurrent.fixed] at hiff
      refine ⟨hiff, ?_⟩
      cases hresult : ((refresh thread).run before).value.1 with
      | error failure =>
        have halike := (hcurrent.perform_failed around hrefreshes hresult).1
        exact ⟨halike.allowlist, halike.overrides⟩
      | ok report =>
        obtain ⟨fresh, stored, hload, hstored, halike, _⟩ :=
          hcurrent.perform_done around hrefreshes hresult
        obtain ⟨count, hrun⟩ :=
          Loading.run_run Allowlist.sink engine.resolver (rows before.store) before.lock {}
        refine ⟨count, stored, ?_, hstored, halike.overrides⟩
        rw [hrun, hload]
        exact congrArg (Prod.mk _) halike.allowlist.symm

end Session

end AllowPolicy.Engine
