import AllowPolicy.Proofs.Engine.Callers
import AllowPolicy.Proofs.Engine.Host
import AllowPolicy.Proofs.Engine.Quiet

namespace AllowPolicy.Engine

variable {ι : Type}

theorem get?_inForce (stored : Overrides (Option String) Bool) (name : Option String) :
    (inForce stored).get? name = (stored.get? name).map .flag := by
  unfold inForce Overrides.get?
  induction stored.entries with
  | nil => rfl
  | cons entry rest ih =>
    rw [List.map_cons, lookup_cons_eq_ite, lookup_cons_eq_ite, ih]
    by_cases hname : name = entry.1 <;> simp [hname]

/-- What is in force is what the stored overrides say, and once rules have been loaded it is all
    that they say. -/
structure Backed (overrides : Overrides (Option String) Verdict) (stored : Option OverrideTable)
    (loaded : Bool) : Prop where
  entry : ∀ name verdict, overrides.get? name = some verdict →
    ∃ table, stored = some table ∧ (table.allowed? name).map .flag = some verdict
  whole : loaded = true →
    ∃ table, stored = some table ∧ ∀ name, overrides.get? name = (table.allowed? name).map .flag

namespace Backed

variable {overrides : Overrides (Option String) Verdict} {table : OverrideTable} {loaded : Bool}

theorem of_eq (hsame : ∀ name, overrides.get? name = (table.allowed? name).map .flag) :
    Backed overrides (some table) loaded :=
  ⟨fun name _ hname => ⟨table, rfl, (hsame name).symm.trans hname⟩, fun _ => ⟨table, rfl, hsame⟩⟩

/-- The same is done to what is in force and to what is stored. -/
theorem map (hbacked : Backed overrides (some table) loaded)
    {overrides' : Overrides (Option String) Verdict} {table' : OverrideTable}
    (hkeeps : ∀ name, (overrides'.get? name = overrides.get? name ∧
        table'.allowed? name = table.allowed? name) ∨
      overrides'.get? name = (table'.allowed? name).map .flag) :
    Backed overrides' (some table') loaded := by
  refine ⟨fun name verdict hname => ⟨table', rfl, ?_⟩, fun hloaded => ⟨table', rfl, fun name => ?_⟩⟩
  · rcases hkeeps name with ⟨hforce, hstored⟩ | hsame
    · obtain ⟨other, hother, hallowed⟩ := hbacked.entry name verdict (hforce.symm.trans hname)
      cases hother
      rw [hstored, hallowed]
    · rw [← hsame, hname]
  · rcases hkeeps name with ⟨hforce, hstored⟩ | hsame
    · obtain ⟨other, hother, hwhole⟩ := hbacked.whole hloaded
      cases hother
      rw [hforce, hstored, hwhole]
    · exact hsame

theorem set (hbacked : Backed overrides (some table) loaded) (name : String) (allowed : Bool) :
    Backed (overrides.set (some name) (.flag allowed))
      (some (table.set (some name) (Verdict.flag allowed).toInt)) loaded := by
  refine hbacked.map fun other => ?_
  rw [Overrides.get?_set, OverrideTable.allowed?_set]
  by_cases hother : other = some name
  · right
    cases allowed <;> simp [hother, Verdict.toInt]
  · left
    simp [hother]

theorem remove (hbacked : Backed overrides (some table) loaded) (name : String) :
    Backed (overrides.remove (some name)) (some (table.remove name)) loaded := by
  refine hbacked.map fun other => ?_
  rw [Overrides.get?_remove, OverrideTable.allowed?_remove]
  by_cases hother : other = some name
  · right
    simp [hother]
  · left
    simp [hother]

end Backed

/-- The overrides once these updates are made. -/
def settle (updates : List Update) (overrides : Overrides (Option String) Verdict) :
    Overrides (Option String) Verdict :=
  updates.foldl (fun overrides update => update.forces overrides) overrides

/-- The scan whose rules are in force once these updates are made. -/
def settleShown (updates : List Update) (shown : Option Nat) : Option Nat :=
  updates.foldl (fun shown update => update.shows shown) shown

theorem Update.overrides_apply (update : Update) (engine : Engine ι) :
    (update.apply engine).overrides = update.forces engine.overrides := by
  cases update <;> rfl

theorem Update.store_apply (update : Update) (engine : Engine ι) :
    (update.apply engine).store = engine.store := by
  cases update <;> rfl

/-- A turn stores, or reads, what it is going to put in force. -/
theorem Backed.begin {overrides : Overrides (Option String) Verdict} {store : Store}
    {shown : Option Nat} (hbacked : Backed overrides store.overrideTable? shown.isSome)
    (hsaved : store.saved.overrides = store.draft.overrides) (turn : Turn) :
    (turn.begin store).2.saved.overrides = (turn.begin store).2.draft.overrides ∧
      Backed (settle (turn.begin store).1 overrides) (turn.begin store).2.overrideTable?
        (settleShown (turn.begin store).1 shown).isSome := by
  cases turn with
  | publish scan fresh =>
    rcases Turn.begin_publish store scan fresh with ⟨table, htable, hbegin⟩ | ⟨_, hbegin⟩
    · rw [hbegin, htable]
      refine ⟨hsaved, Backed.of_eq fun name => ?_⟩
      exact (get?_inForce _ name).trans (by rw [Store.get?_decisions])
    · rw [hbegin]
      exact ⟨hsaved, hbacked⟩
  | set name allowed =>
    simp only [Turn.begin]
    rcases store.run_setOverride name allowed with ⟨table, htable, hrun⟩ | ⟨failure, hrun⟩
    · rw [hrun, Store.overrideTable?_saveOverrides htable]
      rw [htable] at hbacked
      exact ⟨rfl, hbacked.set name allowed⟩
    · rw [hrun]
      exact ⟨hsaved, hbacked⟩
  | remove name =>
    simp only [Turn.begin]
    rcases store.run_removeOverride name with ⟨table, htable, hrun⟩ | ⟨failure, hrun⟩
    · rw [hrun, Store.overrideTable?_saveOverrides htable]
      rw [htable] at hbacked
      exact ⟨rfl, hbacked.remove name⟩
    · rw [hrun]
      exact ⟨hsaved, hbacked⟩

namespace Callers

/-- What the thread with the overrides has stored, or read, and is yet to put in force. -/
def pending (callers : Callers ι) : List Update :=
  match callers.owner with
  | some thread => (callers.stage thread).pending
  | none => []

theorem pending_of_owner {callers : Callers ι} {thread : ι} (hown : callers.owner = some thread) :
    callers.pending = (callers.stage thread).pending := by
  rw [pending, hown]

/-- What holds of the overrides at all times: at most one thread has them, and what it is yet to put
    in force makes them what is stored. -/
structure Coherent (callers : Callers ι) : Prop where
  rules : ∀ thread, (callers.traffic.task thread).OnlyRules
  saved : callers.engine.store.saved.overrides = callers.engine.store.draft.overrides
  owner : ∀ thread, (callers.stage thread).owns = true ↔ callers.owner = some thread
  backed : Backed (settle callers.pending callers.engine.overrides)
    callers.engine.store.overrideTable? (settleShown callers.pending callers.shown).isSome

variable [DecidableEq ι] {callers : Callers ι}

theorem Coherent.quiet (hcoherent : Coherent callers) (move : Engine.Move ι (ι → Allowlist)) :
    Traffic.Quiet callers.engine (callers.traffic.perform move) := by
  have hquiet : Traffic.Quiet callers.engine callers.traffic :=
    ⟨⟨hcoherent.saved, rfl⟩, rfl, hcoherent.rules⟩
  exact hquiet.perform move

theorem Coherent.traffic (hcoherent : Coherent callers) (move : Engine.Move ι (ι → Allowlist)) :
    Coherent { callers with traffic := callers.traffic.perform move } := by
  obtain ⟨⟨hsaved, hstored⟩, hforce, hrules⟩ := hcoherent.quiet move
  refine ⟨hrules, hsaved, hcoherent.owner, ?_⟩
  have hbacked := hcoherent.backed
  rw [← hstored, ← hforce] at hbacked
  exact hbacked

/-- A thread without the overrides, which does not get them now, has no part in them. -/
theorem Coherent.goTo (hcoherent : Coherent callers) {thread : ι} {stage : Stage}
    (hbefore : (callers.stage thread).owns = false) (hafter : stage.owns = false) :
    Coherent (callers.goTo thread stage) := by
  have howner : callers.owner ≠ some thread := by
    intro howner
    have howns := (hcoherent.owner thread).mpr howner
    rw [hbefore] at howns
    cases howns
  have hpending : (callers.goTo thread stage).pending = callers.pending := by
    unfold pending Callers.goTo
    cases hother : callers.owner with
    | none => rfl
    | some other =>
      have hne : other ≠ thread := by
        rintro rfl
        exact howner hother
      simp only [Function.update_of_ne hne]
  refine ⟨hcoherent.rules, hcoherent.saved, fun other => ?_, ?_⟩
  · by_cases hother : other = thread
    · subst hother
      refine iff_of_false ?_ howner
      simp [Callers.goTo, hafter]
    · have hstage : (callers.goTo thread stage).stage other = callers.stage other :=
        Function.update_of_ne hother _ _
      rw [hstage]
      exact hcoherent.owner other
  · rw [hpending]
    exact hcoherent.backed

/-- A thread takes the overrides, does something with them, or gives them back. -/
theorem Coherent.handle (hcoherent : Coherent callers) {thread : ι} {stage : Stage}
    {engine : Engine ι} {owner : Option ι} {shown : Option Nat}
    (hbefore : callers.owner = none ∨ callers.owner = some thread)
    (hafter : owner = if stage.owns then some thread else none)
    (hsaved : engine.store.saved.overrides = engine.store.draft.overrides)
    (hbacked : Backed (settle stage.pending engine.overrides) engine.store.overrideTable?
      (settleShown stage.pending shown).isSome) :
    Coherent ({ callers.onEngine (fun _ => engine) with owner, shown }.goTo thread stage) := by
  subst hafter
  refine ⟨hcoherent.rules, hsaved, fun other => ?_, ?_⟩
  · by_cases hother : other = thread
    · subst hother
      cases howns : stage.owns <;> simp [Callers.goTo, howns]
    · have hothers : (callers.stage other).owns ≠ true := by
        rw [ne_eq, hcoherent.owner other]
        rcases hbefore with hnone | hown
        · simp [hnone]
        · simp [hown, Ne.symm hother]
      refine iff_of_false ?_ ?_
      · simpa [Callers.goTo, onEngine, hother] using hothers
      · cases howns : stage.owns <;> simp [Callers.goTo, Ne.symm hother]
  · have hpending : ({ callers.onEngine (fun _ => engine) with
        owner := if stage.owns then some thread else none, shown }.goTo thread stage).pending =
          stage.pending := by
      cases stage <;> simp [pending, Callers.goTo, Stage.owns, Stage.pending]
    rw [hpending]
    exact hbacked

theorem Coherent.step (hcoherent : Coherent callers) (thread : ι) :
    Coherent (callers.step thread) := by
  have hbacked := hcoherent.backed
  have howner := hcoherent.owner thread
  cases hstage : callers.stage thread with
  | free =>
    simp only [Callers.step, hstage]
    exact hcoherent.traffic _
  | loading =>
    have hscanned := hcoherent.traffic (.advance thread)
    have hidle : (callers.stage thread).owns = false := by rw [hstage]; rfl
    simp only [Callers.step, hstage, Callers.scan]
    split
    · have hlisted : Coherent { callers with
          traffic := callers.traffic.perform (.advance thread)
          scans := callers.scans ++ [callers.engine.store] } :=
        ⟨hscanned.rules, hscanned.saved, hscanned.owner, hscanned.backed⟩
      exact hlisted.goTo hidle rfl
    · exact hscanned.goTo hidle rfl
    · exact hscanned
  | waiting turn =>
    simp only [Callers.step, hstage]
    split
    · next hnone =>
      have hfree : callers.owner = none := Option.isNone_iff_eq_none.mp hnone
      rw [pending, hfree] at hbacked
      exact hcoherent.handle (.inl hfree) rfl hcoherent.saved hbacked
    · exact hcoherent
  | entered turn =>
    rw [hstage] at howner
    have hown := howner.mp rfl
    rw [pending_of_owner hown, hstage] at hbacked
    simp only [Callers.step, hstage]
    split
    · exact hcoherent
    · obtain ⟨hsaved, hafter⟩ := Backed.begin hbacked hcoherent.saved turn
      exact hcoherent.handle (.inr hown) hown hsaved hafter
  | updating rest =>
    rw [hstage] at howner
    have hown := howner.mp rfl
    rw [pending_of_owner hown, hstage] at hbacked
    cases rest with
    | nil =>
      simp only [Callers.step, hstage]
      exact hcoherent.handle (.inr hown) rfl hcoherent.saved hbacked
    | cons update rest =>
      simp only [Callers.step, hstage]
      refine hcoherent.handle (.inr hown) hown ?_ ?_
      · rw [Update.store_apply]
        exact hcoherent.saved
      · rw [Update.store_apply, Update.overrides_apply]
        exact hbacked

theorem Coherent.perform (hcoherent : Coherent callers) (move : Move ι) :
    Coherent (callers.perform move) := by
  cases move with
  | look thread => exact hcoherent.traffic (.look thread)
  | step thread => exact hcoherent.step thread
  | call thread call =>
    simp only [Callers.perform]
    split
    · next hfree =>
      have hidle : (callers.stage thread).owns = false := by
        rw [Stage.eq_free (Bool.and_eq_true_iff.mp hfree).1]
        rfl
      cases call with
      | refresh =>
        have hempty := hcoherent.traffic
          (.elsewhere (Function.update callers.traffic.world thread {}))
        exact (hempty.traffic (.load thread (Allowlist.sink.own thread))).goTo hidle rfl
      | change change => exact hcoherent.traffic (.change thread change)
      | set name allowed => exact hcoherent.goTo hidle rfl
      | remove name => exact hcoherent.goTo hidle rfl
    · exact hcoherent

theorem coherent_run {engine : Engine ι}
    (hsaved : engine.store.saved.overrides = engine.store.draft.overrides)
    (moves : List (Move ι)) : Coherent (run engine moves) := by
  have hkeeps : ∀ callers : Callers ι, Coherent callers →
      Coherent (moves.foldl Callers.perform callers) := by
    induction moves with
    | nil => exact fun _ hcoherent => hcoherent
    | cons move rest ih => exact fun _ hcoherent => ih _ (hcoherent.perform move)
  refine hkeeps _ ⟨fun _ => trivial, hsaved, fun thread => ?_, ?_⟩
  · exact iff_of_false Bool.false_ne_true (by simp)
  · exact ⟨fun name verdict hname => (by cases hname), fun hloaded => (by cases hloaded)⟩

end Callers

theorem unused_of_make {settings : Settings} {resolver : Resolver} {store : Store}
    {engine : Engine ι} (hmake : make settings resolver store = .ok engine) :
    engine.store = store ∧ engine.lock = {} := by
  unfold make at hmake
  cases htoggle : Toggle.make settings.toggle.interval settings.toggle.startEnabled with
  | error failure =>
    rw [htoggle] at hmake
    cases hmake
  | ok toggle =>
    rw [htoggle] at hmake
    cases hmake
    exact ⟨rfl, rfl⟩

/-- A turn that fails changes nothing, neither in the store nor in force. -/
theorem Turn.unchanged_of_error {turn : Turn} {engine : Engine ι} {failure : Failure}
    (hfailed : (turn.act.run engine).value.1 = .error failure) :
    (turn.act.run engine).value.2 = engine ∧ turn.begin engine.store = ([], engine.store) := by
  suffices hbegin : turn.begin engine.store = ([], engine.store) by
    refine ⟨?_, hbegin⟩
    rw [run_act, hbegin]
    rfl
  cases turn with
  | publish scan fresh =>
    rw [act, run_adopt] at hfailed
    simp only [begin]
    rcases engine.store.run_overrides with ⟨table, _, hrun⟩ | ⟨_, other, hrun⟩
    · simp [hrun] at hfailed
    · rw [hrun]
  | set name allowed =>
    simp only [act, setOverride, onStore, StateT.run_bind, StateT.run_get, Logged.value_bind,
      Logged.value_pure] at hfailed
    simp only [begin]
    rcases engine.store.run_setOverride name allowed with ⟨table, _, hrun⟩ | ⟨other, hrun⟩
    · simp [hrun] at hfailed
    · rw [hrun]
  | remove name =>
    simp only [act, removeOverride, onStore, StateT.run_bind, StateT.run_get, Logged.value_bind,
      Logged.value_pure] at hfailed
    simp only [begin]
    rcases engine.store.run_removeOverride name with ⟨table, _, hrun⟩ | ⟨other, hrun⟩
    · simp [hrun, Except.map] at hfailed
    · rw [hrun]

namespace Callers

variable [DecidableEq ι]

/-- Whenever nobody has the overrides for himself, what is in force is stored. From the first
    refresh on that has put its rules in force, all that is stored is in force too, and every query
    is answered as by an engine that has just been started on the store. An override that cannot be
    set or removed stays what it was, in the store and in force. -/
theorem overrides_coherent {engine : Engine ι}
    (hsaved : engine.store.saved.overrides = engine.store.draft.overrides)
    (moves : List (Move ι)) :
    let callers := run engine moves
    (callers.owner = none →
      (∀ name verdict, callers.engine.overrides.get? name = some verdict →
        ∃ stored, (Store.overrides.run.run callers.engine.store).1 = .ok stored ∧
          (stored.get? name).map .flag = some verdict) ∧
      (callers.shown.isSome = true →
        (∃ stored, (Store.overrides.run.run callers.engine.store).1 = .ok stored ∧
          ∀ name, callers.engine.overrides.get? name = (stored.get? name).map .flag) ∧
        ∀ (settings : Settings) (resolver : Resolver) (fresh : Engine ι),
          make settings resolver callers.engine.store = .ok fresh →
          ∀ {η ω : Type} (around : Around ι η ω) (thread : ι) (bus : Bus (Option η)) (rest : ω)
            (report : LoadReport) (after : Host ι η ω),
            (((Host.site around thread).start).run ⟨fresh, bus, rest⟩).value =
              (.ok report, after) →
            ∀ on name default,
              callers.engine.query on name default = after.engine.query on name default)) ∧
    ∀ (turn : Turn) (other : Engine ι) (failure : Failure),
      (turn.act.run other).value.1 = .error failure →
        (turn.act.run other).value.2 = other ∧ turn.begin other.store = ([], other.store) := by
  intro callers
  refine ⟨fun hnone => ?_, fun turn other failure => Turn.unchanged_of_error⟩
  have hbacked := (coherent_run hsaved moves).backed
  have hpending : callers.pending = [] := by rw [pending, hnone]
  change Backed (settle callers.pending callers.engine.overrides) _
    (settleShown callers.pending callers.shown).isSome at hbacked
  rw [hpending] at hbacked
  have hread {table : OverrideTable}
      (htable : callers.engine.store.overrideTable? = some table) :
      (Store.overrides.run.run callers.engine.store).1 = .ok (Store.decisions table) := by
    rcases callers.engine.store.run_overrides with ⟨other, hother, hrun⟩ | ⟨hmissing, _⟩
    · cases htable.symm.trans hother
      rw [hrun]
    · cases htable.symm.trans hmissing
  refine ⟨fun name verdict hname => ?_, fun hshown => ?_⟩
  · obtain ⟨table, htable, hallowed⟩ := hbacked.entry name verdict hname
    exact ⟨_, hread htable, by rw [Store.get?_decisions, hallowed]⟩
  · obtain ⟨table, htable, hwhole⟩ := hbacked.whole hshown
    have hall (name : Option String) : callers.engine.overrides.get? name =
        ((Store.decisions table).get? name).map .flag := by
      rw [Store.get?_decisions]
      exact hwhole name
    refine ⟨⟨_, hread htable, hall⟩, ?_⟩
    intro settings resolver fresh hmake η ω around thread bus rest report after hstart
      on name default
    obtain ⟨hstore, hunused⟩ := unused_of_make hmake
    obtain ⟨stored, hstored, hforce⟩ := Host.overrides_of_start hunused hstart
    obtain rfl : Store.decisions table = stored := by
      simp only [hstore, hread htable, Except.ok.injEq] at hstored
      exact hstored
    unfold Engine.query Overrides.query
    rw [hforce, hall, get?_inForce]

/-- One thread blocks the mail program while another one refreshes. -/
def meeting : List (Move Bool) :=
  [.call true (.set "mail" false), .step true, .call false .refresh, .step true, .step false,
    .step false, .step true, .step false, .step false, .step false, .step false, .step true] ++
  List.replicate 5 (.step false)

theorem overrides_coherent_meeting :
    let callers := run (onLines ["allow host:a.com"]) meeting
    callers.owner = none ∧ callers.shown = some 0 ∧
    callers.engine.overrides.get? (some "mail") = some (.flag false) ∧
    ∃ stored, (Store.overrides.run.run callers.engine.store).1 = .ok stored ∧
      stored.get? (some "mail") = some false ∧
      ∀ name, callers.engine.overrides.get? name = (stored.get? name).map .flag := by
  have hnone : (run (onLines ["allow host:a.com"]) meeting).owner = none := by decide +kernel
  have hshown : (run (onLines ["allow host:a.com"]) meeting).shown = some 0 := by decide +kernel
  have hmail : (run (onLines ["allow host:a.com"]) meeting).engine.overrides.get? (some "mail") =
      some (.flag false) := by decide +kernel
  have hcoherent := (overrides_coherent rfl meeting).1 hnone
  obtain ⟨stored, hread, hall⟩ := (hcoherent.2 (hshown ▸ rfl)).1
  refine ⟨hnone, hshown, hmail, stored, hread, ?_, hall⟩
  have hmapped := (hall (some "mail")).symm.trans hmail
  simpa using hmapped

end Callers

end AllowPolicy.Engine
