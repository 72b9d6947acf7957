import AllowPolicy.Proofs.Engine.Own

namespace AllowPolicy.Engine

variable {ι : Type}

/-- A load of one of these scans gives the rules. -/
def IsScan (resolver : Resolver) (scans : List Store) (scan : Nat) (allowlist : Allowlist) : Prop :=
  ∃ store report, scans[scan]? = some store ∧
    Loading.outcome Allowlist.sink resolver (rows store) {} = (.ok report, allowlist)

theorem IsScan.mono {resolver : Resolver} {scans later : List Store} {scan : Nat}
    {allowlist : Allowlist} (hscan : IsScan resolver scans scan allowlist)
    (hlater : scans <+: later) : IsScan resolver later scan allowlist := by
  obtain ⟨store, report, hstore, hload⟩ := hscan
  obtain ⟨more, rfl⟩ := hlater
  obtain ⟨hlength, _⟩ := List.getElem?_eq_some_iff.mp hstore
  exact ⟨store, report, (List.getElem?_append_left hlength).trans hstore, hload⟩

namespace Stage

def loads : Stage → Bool
  | .loading => true
  | _ => false

/-- The rules that a thread is about to put in force, and the scan that they come from. -/
def carries : Stage → Option (Nat × Allowlist)
  | .waiting (.publish scan fresh) | .entered (.publish scan fresh)
  | .updating [.replace _, .rules scan fresh] | .updating [.rules scan fresh] => some (scan, fresh)
  | _ => none

/-- The thread sets or removes no override. -/
inductive Publishes : Stage → Prop
  | free : Publishes .free
  | loading : Publishes .loading
  | waiting (scan : Nat) (fresh : Allowlist) : Publishes (.waiting (.publish scan fresh))
  | entered (scan : Nat) (fresh : Allowlist) : Publishes (.entered (.publish scan fresh))
  | replacing (stored : Overrides (Option String) Bool) (scan : Nat) (fresh : Allowlist) :
    Publishes (.updating [.replace stored, .rules scan fresh])
  | showing (scan : Nat) (fresh : Allowlist) : Publishes (.updating [.rules scan fresh])
  | leaving : Publishes (.updating [])

end Stage

/-- The call sets or removes no override. -/
def Call.keepsOverrides : Call → Bool
  | .refresh | .change _ => true
  | _ => false

namespace Callers

def Move.keepsOverrides : Move ι → Bool
  | .call _ made => made.keepsOverrides
  | _ => true

variable [DecidableEq ι]

/-- What holds at all times while nobody sets or removes an override: the rules in force are those
    of a scan, and so are all that threads are about to put in force. A scan sees the store as whole
    changes have made it. -/
structure Scanned (engine : Engine ι) (callers : Callers ι) : Prop where
  orderly : callers.traffic.Orderly engine.store
  resolver : callers.engine.resolver = engine.resolver
  publishes : ∀ thread, (callers.stage thread).Publishes
  minds : ∀ thread, callers.traffic.Minds thread (callers.stage thread).loads
  scans : ∀ store ∈ callers.scans, ∃ past, past <+: callers.traffic.past ∧
    store = Traffic.replay engine.store past
  carried : ∀ thread scan fresh, (callers.stage thread).carries = some (scan, fresh) →
    IsScan engine.resolver callers.scans scan fresh
  shown : match callers.shown with
    | none => callers.engine.allowlist = {}
    | some scan => IsScan engine.resolver callers.scans scan callers.engine.allowlist

end Callers

namespace Traffic

variable {ω : Type} [DecidableEq ι]

/-- Loads and changes of the stored rules change no rules in force. -/
structure Fixed (before after : Traffic ι ω) : Prop where
  resolver : after.engine.resolver = before.engine.resolver
  allowlist : after.engine.allowlist = before.engine.allowlist
  past : before.past <+: after.past

theorem fixed_receive (traffic : Traffic ι ω) (thread : ι) (task : Task ω)
    (reply : Lock ι × Lock.Answer) : Fixed traffic (traffic.receive thread task reply) := by
  obtain ⟨lock, _ | _ | _⟩ := reply <;> exact ⟨rfl, rfl, List.prefix_rfl⟩

theorem fixed_request (traffic : Traffic ι ω) (thread : ι) (task : Task ω) (permit : Permit) :
    Fixed traffic (traffic.request thread task permit) := by
  unfold Traffic.request
  split
  · split
    · exact fixed_receive traffic thread task _
    · exact ⟨rfl, rfl, List.prefix_rfl⟩
  · exact ⟨rfl, rfl, List.prefix_rfl⟩

theorem fixed_leave (traffic : Traffic ι ω) (thread : ι) (permit : Permit) (task : Task ω)
    {past : List Change} (hpast : traffic.past <+: past) :
    Fixed traffic (traffic.leave thread permit task past) := by
  unfold Traffic.leave
  split
  · exact ⟨rfl, rfl, hpast⟩
  · exact ⟨rfl, rfl, List.prefix_rfl⟩

theorem fixed_perform (traffic : Traffic ι ω) (move : Move ι ω) :
    Fixed traffic (traffic.perform move) := by
  cases move with
  | load thread sink => exact fixed_request traffic thread (.toLoad sink) .read
  | change thread change => exact fixed_request traffic thread (.toChange change) .write
  | look thread =>
    simp only [Traffic.perform]
    split
    · exact fixed_receive traffic thread _ _
    · exact ⟨rfl, rfl, List.prefix_rfl⟩
  | advance thread =>
    simp only [Traffic.perform]
    split
    · exact fixed_leave traffic thread _ _ List.prefix_rfl
    · exact fixed_leave traffic thread _ _ (List.prefix_append _ _)
    · unfold Traffic.proceed
      split <;> exact ⟨rfl, rfl, List.prefix_rfl⟩
  | elsewhere world => exact ⟨rfl, rfl, List.prefix_rfl⟩

omit [DecidableEq ι] in
theorem Fixed.trans {first second third : Traffic ι ω} (hfirst : Fixed first second)
    (hsecond : Fixed second third) : Fixed first third :=
  ⟨hsecond.resolver.trans hfirst.resolver, hsecond.allowlist.trans hfirst.allowlist,
    hfirst.past.trans hsecond.past⟩

/-- The lock, the store and the tasks are all that matters to orderly threads. -/
theorem Orderly.onEngine {origin : Store} {traffic : Traffic ι ω}
    (horderly : Orderly origin traffic) {engine : Engine ι}
    (hlock : engine.lock = traffic.engine.lock)
    (hresolver : engine.resolver = traffic.engine.resolver)
    (hstore : engine.store = traffic.engine.store) : Orderly origin { traffic with engine } := by
  obtain ⟨hsound, hfits, hcalm⟩ := horderly
  refine ⟨hlock ▸ hsound, fun thread => ?_, fun hnone => hstore.trans (hcalm hnone)⟩
  simp only [hlock, hresolver, hstore]
  exact hfits thread

end Traffic

namespace Callers

variable [DecidableEq ι] {engine : Engine ι} {callers : Callers ι}

/-- A thread has come to a stage, and may have ended its scan or put its rules in force. -/
theorem Scanned.update (hscanned : Scanned engine callers) {thread : ι} {stage : Stage}
    {traffic : Traffic ι (ι → Allowlist)} {scans : List Store} {shown : Option Nat}
    {owner : Option ι} (horderly : traffic.Orderly engine.store)
    (hresolver : traffic.engine.resolver = callers.engine.resolver)
    (hpast : callers.traffic.past <+: traffic.past) (hpublishes : stage.Publishes)
    (hown : traffic.Minds thread stage.loads)
    (hothers : ∀ other, other ≠ thread → traffic.Minds other (callers.stage other).loads)
    (hlater : callers.scans <+: scans)
    (hscans : ∀ store ∈ scans, store ∈ callers.scans ∨
      store = Traffic.replay engine.store callers.traffic.past)
    (hcarried : ∀ scan fresh, stage.carries = some (scan, fresh) →
      IsScan engine.resolver scans scan fresh)
    (hshown : (shown = callers.shown ∧ traffic.engine.allowlist = callers.engine.allowlist) ∨
      ∃ scan, shown = some scan ∧
        IsScan engine.resolver scans scan traffic.engine.allowlist) :
    Scanned engine
      { traffic, owner, stage := Function.update callers.stage thread stage, scans, shown } := by
  refine ⟨horderly, hresolver.trans hscanned.resolver, ?_, ?_, fun store hstore => ?_, ?_, ?_⟩
  · exact (Function.forall_update_iff callers.stage fun _ stage => stage.Publishes).mpr
      ⟨hpublishes, fun other _ => hscanned.publishes other⟩
  · exact (Function.forall_update_iff callers.stage
      fun other (stage : Stage) => traffic.Minds other stage.loads).mpr ⟨hown, hothers⟩
  · rcases hscans store hstore with hold | hnew
    · obtain ⟨past, hearlier, hstore⟩ := hscanned.scans store hold
      exact ⟨past, hearlier.trans hpast, hstore⟩
    · exact ⟨callers.traffic.past, hpast, hnew⟩
  · refine (Function.forall_update_iff callers.stage fun _ (stage : Stage) =>
      ∀ scan fresh, stage.carries = some (scan, fresh) →
        IsScan engine.resolver scans scan fresh).mpr ⟨hcarried, fun other _ scan fresh hother => ?_⟩
    exact (hscanned.carried other scan fresh hother).mono hlater
  · rcases hshown with ⟨rfl, hsame⟩ | ⟨scan, rfl, hscan⟩
    · have hbefore := hscanned.shown
      simp only [Callers.engine] at hbefore hsame ⊢
      rw [hsame]
      cases hshown : callers.shown with
      | none =>
        rw [hshown] at hbefore
        exact hbefore
      | some scan =>
        rw [hshown] at hbefore
        exact hbefore.mono hlater
    · exact hscan

theorem Scanned.onTraffic (hscanned : Scanned engine callers) {traffic : Traffic ι (ι → Allowlist)}
    (horderly : traffic.Orderly engine.store) (hfixed : callers.traffic.Fixed traffic)
    (hminds : ∀ thread, traffic.Minds thread (callers.stage thread).loads) :
    Scanned engine { callers with traffic } := by
  have hshown := hscanned.shown
  refine ⟨horderly, hfixed.resolver.trans hscanned.resolver, hscanned.publishes, hminds,
    fun store hstore => ?_, hscanned.carried, ?_⟩
  · obtain ⟨past, hearlier, hstore⟩ := hscanned.scans store hstore
    exact ⟨past, hearlier.trans hfixed.past, hstore⟩
  · simp only [Callers.engine] at hshown ⊢
    rw [hfixed.allowlist]
    exact hshown

/-- A scan that is over has read the store as it is, and its allowlist holds the rules of it. -/
theorem Scanned.isScan_of_unload (hscanned : Scanned engine callers) {thread : ι}
    (hloads : (callers.stage thread).loads = true) {report : LoadReport} {talk : Sink.Talk}
    (htask : callers.traffic.task thread = .unload (.ok report) talk) :
    IsScan engine.resolver (callers.scans ++ [callers.engine.store]) callers.scans.length
        (callers.traffic.world thread) ∧
      callers.engine.store = Traffic.replay engine.store callers.traffic.past := by
  have hown := hscanned.minds thread
  rw [hloads, Traffic.Minds, htask] at hown
  have hkeeps := (hscanned.orderly.fits thread).keeps
  rw [htask] at hkeeps
  have hload := Loading.outcome_sink_of_scripted rfl hkeeps
  have hpermit : (callers.traffic.task thread).permit? = some .read := by rw [htask]; rfl
  refine ⟨⟨callers.engine.store, report, ?_, ?_⟩, (hscanned.orderly.store_of_read hpermit).2⟩
  · simp
  · rw [← hscanned.resolver]
    exact hload.trans (congrArg (Prod.mk _) hown.symm)

theorem Scanned.scan (hscanned : Scanned engine callers) {thread : ι}
    (hstage : callers.stage thread = .loading) : Scanned engine (callers.scan thread) := by
  have horderly := hscanned.orderly.perform (.advance thread)
  have hfixed := callers.traffic.fixed_perform (.advance thread)
  have hloads : (callers.stage thread).loads = true := by rw [hstage]; rfl
  have hown := hscanned.minds thread
  rw [hloads] at hown
  have hothers : ∀ other, other ≠ thread →
      (callers.traffic.perform (.advance thread)).Minds other (callers.stage other).loads :=
    fun other hother => (hscanned.minds other).advance_of_ne hother (hscanned.minds thread)
  unfold Callers.scan
  rcases hown.advance_own with hgoing | ⟨result, talk, hunload, hloaded, hworld⟩
  · have hminds : ∀ other,
        (callers.traffic.perform (.advance thread)).Minds other (callers.stage other).loads := by
      intro other
      by_cases hother : other = thread
      · rw [hother, hloads]
        exact hgoing
      · exact hothers other hother
    have hsame := hscanned.onTraffic horderly hfixed hminds
    unfold Traffic.Minds at hgoing
    simp only
    split
    · next htask =>
      rw [htask] at hgoing
      exact hgoing.elim
    · next htask =>
      rw [htask] at hgoing
      exact hgoing.elim
    · exact hsame
  · have hrests : (callers.traffic.perform (.advance thread)).Minds thread false := by
      rw [Traffic.Minds, hloaded]
      trivial
    cases result with
    | error failure =>
      simp only [hloaded]
      exact hscanned.update horderly hfixed.resolver hfixed.past .free hrests hothers
        List.prefix_rfl (fun _ => .inl) (by rintro _ _ ⟨⟩) (.inl ⟨rfl, hfixed.allowlist⟩)
    | ok report =>
      obtain ⟨hscan, hstore⟩ := hscanned.isScan_of_unload hloads hunload
      simp only [hloaded, hworld]
      refine hscanned.update horderly hfixed.resolver hfixed.past (.waiting _ _) hrests hothers
        (List.prefix_append _ _) (fun store hmem => ?_) ?_ (.inl ⟨rfl, hfixed.allowlist⟩)
      · rcases List.mem_append.mp hmem with hold | hnew
        · exact .inl hold
        · exact .inr ((List.mem_singleton.mp hnew).trans hstore)
      · rintro scan fresh ⟨⟩
        exact hscan

theorem Scanned.step (hscanned : Scanned engine callers) (thread : ι) :
    Scanned engine (callers.step thread) := by
  have hpublishes := hscanned.publishes thread
  have hcarried := hscanned.carried thread
  have hminds := hscanned.minds
  have hown := hscanned.minds thread
  have hothers : ∀ other, other ≠ thread →
      callers.traffic.Minds other (callers.stage other).loads := fun other _ => hscanned.minds other
  unfold Callers.step
  generalize hstage : callers.stage thread = stage at hpublishes hcarried hown
  cases hpublishes with
  | free =>
    refine hscanned.onTraffic (hscanned.orderly.perform _)
      (callers.traffic.fixed_perform (.advance thread)) fun other => ?_
    by_cases hother : other = thread
    · rw [hother, hstage]
      exact hown.advance_rests
    · exact (hminds other).advance_of_ne hother hown
  | loading => exact hscanned.scan hstage
  | waiting scan fresh =>
    simp only
    split
    · exact hscanned.update hscanned.orderly rfl List.prefix_rfl (.entered scan fresh) hown hothers
        List.prefix_rfl (fun _ => .inl) hcarried (.inl ⟨rfl, rfl⟩)
    · exact hscanned
  | entered scan fresh =>
    simp only
    split
    · exact hscanned
    · rcases Turn.begin_publish callers.engine.store scan fresh with
        ⟨table, _, hbegin⟩ | ⟨_, hbegin⟩
      · rw [hbegin]
        exact hscanned.update (hscanned.orderly.onEngine rfl rfl rfl) rfl List.prefix_rfl
          (.replacing _ scan fresh) hown hothers List.prefix_rfl (fun _ => .inl) hcarried
          (.inl ⟨rfl, rfl⟩)
      · rw [hbegin]
        exact hscanned.update (hscanned.orderly.onEngine rfl rfl rfl) rfl List.prefix_rfl .leaving
          hown hothers List.prefix_rfl (fun _ => .inl) (by rintro _ _ ⟨⟩) (.inl ⟨rfl, rfl⟩)
  | replacing stored scan fresh =>
    refine hscanned.update (hscanned.orderly.onEngine rfl rfl rfl) rfl List.prefix_rfl
      (.showing scan fresh) ?_ ?_ List.prefix_rfl (fun _ => .inl) hcarried (.inl ⟨rfl, rfl⟩)
    · exact Traffic.minds_congr hown rfl rfl
    · exact fun other hother => Traffic.minds_congr (hothers other hother) rfl rfl
  | showing scan fresh =>
    refine hscanned.update (hscanned.orderly.onEngine rfl rfl rfl) rfl List.prefix_rfl
      .leaving ?_ ?_ List.prefix_rfl (fun _ => .inl) (by rintro _ _ ⟨⟩)
      (.inr ⟨scan, rfl, hcarried scan fresh rfl⟩)
    · exact Traffic.minds_congr hown rfl rfl
    · exact fun other hother => Traffic.minds_congr (hothers other hother) rfl rfl
  | leaving =>
    exact hscanned.update hscanned.orderly rfl List.prefix_rfl .free hown hothers List.prefix_rfl
      (fun _ => .inl) (by rintro _ _ ⟨⟩) (.inl ⟨rfl, rfl⟩)

theorem Scanned.perform (hscanned : Scanned engine callers) {move : Move ι}
    (hkeeps : move.keepsOverrides = true) : Scanned engine (callers.perform move) := by
  cases move with
  | step thread => exact hscanned.step thread
  | look thread =>
    exact hscanned.onTraffic (hscanned.orderly.perform _)
      (callers.traffic.fixed_perform (.look thread)) fun other => (hscanned.minds other).look thread
  | call thread made =>
    simp only [Callers.perform]
    split
    · next hfree =>
      obtain ⟨hstage, htask⟩ := Bool.and_eq_true_iff.mp hfree
      have hrests : (callers.stage thread).loads = false := by
        rw [Stage.eq_free hstage]
        rfl
      cases made with
      | refresh =>
        have hfixed := (callers.traffic.fixed_perform
          (.elsewhere (Function.update callers.traffic.world thread {}))).trans
            (Traffic.fixed_perform _ (.load thread (Allowlist.sink.own thread)))
        have horderly : (callers.traffic.refresh thread).Orderly engine.store :=
          (hscanned.orderly.perform
            (.elsewhere (Function.update callers.traffic.world thread {}))).perform
              (.load thread (Allowlist.sink.own thread))
        exact hscanned.update horderly hfixed.resolver hfixed.past
          .loading (Traffic.minds_refresh htask)
          (fun other hother => (hscanned.minds other).refresh_of_ne hother) List.prefix_rfl
          (fun _ => .inl) (by rintro _ _ ⟨⟩) (.inl ⟨rfl, hfixed.allowlist⟩)
      | change change =>
        refine hscanned.onTraffic (hscanned.orderly.perform _)
          (callers.traffic.fixed_perform (.change thread change)) fun other => ?_
        refine (hscanned.minds other).request fun heq => ⟨?_, trivial⟩
        rw [heq, hrests]
      | set name allowed => cases hkeeps
      | remove name => cases hkeeps
    · exact hscanned

theorem scanned_run (engine : Engine ι) {moves : List (Move ι)}
    (hkeeps : ∀ move ∈ moves, move.keepsOverrides = true) :
    Scanned engine (run engine moves) := by
  have hruns : ∀ callers : Callers ι, Scanned engine callers →
      Scanned engine (moves.foldl Callers.perform callers) := by
    induction moves with
    | nil => exact fun _ hscanned => hscanned
    | cons move rest ih =>
      intro callers hscanned
      obtain ⟨hmove, hrest⟩ := List.forall_mem_cons.mp hkeeps
      exact ih hrest _ (hscanned.perform hmove)
  refine hruns _ ⟨?_, rfl, fun _ => .free, fun _ => trivial, by simp, by rintro _ _ _ ⟨⟩, rfl⟩
  exact Traffic.orderly_run { engine with overrides := {}, allowlist := {} } _ []

end Callers

end AllowPolicy.Engine
