import AllowPolicy.Proofs.Engine.Coherent
import AllowPolicy.Proofs.Engine.Scans
import Mathlib.Data.Fintype.Defs
import Mathlib.Data.List.Infix

namespace AllowPolicy.Engine.Callers

variable {ι : Type}

/-- The scan that a thread is yet to put in force. -/
def carried (callers : Callers ι) (thread : ι) : Option Nat :=
  (callers.stage thread).carries.map Prod.fst

/-- No thread has the overrides while another one is yet to put an earlier scan in force. -/
def InOrder (callers : Callers ι) : Prop :=
  ∀ thread other, ∀ scan ∈ callers.carried thread, ∀ later ∈ callers.carried other,
    scan < later → callers.owner ≠ some other

instance [Fintype ι] [DecidableEq ι] (callers : Callers ι) : Decidable callers.InOrder := by
  unfold InOrder
  infer_instance

/-- What a move can do to the scans under way. -/
inductive Passes [DecidableEq ι] (before after : Callers ι) : Prop
  | nothing (hcarried : after.carried = before.carried) (hscans : after.scans = before.scans)
    (hshown : after.shown = before.shown)
  | scans (thread : ι) (hfree : before.carried thread = none)
    (hcarried : after.carried =
      Function.update before.carried thread (some before.scans.length))
    (hscans : after.scans.length = before.scans.length + 1) (hshown : after.shown = before.shown)
  | shows (thread : ι) (scan : Nat) (howner : before.owner = some thread)
    (hcarries : before.carried thread = some scan)
    (hcarried : after.carried = Function.update before.carried thread none)
    (hscans : after.scans = before.scans) (hshown : after.shown = some scan)

variable [DecidableEq ι] {callers : Callers ι}

theorem carried_update {after : Callers ι} {thread : ι} {stage : Stage} {scan : Option Nat}
    (hstage : after.stage = Function.update callers.stage thread stage)
    (hscan : stage.carries.map Prod.fst = scan) :
    after.carried = Function.update callers.carried thread scan := by
  funext other
  unfold carried
  rw [hstage, ← hscan]
  by_cases hother : other = thread
  · rw [hother, Function.update_self, Function.update_self]
  · rw [Function.update_of_ne hother, Function.update_of_ne hother]

theorem carried_goTo (callers : Callers ι) {thread : ι} {stage : Stage}
    (hsame : stage.carries = (callers.stage thread).carries) :
    (callers.goTo thread stage).carried = callers.carried := by
  have hscan : stage.carries.map Prod.fst = callers.carried thread := by rw [hsame, carried]
  rw [carried_update rfl hscan]
  exact Function.update_eq_self thread callers.carried

theorem passes_scan (hcoherent : Coherent callers) {thread : ι}
    (hstage : callers.stage thread = .loading) :
    Passes callers (callers.scan thread) ∧
      (callers.scan thread).engine.store.overrideTable? = callers.engine.store.overrideTable? := by
  have hfree : (callers.stage thread).carries = none := by
    rw [hstage]
    rfl
  have hstored := (hcoherent.quiet (.advance thread)).store.stored
  unfold Callers.scan
  simp only
  split
  · exact ⟨.scans thread (by rw [carried, hfree]; rfl) (carried_update rfl rfl)
      (by simp [goTo]) rfl,
      hstored⟩
  · exact ⟨.nothing (carried_goTo { callers with traffic := _ } hfree.symm) rfl rfl, hstored⟩
  · exact ⟨.nothing rfl rfl rfl, hstored⟩

theorem passes_step (hcoherent : Coherent callers) {thread : ι}
    (hpublishes : (callers.stage thread).Publishes)
    (hstored : callers.engine.store.overrideTable?.isSome = true) :
    Passes callers (callers.step thread) ∧
      (callers.step thread).engine.store.overrideTable? = callers.engine.store.overrideTable? := by
  have howner := (hcoherent.owner thread).mp
  unfold Callers.step
  generalize hstage : callers.stage thread = stage at hpublishes howner
  cases hpublishes with
  | free => exact ⟨.nothing rfl rfl rfl, (hcoherent.quiet (.advance thread)).store.stored⟩
  | loading => exact passes_scan hcoherent hstage
  | waiting scan fresh =>
    simp only
    split
    · exact ⟨.nothing (carried_goTo { callers with owner := some thread } (by rw [hstage]; rfl))
        rfl rfl, rfl⟩
    · exact ⟨.nothing rfl rfl rfl, rfl⟩
  | entered scan fresh =>
    simp only
    split
    · exact ⟨.nothing rfl rfl rfl, rfl⟩
    · rcases Turn.begin_publish callers.engine.store scan fresh with
        ⟨table, _, hbegin⟩ | ⟨hmissing, _⟩
      · rw [hbegin]
        exact ⟨.nothing (carried_goTo (callers.onEngine _) (by simp only [onEngine, hstage]; rfl))
          rfl rfl, rfl⟩
      · rw [hmissing] at hstored
        cases hstored
  | replacing stored scan fresh =>
    exact ⟨.nothing (carried_goTo (callers.onEngine _) (by simp only [onEngine, hstage]; rfl))
      rfl rfl, rfl⟩
  | showing scan fresh =>
    exact ⟨.shows thread scan (howner rfl) (by rw [carried, hstage]; rfl)
      (carried_update rfl rfl) rfl rfl, rfl⟩
  | leaving =>
    exact ⟨.nothing
      (carried_goTo { callers with owner := none } (by rw [hstage]; rfl)) rfl rfl, rfl⟩

/-- What a move does of threads that only refresh and change the stored rules. It leaves the stored
    overrides alone. -/
theorem passes_perform (hcoherent : Coherent callers)
    (hpublishes : ∀ thread, (callers.stage thread).Publishes)
    (hstored : callers.engine.store.overrideTable?.isSome = true) {move : Move ι}
    (hkeeps : move.keepsOverrides = true) :
    Passes callers (callers.perform move) ∧
      (callers.perform move).engine.store.overrideTable? =
        callers.engine.store.overrideTable? := by
  cases move with
  | look thread => exact ⟨.nothing rfl rfl rfl, (hcoherent.quiet (.look thread)).store.stored⟩
  | step thread => exact passes_step hcoherent (hpublishes thread) hstored
  | call thread made =>
    simp only [Callers.perform]
    split
    · next hfree =>
      obtain ⟨hstage, _⟩ := Bool.and_eq_true_iff.mp hfree
      cases made with
      | refresh =>
        have hnone : (callers.stage thread).carries = none := by
          rw [Stage.eq_free hstage]
          rfl
        have hempty := hcoherent.traffic
          (.elsewhere (Function.update callers.traffic.world thread {}))
        exact ⟨.nothing (carried_goTo { callers with traffic := _ } hnone.symm) rfl rfl,
          ((hempty.quiet (.load thread (Allowlist.sink.own thread))).store.stored).trans
            (hcoherent.quiet _).store.stored⟩
      | change change =>
        exact ⟨.nothing rfl rfl rfl, (hcoherent.quiet (.change thread change)).store.stored⟩
      | set name allowed => cases hkeeps
      | remove name => cases hkeeps
    · exact ⟨.nothing rfl rfl rfl, rfl⟩

/-- Every scan is either on its way or overtaken, and no scan on its way is. -/
structure Latest (callers : Callers ι) : Prop where
  shown : ∀ shown ∈ callers.shown, shown < callers.scans.length
  carried : ∀ thread, ∀ scan ∈ callers.carried thread,
    scan < callers.scans.length ∧ ∀ shown ∈ callers.shown, shown < scan
  alone : ∀ thread other, ∀ scan ∈ callers.carried thread, scan ∈ callers.carried other →
    thread = other
  covered : ∀ scan < callers.scans.length,
    (∃ thread, scan ∈ callers.carried thread) ∨ ∃ shown ∈ callers.shown, scan ≤ shown

theorem mem_carried_update {after : Callers ι} {thread : ι} {mine : Option Nat}
    (hcarries : after.carried = Function.update callers.carried thread mine)
    {other : ι} {scan : Nat} :
    scan ∈ after.carried other ↔
      other = thread ∧ scan ∈ mine ∨ other ≠ thread ∧ scan ∈ callers.carried other := by
  rw [hcarries]
  by_cases hother : other = thread
  · simp [hother]
  · simp [hother]

/-- A new scan is ahead of all others. -/
theorem Latest.scans {after : Callers ι} {thread : ι} (hlatest : Latest callers)
    (hfree : callers.carried thread = none)
    (hcarries : after.carried =
      Function.update callers.carried thread (some callers.scans.length))
    (hscans : after.scans.length = callers.scans.length + 1)
    (hstill : after.shown = callers.shown) :
    Latest after := by
  have hafter {other : ι} {scan : Nat} (hscan : scan ∈ after.carried other) :
      other = thread ∧ scan = callers.scans.length ∨ scan ∈ callers.carried other := by
    rcases (mem_carried_update hcarries).mp hscan with ⟨hother, hnew⟩ | ⟨_, hold⟩
    · exact .inl ⟨hother, (Option.mem_some.mp hnew).symm⟩
    · exact .inr hold
  have hbelow {other : ι} {scan : Nat} (hscan : scan ∈ callers.carried other) :
      scan < callers.scans.length := (hlatest.carried other scan hscan).1
  refine ⟨?_, ?_, ?_, ?_⟩
  · intro scan hscan
    have hbefore := hlatest.shown scan (hstill ▸ hscan)
    omega
  · intro other scan hscan
    rw [hscans, hstill]
    rcases hafter hscan with ⟨_, rfl⟩ | hold
    · exact ⟨Nat.lt_succ_self _, hlatest.shown⟩
    · exact ⟨Nat.lt_succ_of_lt (hbelow hold), (hlatest.carried other scan hold).2⟩
  · intro first second scan hfirst hsecond
    rcases hafter hfirst with ⟨rfl, rfl⟩ | hfirst
    · rcases hafter hsecond with ⟨rfl, _⟩ | hsecond
      · rfl
      · exact absurd (hbelow hsecond) (Nat.lt_irrefl _)
    · rcases hafter hsecond with ⟨_, rfl⟩ | hsecond
      · exact absurd (hbelow hfirst) (Nat.lt_irrefl _)
      · exact hlatest.alone first second scan hfirst hsecond
  · intro scan hscan
    by_cases hnew : scan = callers.scans.length
    · exact .inl ⟨thread, (mem_carried_update hcarries).mpr (.inl ⟨rfl, hnew ▸ rfl⟩)⟩
    · rcases hlatest.covered scan (by omega) with ⟨other, hother⟩ | hpassed
      · have hne : other ≠ thread := by
          rintro rfl
          rw [hfree] at hother
          cases hother
        exact .inl ⟨other, (mem_carried_update hcarries).mpr (.inr ⟨hne, hother⟩)⟩
      · rw [hstill]
        exact .inr hpassed

/-- A scan that is put in force in its order leaves only newer ones on their way. -/
theorem Latest.shows {after : Callers ι} {thread : ι} {scan : Nat} (hlatest : Latest callers)
    (horder : callers.InOrder) (howner : callers.owner = some thread)
    (hmine : callers.carried thread = some scan)
    (hcarries : after.carried = Function.update callers.carried thread none)
    (hscans : after.scans = callers.scans) (hnow : after.shown = some scan) : Latest after := by
  obtain ⟨hscan, hahead⟩ := hlatest.carried thread scan hmine
  have hafter {other : ι} {later : Nat} (hlater : later ∈ after.carried other) :
      other ≠ thread ∧ later ∈ callers.carried other := by
    rcases (mem_carried_update hcarries).mp hlater with ⟨_, ⟨⟩⟩ | hkept
    exact hkept
  refine ⟨?_, ?_, ?_, ?_⟩
  · intro shown hshown
    rw [hnow] at hshown
    cases hshown
    rwa [hscans]
  · intro other later hlater
    obtain ⟨hne, hkept⟩ := hafter hlater
    refine ⟨hscans ▸ (hlatest.carried other later hkept).1, fun shown hshown => ?_⟩
    rw [hnow] at hshown
    cases hshown
    have hnot : ¬ later < scan := fun hlt => horder other thread later hkept scan hmine hlt howner
    have hdiffers : later ≠ scan := by
      rintro rfl
      exact hne (hlatest.alone other thread later hkept hmine)
    omega
  · exact fun first second later hfirst hsecond =>
      hlatest.alone first second later (hafter hfirst).2 (hafter hsecond).2
  · intro other hother
    rw [hscans] at hother
    rcases hlatest.covered other hother with ⟨carrier, hcarrier⟩ | ⟨shown, hshown, hle⟩
    · by_cases hne : carrier = thread
      · subst hne
        cases hmine.symm.trans hcarrier
        exact .inr ⟨scan, hnow ▸ rfl, Nat.le_refl scan⟩
      · exact .inl ⟨carrier, (mem_carried_update hcarries).mpr (.inr ⟨hne, hcarrier⟩)⟩
    · exact .inr ⟨scan, hnow ▸ rfl, hle.trans (hahead shown hshown).le⟩

/-- Scans that are put in force in their order go forward only. -/
theorem Latest.passes {after : Callers ι} (hlatest : Latest callers) (horder : callers.InOrder)
    (hpasses : Passes callers after) :
    Latest after ∧ ∀ scan ∈ callers.shown, ∃ later ∈ after.shown, scan ≤ later := by
  cases hpasses with
  | nothing hsame hscans hstill =>
    obtain ⟨hshown, hcarried, halone, hcovered⟩ := hlatest
    refine ⟨⟨?_, ?_, ?_, ?_⟩, fun scan hscan => ⟨scan, hstill ▸ hscan, Nat.le_refl scan⟩⟩
    · rwa [hscans, hstill]
    · rwa [hscans, hstill, hsame]
    · rwa [hsame]
    · rwa [hscans, hstill, hsame]
  | scans thread hfree hcarries hscans hstill =>
    exact ⟨hlatest.scans hfree hcarries hscans hstill,
      fun scan hscan => ⟨scan, hstill ▸ hscan, Nat.le_refl scan⟩⟩
  | shows thread scan howner hmine hcarries hscans hnow =>
    refine ⟨hlatest.shows horder howner hmine hcarries hscans hnow, fun shown hshown => ?_⟩
    have hahead := (hlatest.carried thread scan hmine).2 shown hshown
    exact ⟨scan, hnow ▸ rfl, hahead.le⟩

theorem run_concat (engine : Engine ι) (moves : List (Move ι)) (move : Move ι) :
    run engine (moves ++ [move]) = (run engine moves).perform move :=
  List.foldl_concat ..

theorem latest_run {engine : Engine ι}
    (hsaved : engine.store.saved.overrides = engine.store.draft.overrides)
    (hstored : engine.store.overrideTable?.isSome = true) {moves : List (Move ι)}
    (hkeeps : ∀ move ∈ moves, move.keepsOverrides = true)
    (horder : ∀ before, before <+: moves → (run engine before).InOrder) :
    Latest (run engine moves) ∧
      (run engine moves).engine.store.overrideTable? = engine.store.overrideTable? ∧
      ∀ before, before <+: moves →
        ∀ scan ∈ (run engine before).shown, ∃ later ∈ (run engine moves).shown, scan ≤ later := by
  induction moves using List.reverseRecOn with
  | nil =>
    refine ⟨⟨?_, ?_, ?_, ?_⟩, rfl, ?_⟩
    · rintro _ ⟨⟩
    · rintro _ _ ⟨⟩
    · rintro _ _ _ ⟨⟩
    · exact fun scan hscan => absurd hscan (Nat.not_lt_zero scan)
    · intro before hbefore scan hscan
      rw [List.prefix_nil.mp hbefore] at hscan
      exact ⟨scan, hscan, Nat.le_refl scan⟩
  | append_singleton moves move ih =>
    obtain ⟨hmoves, hmove⟩ := List.forall_mem_append.mp hkeeps
    obtain ⟨hlatest, hsame, hforward⟩ :=
      ih hmoves fun before hbefore => horder before (hbefore.trans (List.prefix_append _ _))
    obtain ⟨hpasses, hkept⟩ := passes_perform (coherent_run hsaved moves)
      (scanned_run engine hmoves).publishes (hsame ▸ hstored)
      (hmove move (List.mem_singleton_self move))
    obtain ⟨hafter, hstep⟩ := hlatest.passes (horder moves (List.prefix_append _ _)) hpasses
    rw [run_concat]
    refine ⟨hafter, hkept.trans hsame, fun before hbefore scan hscan => ?_⟩
    rcases List.prefix_concat_iff.mp hbefore with rfl | hearlier
    · rw [run_concat] at hscan
      exact ⟨scan, hscan, Nat.le_refl scan⟩
    · obtain ⟨shown, hshown, hle⟩ := hforward before hearlier scan hscan
      obtain ⟨later, hlater, hle'⟩ := hstep shown hshown
      exact ⟨later, hlater, hle.trans hle'⟩

omit [DecidableEq ι] in
/-- Once no scan is on its way, the newest one is in force. -/
theorem Latest.shown_of_done (hlatest : Latest callers)
    (hdone : ∀ thread, callers.carried thread = none) {store : Store}
    (hnewest : callers.scans.getLast? = some store) :
    ∃ scan ∈ callers.shown, callers.scans[scan]? = some store := by
  rw [List.getLast?_eq_getElem?] at hnewest
  obtain ⟨hbound, _⟩ := List.getElem?_eq_some_iff.mp hnewest
  rcases hlatest.covered _ hbound with ⟨thread, hcarried⟩ | ⟨scan, hscan, hle⟩
  · rw [hdone thread] at hcarried
    cases hcarried
  · have hlt := hlatest.shown scan hscan
    obtain rfl : scan = callers.scans.length - 1 := by omega
    exact ⟨_, hscan, hnewest⟩

/-- While threads refresh and change the stored rules, the rules in force are at all times those of
    some scan, which has seen the store as whole changes have made it. If the threads get the
    overrides in the order of their scans, the rules in force never go back to an earlier scan, and
    are those of the newest one when no refresh is under way. -/
theorem rules_in_force {engine : Engine ι}
    (hsaved : engine.store.saved.overrides = engine.store.draft.overrides) {moves : List (Move ι)}
    (hkeeps : ∀ move ∈ moves, move.keepsOverrides = true) :
    let callers := run engine moves
    (match callers.shown with
      | none => callers.engine.allowlist = {}
      | some scan => ∃ past report, past <+: callers.traffic.past ∧
        callers.scans[scan]? = some (Traffic.replay engine.store past) ∧
        Loading.outcome Allowlist.sink engine.resolver
          (rows (Traffic.replay engine.store past)) {} =
          (.ok report, callers.engine.allowlist)) ∧
    ∀ stored, (Store.overrides.run.run engine.store).1 = .ok stored →
      (∀ before, before <+: moves → (run engine before).InOrder) →
      (∀ before, before <+: moves → ∀ scan ∈ (run engine before).shown,
        ∃ later ∈ callers.shown, scan ≤ later) ∧
      ((∀ thread, (callers.stage thread).isFree = true) →
        match callers.scans.getLast? with
        | none => callers.engine.allowlist = {}
        | some store => ∃ report,
          Loading.outcome Allowlist.sink engine.resolver (rows store) {} =
            (.ok report, callers.engine.allowlist)) := by
  intro callers
  have hscanned : Scanned engine callers := scanned_run engine hkeeps
  have hinForce := hscanned.shown
  refine ⟨?_, fun stored hread horder => ?_⟩
  · cases hshown : callers.shown with
    | none =>
      rw [hshown] at hinForce
      exact hinForce
    | some scan =>
      rw [hshown] at hinForce
      obtain ⟨store, report, hstore, hload⟩ := hinForce
      obtain ⟨past, hpast, rfl⟩ := hscanned.scans store (List.mem_of_getElem? hstore)
      exact ⟨past, report, hpast, hstore, hload⟩
  · have hstored : engine.store.overrideTable?.isSome = true := by
      rcases engine.store.run_overrides with ⟨table, htable, _⟩ | ⟨_, failure, hrun⟩
      · rw [htable]
        rfl
      · rw [hrun] at hread
        cases hread
    obtain ⟨hlatest, _, hforward⟩ := latest_run hsaved hstored hkeeps horder
    refine ⟨hforward, fun hfree => ?_⟩
    have hdone (thread : ι) : callers.carried thread = none := by
      rw [carried, Stage.eq_free (hfree thread)]
      rfl
    cases hnewest : callers.scans.getLast? with
    | none =>
      have hnone : callers.shown = none := by
        refine Option.eq_none_iff_forall_not_mem.mpr fun scan hscan => ?_
        have hbound := hlatest.shown scan hscan
        rw [List.getLast?_eq_none_iff.mp hnewest] at hbound
        exact Nat.not_lt_zero scan hbound
      rw [hnone] at hinForce
      exact hinForce
    | some store =>
      obtain ⟨scan, hscan, hstore⟩ := hlatest.shown_of_done hdone hnewest
      rw [Option.mem_def.mp hscan] at hinForce
      obtain ⟨other, report, hother, hload⟩ := hinForce
      cases hother.symm.trans hstore
      exact ⟨report, hload⟩

/-- One thread has scanned the stored rules when another one adds a rule and scans them too. Both
    are about to put in force what they have seen. -/
def overlap : List (Move Bool) :=
  .call true .refresh :: List.replicate 3 (.step true) ++
  .call false (.change (.add (.text "allow host:a.com") 1)) :: List.replicate 3 (.step false) ++
  .call false .refresh :: List.replicate 5 (.step false)

def finish (first : Bool) : List (Move Bool) :=
  overlap ++ List.replicate 5 (.step first) ++ List.replicate 5 (.step !first)

theorem rules_in_force_finish :
    let callers := run (onLines []) (finish true)
    (∀ move ∈ finish true, move.keepsOverrides = true) ∧
    (∀ before, before <+: finish true → (run (onLines []) before).InOrder) ∧
    ∃ store report, callers.scans.getLast? = some store ∧
      Loading.outcome Allowlist.sink callers.engine.resolver (rows store) {} =
        (.ok report, callers.engine.allowlist) := by
  have hkeeps : ∀ move ∈ finish true, move.keepsOverrides = true := by decide +kernel
  have horder : ∀ before ∈ (finish true).inits, (run (onLines []) before).InOrder := by
    decide +kernel
  have hfree : ∀ thread, ((run (onLines []) (finish true)).stage thread).isFree = true := by
    decide +kernel
  have hinOrder : ∀ before, before <+: finish true → (run (onLines []) before).InOrder :=
    fun before hbefore => horder before ((List.mem_inits before _).mpr hbefore)
  have hnewest := ((rules_in_force rfl hkeeps).2 _ rfl hinOrder).2 hfree
  have hsome : (run (onLines []) (finish true)).scans.getLast?.isSome = true := by decide +kernel
  obtain ⟨store, hstore⟩ := Option.isSome_iff_exists.mp hsome
  rw [hstore] at hnewest
  obtain ⟨report, hload⟩ := hnewest
  exact ⟨hkeeps, hinOrder, store, report, hstore, hload⟩

/-- The thread that has scanned first may get the overrides last. Its rules then replace those of
    the newer scan, and a destination that the newer one allows is allowed no more. -/
theorem exists_stale_rules :
    let callers := run (onLines []) (finish false)
    (∀ move ∈ finish false, move.keepsOverrides = true) ∧
    (∃ before, before <+: finish false ∧ (run (onLines []) before).shown = some 1) ∧
    callers.shown = some 0 ∧ (∀ thread, (callers.stage thread).isFree = true) ∧
    ∃ store report fresh, callers.scans.getLast? = some store ∧
      Loading.outcome Allowlist.sink (onLines [] : Engine Bool).resolver (rows store) {} =
        (.ok report, fresh) ∧
      fresh.isAllowed 7 ⟨some "a.com", none⟩ = true ∧
      callers.engine.isAllowed 7 ⟨some "a.com", none⟩ = false := by
  refine ⟨by decide +kernel, ⟨overlap ++ List.replicate 5 (.step false), ?_, by decide +kernel⟩,
    by decide +kernel, by decide +kernel, ?_⟩
  · exact List.prefix_append _ _
  · have hnewer : (run (onLines []) (finish false)).scans.getLast?.any (fun store =>
        let load :=
          Loading.outcome Allowlist.sink (onLines [] : Engine Bool).resolver (rows store) {}
        load.1.isOk && load.2.isAllowed 7 ⟨some "a.com", none⟩) = true := by decide +kernel
    obtain ⟨store, hstore, hload⟩ := (Option.any_eq_true _ _).mp hnewer
    obtain ⟨hanswer, hallowed⟩ := Bool.and_eq_true_iff.mp hload
    obtain ⟨report, hreport⟩ := exists_answer hanswer
    exact ⟨store, report, _, hstore, hreport, hallowed, by decide +kernel⟩

end AllowPolicy.Engine.Callers
