import AllowPolicy.Proofs.Loading.Call
import AllowPolicy.Proofs.Lock.Visit

namespace AllowPolicy.Loading

open Lock (Ledger Event)

variable {σ ι : Type}

/-- The row has a text, and the text parses to a rule or to none. -/
def Gives (resolver : Resolver) (row : Outcome Row) (rule : Option ScopedRule) : Prop :=
  ∃ text, row = .ok (.ofText text) ∧ (RuleLine.parse resolver text).value = .ok rule

theorem gives_iff (resolver : Resolver) (row : Outcome Row) (rule : Option ScopedRule) :
    Gives resolver row rule ↔ (readRow resolver row).value = .ok rule := by
  constructor
  · rintro ⟨text, rfl, hparse⟩
    rw [readRow_ofText, hparse]
  · intro hread
    rcases row with failure | ⟨_ | value⟩
    · cases hread
    · cases hread
    · cases value with
      | text text =>
        have hparse : (readRow resolver (.ok (.ofText text))).value = .ok rule := hread
        rw [readRow_ofText] at hparse
        exact ⟨text, rfl, hparse⟩
      | _ => cases hread

theorem allRead_iff (resolver : Resolver) (rows : Rows) (rules : List (Option ScopedRule)) :
    AllRead resolver rows rules ↔ List.Forall₂ (Gives resolver) rows rules := by
  have hsame : (fun row rule => (readRow resolver row).value = .ok rule) = Gives resolver := by
    funext row rule
    exact propext (gives_iff resolver row rule).symm
  rw [AllRead, hsame]

theorem isOk_readRow_iff (resolver : Resolver) (row : Outcome Row) :
    (readRow resolver row).value.isOk = true ↔ ∃ rule, Gives resolver row rule := by
  simp only [gives_iff]
  cases (readRow resolver row).value <;> simp [Except.isOk, Except.toBool]

/-- What a load does to its sink, which notes its calls: how it ends, the calls, and the state in
    which it leaves the sink. -/
structure Exact (sink : Sink σ) (resolver : Resolver) (rows : Rows) (state : σ)
    (result : Outcome LoadReport) (calls : List Sink.Call) (left : σ) : Prop where
  /-- A load that returns has offered the rule of every row that gives one, in row order, and
      counts every row. -/
  returned : ∀ report, result = .ok report → ∃ rules, List.Forall₂ (Gives resolver) rows rules ∧
    calls = rules.reduceOption.map ScopedRule.call ∧
    report.scanned = rows.length ∧ report.skipped = rules.count none ∧
    report.global = rules.reduceOption.countP (·.isGlobal) ∧
    report.global + report.app + report.skipped = report.scanned
  /-- A row that gives neither a rule nor none, wherever it stands, ends the load before the sink is
      called. -/
  aborted : ∀ row ∈ rows, (∀ rule, ¬ Gives resolver row rule) →
    (∃ failure, result = .error failure) ∧ calls = [] ∧ left = state
  /-- Without such a row only the sink can end a load, by refusing the rule that it was offered
      last. -/
  refused : ∀ failure, result = .error failure →
    (∀ row ∈ rows, ∃ rule, Gives resolver row rule) →
    ∃ rules offered last before after, List.Forall₂ (Gives resolver) rows rules ∧
      offered <+: rules.reduceOption ∧ calls = offered.map ScopedRule.call ∧
      offered.getLast? = some last ∧ (offer sink last).run before = (.error failure, after)

theorem length_eq_add_count_none (rules : List (Option ScopedRule)) :
    rules.length = rules.reduceOption.length + rules.count none := by
  rw [rules.length_eq_reduceOption_length_add_filter_none, List.count_eq_length_filter]
  congr 3
  funext rule
  cases rule <;> rfl

/-- A load whose rows can all be read offers their rules, up to the first that the sink refuses. -/
theorem exact_of_allRead {resolver : Resolver} {rows : Rows} {rules : List (Option ScopedRule)}
    (hread : AllRead resolver rows rules) (sink : Sink σ) (state : σ) :
    ∃ result calls left, outcome sink.noting resolver rows ([], state) = (result, calls, left) ∧
      Exact sink resolver rows state result calls left := by
  obtain ⟨offered, rest, hsplit, hroute, hall, hrefused⟩ :=
    route_noting sink rules.reduceOption [] state
  rw [outcome_of_allRead hread, hroute]
  have hgiven := (allRead_iff resolver rows rules).mp hread
  have haborted (row : Outcome Row) (hrow : row ∈ rows)
      (hnone : ∀ rule, ¬ Gives resolver row rule) : False := by
    obtain ⟨rule, hgives⟩ := (isOk_readRow_iff resolver row).mp (hread.isOk row hrow)
    exact hnone rule hgives
  cases hanswer : ((route sink rules.reduceOption).run state).value.1 with
  | ok =>
    refine ⟨_, _, _, rfl, fun report hreport => ?_, fun row hrow hnone => ?_, fun _ hfailed => ?_⟩
    · cases hreport
      refine ⟨rules, hgiven, ?_, ?_⟩
      · rw [hsplit, hall hanswer, List.append_nil]
        rfl
      · have hlength := length_eq_add_count_none rules
        have hkinds := rules.reduceOption.length_eq_length_filter_add (·.isGlobal)
        rw [foldl_add, hread.length_eq]
        simp only [Scan.report, Nat.zero_add, List.nil_append, List.countP_eq_length_filter,
          true_and]
        omega
    · exact (haborted row hrow hnone).elim
    · cases hfailed
  | error failure =>
    refine ⟨_, _, _, rfl, fun _ hreport => ?_, fun row hrow hnone => ?_, fun _ hfailed _ => ?_⟩
    · cases hreport
    · exact (haborted row hrow hnone).elim
    · cases hfailed
      obtain ⟨last, before, after, hlast, hoffer⟩ := hrefused failure hanswer
      exact ⟨rules, offered, last, before, after, hgiven, ⟨rest, hsplit.symm⟩, rfl, hlast, hoffer⟩

theorem exact_outcome (sink : Sink σ) (resolver : Resolver) (rows : Rows) (state : σ) :
    ∃ result calls left, outcome sink.noting resolver rows ([], state) = (result, calls, left) ∧
      Exact sink resolver rows state result calls left := by
  obtain ⟨rules, hread⟩ | ⟨row, hrow, hunread⟩ := allRead_or_unread resolver rows
  · exact exact_of_allRead hread sink state
  · obtain ⟨failure, hfailed⟩ := outcome_of_unread hrow hunread sink.noting ([], state)
    refine ⟨_, _, _, hfailed, fun _ hreport => ?_, fun _ _ _ => ⟨⟨failure, rfl⟩, rfl, rfl⟩, ?_⟩
    · cases hreport
    · intro _ _ hreadable
      have hread := (isOk_readRow_iff resolver row).mpr (hreadable row hrow)
      rw [hunread] at hread
      cases hread

/-- What a load does to an allowlist. -/
structure Fills (resolver : Resolver) (rows : Rows) (allowlist : Allowlist)
    (result : Outcome LoadReport) (left : Allowlist) : Prop where
  /-- Only a row can end the load: the allowlist takes every rule. -/
  returns_iff : (∃ report, result = .ok report) ↔ ∀ row ∈ rows, ∃ rule, Gives resolver row rule
  returned : ∀ report, result = .ok report → (left.size : Int) = allowlist.size + report.loaded ∧
    ∃ rules, List.Forall₂ (Gives resolver) rows rules ∧
      allowlist.Extended left rules.reduceOption
  failed : ∀ failure, result = .error failure → left = allowlist

theorem fills_outcome (resolver : Resolver) (rows : Rows) (allowlist : Allowlist) :
    Fills resolver rows allowlist (outcome Allowlist.sink resolver rows allowlist).1
      (outcome Allowlist.sink resolver rows allowlist).2 := by
  obtain ⟨rules, hread⟩ | ⟨row, hrow, hunread⟩ := allRead_or_unread resolver rows
  · rw [outcome_sink_of_allRead hread]
    have hextended := allowlist.extended_foldl_place rules.reduceOption
    refine ⟨iff_of_true ⟨_, rfl⟩ fun row hrow => ?_, fun report hreport => ?_, fun _ hfailed => ?_⟩
    · exact (isOk_readRow_iff resolver row).mp (hread.isOk row hrow)
    · cases hreport
      refine ⟨?_, rules, (allRead_iff resolver rows rules).mp hread, hextended⟩
      have hkinds := rules.reduceOption.length_eq_length_filter_add (·.isGlobal)
      have hsize := hextended.size
      rw [foldl_add]
      simp only [Scan.report, LoadReport.loaded, List.nil_append]
      omega
    · cases hfailed
  · obtain ⟨failure, hfailed⟩ := outcome_of_unread hrow hunread Allowlist.sink allowlist
    rw [hfailed]
    refine ⟨iff_of_false (fun hreport => ?_) fun hreadable => ?_, fun _ hreport => ?_,
      fun _ _ => rfl⟩
    · obtain ⟨_, hreport⟩ := hreport
      cases hreport
    · have hread := (isOk_readRow_iff resolver row).mpr (hreadable row hrow)
      rw [hunread] at hread
      cases hread
    · cases hreport

variable {ι : Type} [DecidableEq ι]

/-- A load at a lock that others use too: the thread asks for its permit after `before`, and gives
    it back after `during`, if it has got it by then. -/
def loadAmong (before during : List (Event ι)) (thread : ι) (sink : Sink σ) (resolver : Resolver)
    (rows : Rows) (state : σ) : Outcome (Lock ι × Logged (Ending ι × σ)) :=
  let held := (Ledger.run (before ++ .ask thread .read .unlimited :: during)).lock
  if held.isWaiting thread then .error .stuck
  else (held.releaseRead thread).map fun after => (after, (run sink resolver rows held).run state)

/-- The thread still waits for its permit, or the load ends as `post` says and leaves the thread the
    permits that it had. -/
def EndsIn (before during : List (Event ι)) (thread : ι) (sink : Sink σ) (resolver : Resolver)
    (rows : Rows) (state : σ) (post : Outcome LoadReport → σ → Prop) : Prop :=
  thread ∈ (Ledger.run (before ++ .ask thread .read .unlimited :: during)).lock.waiting ∨
    ∃ after logged, loadAmong before during thread sink resolver rows state = .ok (after, logged) ∧
      after.held thread = (Ledger.run before).lock.held thread ∧
      post logged.value.1.result logged.value.2

theorem endsIn_of_outcome {before during : List (Event ι)} {thread : ι}
    (habsent : thread ∉ (Ledger.run before).lock.waiting)
    (hduring : ∀ event ∈ during, event.thread = thread → event = .look thread) {sink : Sink σ}
    {resolver : Resolver} {rows : Rows} {state : σ} {post : Outcome LoadReport → σ → Prop}
    (hpost : post (outcome sink resolver rows state).1 (outcome sink resolver rows state).2) :
    EndsIn before during thread sink resolver rows state post := by
  have hvisits := Ledger.visits_run before during habsent hduring
  have hsound := (Ledger.balanced_run (before ++ .ask thread .read .unlimited :: during)).sound
  unfold EndsIn loadAmong
  -- The work between the two ends does not look at the lock.
  generalize (Ledger.run (before ++ .ask thread .read .unlimited :: during)).lock = held at *
  by_cases hwaits : thread ∈ held.waiting
  · exact .inl hwaits
  · obtain ⟨after, hrelease, hsame⟩ := hvisits.releaseRead hsound hwaits
    obtain ⟨count, hrun⟩ := run_run sink resolver rows held state
    rw [Lock.mem_waiting_iff] at hwaits
    refine .inr ⟨after, (run sink resolver rows held).run state, ?_, hsame, ?_⟩
    · rw [if_neg hwaits, hrelease]
      rfl
    · rw [hrun]
      exact hpost

/-- A load that nobody interrupts. -/
theorem load_eq_loadAmong {before : List (Event ι)} {thread : ι}
    (habsent : thread ∉ (Ledger.run before).lock.waiting) (sink : Sink σ) (resolver : Resolver)
    (rows : Rows) (state : σ) :
    load (Ledger.run before).lock thread sink resolver rows state =
      loadAmong before [] thread sink resolver rows state := by
  unfold load loadAmong
  rw [Ledger.lock_run_ask habsent]
  exact (Ledger.balanced_run before).sound.sharing_eq habsent _

/-- However other threads use the lock, a load offers each rule of its rows to its sink once and in
    row order and counts every row, or a row that cannot be read ends it before the sink is called.
    An allowlist takes every rule. Either way the thread has the permits that it had before. It
    waits only for somebody who writes or waits already. -/
theorem load_exact (before during : List (Event ι)) (thread : ι)
    (habsent : thread ∉ (Ledger.run before).lock.waiting)
    (hduring : ∀ event ∈ during, event.thread = thread → event = .look thread) (sink : Sink σ)
    (state : σ) (allowlist : Allowlist) (resolver : Resolver) (rows : Rows) :
    load (Ledger.run before).lock thread sink resolver rows state =
        loadAmong before [] thread sink resolver rows state ∧
      ((Ledger.run before).lock.holds thread = true ∨
          (Ledger.run before).lock.writer = none ∧ (Ledger.run before).lock.queue = [] →
        thread ∉ (Ledger.run (before ++ .ask thread .read .unlimited :: during)).lock.waiting) ∧
      EndsIn before during thread sink.noting resolver rows ([], state)
        (fun result noted => Exact sink resolver rows state result noted.1 noted.2) ∧
      EndsIn before during thread Allowlist.sink resolver rows allowlist
        (Fills resolver rows allowlist) := by
  refine ⟨load_eq_loadAmong habsent sink resolver rows state,
    Ledger.absent_run_ask before during habsent hduring, ?_, ?_⟩
  · obtain ⟨result, calls, left, houtcome, hexact⟩ := exact_outcome sink resolver rows state
    refine endsIn_of_outcome habsent hduring ?_
    rw [houtcome]
    exact hexact
  · exact endsIn_of_outcome habsent hduring (fills_outcome resolver rows allowlist)

/-- A rule for every application, a line that is no rule, and a rule for one application. -/
def mixedRows : Rows :=
  [.ok (.ofText "allow host:a.com"), .ok (.ofText "# mail"),
    .ok (.ofText "allow packagename:mail host:b.com")]

/-- A load that has to wait for a writer. -/
theorem load_exact_behindWriter :
    ∃ after logged,
      loadAmong [.ask true .write .unlimited] [.give true .write, .look false] false
          Allowlist.sink.noting { resolve := fun _ => some 7 } mixedRows ([], {}) =
        .ok (after, logged) ∧
      after.held false = (Ledger.run [.ask true .write .unlimited]).lock.held false ∧
      Exact Allowlist.sink { resolve := fun _ => some 7 } mixedRows {} logged.value.1.result
        logged.value.2.1 logged.value.2.2 := by
  obtain ⟨_, _, hends, _⟩ := load_exact [.ask true .write .unlimited]
    [.give true .write, .look false] false (by decide) (by simp [Event.thread]) Allowlist.sink {} {}
    { resolve := fun _ => some 7 } mixedRows
  exact hends.resolve_left (by decide)

end AllowPolicy.Loading
