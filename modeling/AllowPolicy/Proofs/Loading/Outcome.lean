import AllowPolicy.Proofs.Allowlist.Bucket
import AllowPolicy.Proofs.Loading.Scan

namespace AllowPolicy

theorem exists_answer {α β : Type} {result : Outcome α × β} (hgood : result.1.isOk = true) :
    ∃ answer, result = (.ok answer, result.2) := by
  obtain ⟨_ | answer, after⟩ := result
  · cases hgood
  · exact ⟨answer, rfl⟩

namespace Loading

variable {σ : Type}

/-- What a load comes to once the sink has answered. -/
def settle (scan : Scan) : Outcome Unit × σ → Outcome LoadReport × σ
  | (.error failure, state) => (.error failure, state)
  | (.ok (), state) => (.ok scan.report, state)

theorem route_cons (sink : Sink σ) (entry : ScopedRule) (rest : List ScopedRule) (state : σ) :
    ((route sink (entry :: rest)).run state).value =
      match (offer sink entry).run state with
      | (.error failure, after) => (.error failure, after)
      | (.ok (), after) => ((route sink rest).run after).value := by
  simp only [route]
  rcases hoffer : (offer sink entry).run state with ⟨_ | _, after⟩ <;> simp [hoffer]

variable [Surrogates]

/-- How a load ends that has come so far with its scan, and what it leaves in the sink. -/
def finish (sink : Sink σ) (resolver : Resolver) (scan : Scan) (rows : Rows) (state : σ) :
    Outcome LoadReport × σ :=
  match (scanRows resolver scan rows).value with
  | (_, .error failure) => (.error failure, state)
  | (scan, .ok ()) => settle scan ((route sink scan.staged).run state).value

/-- How a load ends, and what it leaves in the sink. -/
def outcome (sink : Sink σ) (resolver : Resolver) (rows : Rows) (state : σ) :
    Outcome LoadReport × σ :=
  finish sink resolver {} rows state

theorem finish_cons_ok {resolver : Resolver} {row : Outcome Row} {rule : Option ScopedRule}
    (hrow : (readRow resolver row).value = .ok rule) (sink : Sink σ) (scan : Scan) (rest : Rows)
    (state : σ) :
    finish sink resolver scan (row :: rest) state =
      finish sink resolver (scan.add rule) rest state := by
  simp only [finish, scanRows_cons_ok hrow]

theorem finish_cons_error {resolver : Resolver} {row : Outcome Row} {failure : Failure}
    (hrow : (readRow resolver row).value = .error failure) (sink : Sink σ) (scan : Scan)
    (rest : Rows) (state : σ) :
    finish sink resolver scan (row :: rest) state = (.error failure, state) := by
  obtain ⟨count, hscan⟩ := scanRows_cons_error hrow scan rest
  simp only [finish, hscan]

/-- The lock that a load holds has no say in how it ends. -/
theorem run_run {ι : Type} (sink : Sink σ) (resolver : Resolver) (rows : Rows) (lock : Lock ι)
    (state : σ) :
    ∃ count, ((run sink resolver rows lock).run state).value =
      (⟨(outcome sink resolver rows state).1, count, lock⟩,
        (outcome sink resolver rows state).2) := by
  unfold run outcome finish
  rcases hscan : (scanRows resolver {} rows).value with ⟨scan, _ | ⟨⟩⟩
  · exact ⟨scan.rows, by simp [hscan]⟩
  · rcases hroute : ((route sink scan.staged).run state).value with ⟨_ | ⟨⟩, after⟩
    · exact ⟨scan.rows, by simp [hscan, hroute, settle]⟩
    · exact ⟨scan.rows, by simp [hscan, hroute, settle]⟩

/-- A row that cannot be read ends a load before the sink is called. -/
theorem outcome_of_unread {resolver : Resolver} {rows : Rows} {row : Outcome Row}
    (hrow : row ∈ rows) (hunread : (readRow resolver row).value.isOk = false) (sink : Sink σ)
    (state : σ) : ∃ failure, outcome sink resolver rows state = (.error failure, state) := by
  unfold outcome finish
  rcases hscan : (scanRows resolver {} rows).value with ⟨scan, failure | ⟨⟩⟩
  · exact ⟨failure, rfl⟩
  · have hread := (isOk_scanRows_iff resolver {} rows).mp (by rw [hscan]; rfl) row hrow
    rw [hunread] at hread
    cases hread

/-- A load whose rows can all be read offers their rules to the sink. -/
theorem outcome_of_allRead {resolver : Resolver} {rows : Rows} {rules : List (Option ScopedRule)}
    (hread : AllRead resolver rows rules) (sink : Sink σ) (state : σ) :
    outcome sink resolver rows state =
      settle (rules.foldl Scan.add {}) ((route sink rules.reduceOption).run state).value := by
  have hstaged : (rules.foldl Scan.add {}).staged = rules.reduceOption := by
    rw [foldl_add]
    rfl
  unfold outcome finish
  rw [(scanRows_eq_ok_iff resolver {} _ rows).mpr ⟨rules, hread, rfl⟩]
  simp only [hstaged]

theorem allRead_or_unread (resolver : Resolver) (rows : Rows) :
    (∃ rules, AllRead resolver rows rules) ∨
      ∃ row ∈ rows, (readRow resolver row).value.isOk = false := by
  rcases hscan : (scanRows resolver {} rows).value with ⟨scan, failure | ⟨⟩⟩
  · have hnot : ¬ ∀ row ∈ rows, (readRow resolver row).value.isOk = true := by
      rw [← isOk_scanRows_iff resolver {}, hscan]
      exact Bool.false_ne_true
    right
    simpa using hnot
  · obtain ⟨rules, hread, _⟩ := (scanRows_eq_ok_iff resolver {} scan rows).mp hscan
    exact .inl ⟨rules, hread⟩

theorem AllRead.isOk {resolver : Resolver} {rows : Rows} {rules : List (Option ScopedRule)}
    (hread : AllRead resolver rows rules) :
    ∀ row ∈ rows, (readRow resolver row).value.isOk = true := by
  rw [← isOk_scanRows_iff resolver {},
    (scanRows_eq_ok_iff resolver {} _ rows).mpr ⟨rules, hread, rfl⟩]
  rfl

/-- A load into an allowlist puts every rule of its rows in its place. -/
theorem outcome_sink_of_allRead {resolver : Resolver} {rows : Rows}
    {rules : List (Option ScopedRule)} (hread : AllRead resolver rows rules)
    (allowlist : Allowlist) :
    outcome Allowlist.sink resolver rows allowlist =
      (.ok (rules.foldl Scan.add {}).report,
        rules.reduceOption.foldl Allowlist.place allowlist) := by
  rw [outcome_of_allRead hread, Allowlist.run_route_sink]
  rfl

/-- A load into an empty allowlist puts every rule of its rows in its place. -/
theorem outcome_sink_ok {resolver : Resolver} {rows : Rows} {report : LoadReport}
    {fresh : Allowlist} (hload : outcome Allowlist.sink resolver rows {} = (.ok report, fresh)) :
    ∃ rules, AllRead resolver rows rules ∧ fresh = rules.reduceOption.foldl Allowlist.place {} := by
  obtain ⟨rules, hread⟩ | ⟨row, hrow, hunread⟩ := allRead_or_unread resolver rows
  · rw [outcome_sink_of_allRead hread] at hload
    exact ⟨rules, hread, (Prod.mk.inj hload).2.symm⟩
  · obtain ⟨failure, hfailed⟩ := outcome_of_unread hrow hunread Allowlist.sink {}
    rw [hfailed] at hload
    cases hload

/-- A load into an allowlist goes through exactly if every row can be read. -/
theorem isOk_outcome_sink_iff (resolver : Resolver) (rows : Rows) (state : Allowlist) :
    (outcome Allowlist.sink resolver rows state).1.isOk = true ↔
      ∀ row ∈ rows, (readRow resolver row).value.isOk = true := by
  obtain ⟨rules, hread⟩ | ⟨row, hrow, hunread⟩ := allRead_or_unread resolver rows
  · rw [outcome_sink_of_allRead hread]
    exact iff_of_true rfl hread.isOk
  · obtain ⟨failure, hfailed⟩ := outcome_of_unread hrow hunread Allowlist.sink state
    rw [hfailed]
    refine iff_of_false Bool.false_ne_true fun hread => ?_
    rw [hread row hrow] at hunread
    cases hunread

end Loading

end AllowPolicy
