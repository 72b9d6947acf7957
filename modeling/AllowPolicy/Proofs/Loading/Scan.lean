import AllowPolicy.Loading
import Mathlib.Data.List.Forall2
import Mathlib.Data.List.ReduceOption

namespace AllowPolicy.Loading

/-- The outcome of each row is a rule or the lack of one. -/
abbrev AllRead [Surrogates] (resolver : Resolver) (rows : Rows) (rules : List (Option ScopedRule)) :
    Prop :=
  List.Forall₂ (fun row rule => (readRow resolver row).value = .ok rule) rows rules

/-- A row with a text gives the rule of that text. Noting a broken line changes no outcome. -/
theorem readRow_ofText [Surrogates] (resolver : Resolver) (text : String) :
    (readRow resolver (.ok (.ofText text))).value = (RuleLine.parse resolver text).value := by
  simp only [readRow, Row.ofText, Except.bind, textOf, readRule, Logged.value_bind]
  cases hparse : (RuleLine.parse resolver text).value with
  | ok rule => rfl
  | error failure =>
    cases failure with
    | fault fault =>
      by_cases hduplicate : fault.kind.isA .duplicateField <;> simp [hduplicate]
    | _ => rfl

theorem scanRows_cons_ok [Surrogates] {resolver : Resolver} {row : Outcome Row}
    {rule : Option ScopedRule}
    (hrow : (readRow resolver row).value = .ok rule) (scan : Scan) (rest : Rows) :
    (scanRows resolver scan (row :: rest)).value =
      (scanRows resolver (scan.add rule) rest).value := by
  simp only [scanRows, Logged.value_bind, hrow]

theorem scanRows_cons_error [Surrogates] {resolver : Resolver} {row : Outcome Row}
    {failure : Failure}
    (hrow : (readRow resolver row).value = .error failure) (scan : Scan) (rest : Rows) :
    ∃ rows, (scanRows resolver scan (row :: rest)).value =
      ({ scan with rows }, .error failure) := by
  simp only [scanRows, Logged.value_bind, hrow]
  exact ⟨_, rfl⟩

/-- A scan goes through exactly if every row can be read. -/
theorem isOk_scanRows_iff [Surrogates] (resolver : Resolver) (scan : Scan) (rows : Rows) :
    (scanRows resolver scan rows).value.2.isOk = true ↔
      ∀ row ∈ rows, (readRow resolver row).value.isOk = true := by
  induction rows generalizing scan with
  | nil => simp [scanRows, Except.isOk, Except.toBool]
  | cons row rest ih =>
    rw [List.forall_mem_cons]
    cases hrow : (readRow resolver row).value with
    | error failure =>
      obtain ⟨count, hfailed⟩ := scanRows_cons_error hrow scan rest
      simp [hfailed, Except.isOk, Except.toBool]
    | ok rule =>
      rw [scanRows_cons_ok hrow, ih, and_iff_right (by rfl)]

/-- A scan that goes through has read every row. -/
theorem scanRows_eq_ok_iff [Surrogates] (resolver : Resolver) (scan after : Scan) (rows : Rows) :
    (scanRows resolver scan rows).value = (after, .ok ()) ↔
      ∃ rules, AllRead resolver rows rules ∧ after = rules.foldl Scan.add scan := by
  induction rows generalizing scan with
  | nil =>
    constructor
    · intro hscan
      cases hscan
      exact ⟨[], .nil, rfl⟩
    · rintro ⟨rules, hread, rfl⟩
      cases hread
      rfl
  | cons row rest ih =>
    constructor
    · intro hscan
      cases hrow : (readRow resolver row).value with
      | error failure =>
        obtain ⟨count, hfailed⟩ := scanRows_cons_error hrow scan rest
        rw [hfailed] at hscan
        cases hscan
      | ok rule =>
        rw [scanRows_cons_ok hrow] at hscan
        obtain ⟨rules, hread, rfl⟩ := (ih (scan.add rule)).mp hscan
        exact ⟨rule :: rules, .cons hrow hread, rfl⟩
    · rintro ⟨rules, hread, rfl⟩
      cases hread with
      | cons hrow hread =>
        rw [scanRows_cons_ok hrow]
        exact (ih _).mpr ⟨_, hread, rfl⟩

/-- Rules are staged in row order, and every row is counted. -/
theorem foldl_add (rules : List (Option ScopedRule)) (scan : Scan) :
    rules.foldl Scan.add scan =
      { rows := scan.rows + rules.length, skipped := scan.skipped + rules.count none,
        staged := scan.staged ++ rules.reduceOption } := by
  induction rules generalizing scan with
  | nil => simp
  | cons rule rest ih =>
    rw [List.foldl_cons, ih]
    cases rule with
    | none =>
      simp only [Scan.add, List.length_cons, List.count_cons_self, List.reduceOption_cons_of_none,
        Scan.mk.injEq, and_true]
      omega
    | some entry =>
      have hcount : (some entry :: rest).count none = rest.count none :=
        List.count_cons_of_ne (by simp)
      simp only [Scan.add, List.length_cons, hcount, List.reduceOption_cons_of_some,
        Scan.mk.injEq, List.append_assoc, List.singleton_append, and_true]
      omega

/-- A rule comes out of a scan exactly if some row gives it. -/
theorem AllRead.some_mem_iff [Surrogates] {resolver : Resolver} {rows : Rows}
    {rules : List (Option ScopedRule)} (hread : AllRead resolver rows rules) (entry : ScopedRule) :
    some entry ∈ rules ↔ ∃ row ∈ rows, (readRow resolver row).value = .ok (some entry) := by
  induction hread with
  | nil => simp
  | cons hrow _ ih =>
    simp only [List.mem_cons, ih, exists_eq_or_imp, hrow, Except.ok.injEq,
      eq_comm (b := some entry)]

end AllowPolicy.Loading
