import AllowPolicy.Proofs.Engine.Refresh
import AllowPolicy.Proofs.RuleLine.Package
import Mathlib.Tactic.Tauto

namespace AllowPolicy

/-- A rule line on its own lets an identity reach a destination. -/
def RuleLine.Grants (resolver : Resolver) (text : String) (uid : Int) (target : Destination) :
    Prop :=
  ∃ entry, (RuleLine.parse resolver text).value = .ok (some entry) ∧ entry.AppliesTo uid ∧
    entry.rule.Covers target

/-- A line that names an application grants something to the identity of that application only. -/
theorem RuleLine.Grants.resolve {resolver : Resolver} {text name : String} {uid : Int}
    {target : Destination} (hgrants : Grants resolver text uid target) (hnames : Names text name) :
    uid ≠ 0 ∧ resolver.resolve name = some uid := by
  obtain ⟨entry, hparse, happlies, _⟩ := hgrants
  obtain ⟨owner, hresolve, hzero, hscope⟩ := scope_of_names hparse hnames
  rcases happlies with hglobal | huid
  · exact absurd (by simpa [hglobal] using hscope.symm) hzero
  · obtain rfl : owner = uid := hscope.symm.trans huid
    exact ⟨hzero, hresolve⟩

namespace Engine

variable {ι : Type} [DecidableEq ι]

/-- After a good refresh the engine allows what the lines in force grant one by one. -/
theorem isAllowed_iff_grants {engine after : Engine ι} {thread : ι} {report : LoadReport}
    (hrefresh : ((refresh thread).run engine).value = (.ok report, after)) (uid : Int)
    (target : Destination) :
    after.isAllowed uid target = true ↔
      ∃ text, engine.store.Enacts text ∧ RuleLine.Grants engine.resolver text uid target := by
  rcases refresh_cases thread engine with ⟨failure, hstuck⟩ | ⟨lock, hrun⟩
  · rw [hstuck] at hrefresh
    cases hrefresh
  rw [hrun] at hrefresh
  rcases refreshed_cases engine with ⟨failure, hfailed⟩ | ⟨report', fresh, stored, hload, _, hdone⟩
  · rw [hfailed] at hrefresh
    cases hrefresh
  · rw [hdone] at hrefresh
    cases hrefresh
    obtain ⟨rules, hread, rfl⟩ := Loading.outcome_sink_ok hload
    simp only [isAllowed, Allowlist.isAllowed_foldl_place, List.reduceOption_mem_iff,
      hread.some_mem_iff, RuleLine.Grants]
    rcases rows_cases engine.store with ⟨texts, hrows, htexts⟩ | ⟨failure, hrows⟩
    · simp only [hrows, List.mem_map]
      constructor
      · rintro ⟨entry, ⟨_, ⟨text, htext, rfl⟩, hrow⟩, happlies, hcovers⟩
        rw [Loading.readRow_ofText] at hrow
        exact ⟨text, (htexts text).mp htext, entry, hrow, happlies, hcovers⟩
      · rintro ⟨text, henacts, entry, hparse, happlies, hcovers⟩
        refine ⟨entry, ⟨_, ⟨text, (htexts text).mpr henacts, rfl⟩, ?_⟩, happlies, hcovers⟩
        rw [Loading.readRow_ofText]
        exact hparse
    · rw [hrows] at hread
      cases hread with
      | cons hrow _ => cases hrow

/-- After a good refresh the engine allows a destination to an identity exactly if some line in
    force grants it. Lines that name another application have no part in this, nor have the order
    and the number of the lines: two stores that agree on the other lines give the same answer. -/
theorem isAllowed_of_refresh {engine after : Engine ι} {thread : ι} {report : LoadReport}
    (hrefresh : ((refresh thread).run engine).value = (.ok report, after)) (uid : Int)
    (target : Destination) :
    (after.isAllowed uid target = true ↔
        ∃ text, engine.store.Enacts text ∧ RuleLine.Grants engine.resolver text uid target) ∧
      ∀ (other otherAfter : Engine ι) (otherThread : ι) (otherReport : LoadReport),
        ((refresh otherThread).run other).value = (.ok otherReport, otherAfter) →
        other.resolver = engine.resolver →
        (∀ text, (∀ name, RuleLine.Names text name →
            uid ≠ 0 ∧ engine.resolver.resolve name = some uid) →
          (engine.store.Enacts text ↔ other.store.Enacts text)) →
        otherAfter.isAllowed uid target = after.isAllowed uid target := by
  refine ⟨isAllowed_iff_grants hrefresh uid target, ?_⟩
  intro other otherAfter otherThread otherReport hother hresolver hagree
  -- A line that grants something here names this application or none, so both stores have it.
  rw [Bool.eq_iff_iff, isAllowed_iff_grants hrefresh, isAllowed_iff_grants hother, hresolver]
  constructor
  · rintro ⟨text, henacts, hgrants⟩
    exact ⟨text, (hagree text fun _ => hgrants.resolve).mpr henacts, hgrants⟩
  · rintro ⟨text, henacts, hgrants⟩
    exact ⟨text, (hagree text fun _ => hgrants.resolve).mp henacts, hgrants⟩

/-- Lines for everybody, for a mail program and for the superuser. -/
def someLines : List String :=
  ["allow host:a.com", "allow packagename:mail ipv4:10.0.0.0/8",
    "allow packagename:root ipv4:1.1.1.1"]

/-- Lines for the mail program and, twice, for everybody. -/
def otherLines : List String :=
  ["allow packagename:mail ipv4:10.0.0.0/8", "allow host:a.com", "allow host:a.com"]

/-- A line for the superuser, who has no identity of his own, changes nothing for the mail program,
    nor do the order and the number of the other lines. -/
theorem isAllowed_of_refresh_onLines :
    ∃ report after otherReport otherAfter,
      ((refresh ()).run (onLines someLines)).value = (.ok report, after) ∧
      ((refresh ()).run (onLines otherLines)).value = (.ok otherReport, otherAfter) ∧
      after.isAllowed 7 ⟨none, some "10.1.2.3"⟩ = true ∧
      otherAfter.isAllowed 7 ⟨none, some "10.1.2.3"⟩ = true := by
  have hroot : RuleLine.Names "allow packagename:root ipv4:1.1.1.1" "root" :=
    ⟨["packagename:root".toList, "ipv4:1.1.1.1".toList], by decide +kernel, by decide +kernel⟩
  have hagree : ∀ text, (∀ name, RuleLine.Names text name →
        (7 : Int) ≠ 0 ∧ (onLines someLines : Engine Unit).resolver.resolve name = some 7) →
      ((onLines someLines : Engine Unit).store.Enacts text ↔
        (onLines otherLines : Engine Unit).store.Enacts text) := by
    intro text hnames
    have hother : text ≠ "allow packagename:root ipv4:1.1.1.1" := by
      rintro rfl
      exact absurd (hnames "root" hroot).2 (by decide)
    simp only [enacts_onLines, someLines, otherLines, List.mem_cons, hother, List.not_mem_nil,
      or_false]
    tauto
  have hgood : ((refresh ()).run (onLines someLines)).value.1.isOk = true := by decide +kernel
  have hgood' : ((refresh ()).run (onLines otherLines)).value.1.isOk = true := by decide +kernel
  have hallowed : ((refresh ()).run (onLines someLines)).value.2.isAllowed 7
      ⟨none, some "10.1.2.3"⟩ = true := by decide +kernel
  obtain ⟨report, hrefresh⟩ := exists_answer hgood
  obtain ⟨otherReport, hother⟩ := exists_answer hgood'
  have hsame :=
    (isAllowed_of_refresh hrefresh 7 ⟨none, some "10.1.2.3"⟩).2 _ _ _ _ hother rfl hagree
  exact ⟨report, _, otherReport, _, hrefresh, hother, hallowed, hsame.trans hallowed⟩

end Engine

end AllowPolicy
