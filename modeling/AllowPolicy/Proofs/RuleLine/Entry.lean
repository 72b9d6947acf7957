import AllowPolicy.Proofs.RuleLine.Said

namespace AllowPolicy

namespace Constraints

variable {set : Constraints} {field : Field} {term : Term}

theorem get?_eq_none_iff : set.get? field = none ↔ field ∉ set.fields := by
  unfold get? fields
  rw [List.lookup_eq_none_iff, List.mem_map]
  simp only [bne_iff_ne, ne_eq, not_exists, not_and]
  exact forall₂_congr fun entry _ => not_congr eq_comm

theorem isSome_get?_iff : (set.get? field).isSome = true ↔ field ∈ set.fields := by
  rw [Option.isSome_iff_ne_none, ne_eq, get?_eq_none_iff, not_not]

theorem has_iff : set.has field = true ↔ field ∈ set.fields := isSome_get?_iff

/-- A put fails for a field that is fixed already, and only for such a field. -/
theorem put_eq_error_iff {failure : Failure} :
    set.put field term = .error failure ↔
      field ∈ set.fields ∧ failure = .fault (duplicate set.line field) := by
  unfold put
  simp only [has_iff]
  by_cases hfield : field ∈ set.fields <;> simp [hfield, eq_comm]

theorem put_eq_ok_iff (set after : Constraints) (field : Field) (term : Term) :
    set.put field term = .ok after ↔
      set.get? field = none ∧ after = { set with entries := set.entries ++ [(field, term)] } := by
  unfold put has
  cases set.get? field with
  | none => simp [eq_comm]
  | some old => simp

/-- What a field is fixed to, if anything. -/
def termsFor (set : Constraints) (field : Field) : List Term := (set.get? field).toList

/-- A field that is entered is fixed from then on, and no other. -/
theorem put_ok {after : Constraints} (hput : set.put field term = .ok after) :
    after.line = set.line ∧
      ∀ other, after.termsFor other =
        set.termsFor other ++ if other = field then [term] else [] := by
  obtain ⟨hfree, rfl⟩ := (put_eq_ok_iff set after field term).mp hput
  refine ⟨rfl, fun other => ?_⟩
  unfold termsFor get? at *
  rw [List.lookup_append]
  by_cases hother : other = field
  · simp [hother, hfree]
  · have hne : (other == field) = false := beq_false_of_ne hother
    simp [List.lookup_cons, hne, hother]

theorem put_error {failure : Failure} (hput : set.put field term = .error failure) :
    0 < (set.termsFor field).length ∧ failure = .fault (duplicate set.line field) := by
  obtain ⟨hfield, rfl⟩ := put_eq_error_iff.mp hput
  obtain ⟨old, hold⟩ := Option.isSome_iff_exists.mp (isSome_get?_iff.mpr hfield)
  exact ⟨by simp [termsFor, hold], rfl⟩

end Constraints

namespace RuleLine

variable {resolver : Resolver} {set after : Constraints} {failure : Failure}

theorem enter_package (resolver : Resolver) (set : Constraints) (name : String) :
    (enter resolver set (.package name)).value =
      match resolver.identity? name with
      | none => .error (.fault (packageNotFound set.line name))
      | some uid => (set.put .uid (.number uid)).bind (·.put .packageName (.text name)) := by
  simp only [enter, Resolver.lookup, Logged.value_bind, Resolver.identity?]
  cases resolver.resolve name with
  | none => rfl
  | some uid => by_cases hzero : uid = 0 <;> simp [hzero]

/-- A phrase that is entered adds what it says to what is fixed, and names no application without an
    identity. -/
theorem enter_ok {phrase : Phrase} (henter : (enter resolver set phrase).value = .ok after) :
    after.line = set.line ∧ (∀ name, phrase = .package name → (resolver.identity? name).isSome) ∧
      ∀ field, after.termsFor field = set.termsFor field ++
        (phrase.term? resolver field).toList := by
  cases phrase with
  | host pattern =>
    obtain ⟨hline, hterms⟩ := Constraints.put_ok henter
    refine ⟨hline, by simp, fun field => ?_⟩
    rw [hterms, Phrase.term?]
    split_ifs <;> rfl
  | ipv4 pattern =>
    obtain ⟨hline, hterms⟩ := Constraints.put_ok henter
    refine ⟨hline, by simp, fun field => ?_⟩
    rw [hterms, Phrase.term?]
    split_ifs <;> rfl
  | other =>
    cases henter
    exact ⟨rfl, by simp, fun field => (List.append_nil _).symm⟩
  | package name =>
    rw [enter_package] at henter
    cases hidentity : resolver.identity? name with
    | none => simp [hidentity] at henter
    | some uid =>
      cases huid : set.put .uid (.number uid) with
      | error failure => simp [hidentity, huid, Except.bind] at henter
      | ok mid =>
        simp only [hidentity, huid, Except.bind] at henter
        obtain ⟨hline, hterms⟩ := Constraints.put_ok huid
        obtain ⟨hline', hterms'⟩ := Constraints.put_ok henter
        refine ⟨hline'.trans hline, fun other hother => ?_, fun field => ?_⟩
        · cases hother
          simp [hidentity]
        · rw [hterms', hterms, List.append_assoc]
          cases field <;> simp [Phrase.term?, hidentity]

/-- A phrase fails for the application that it names, or for a field that it fixes again. -/
theorem enter_error {phrase : Phrase}
    (henter : (enter resolver set phrase).value = .error failure) :
    (∃ name, phrase = .package name ∧ resolver.identity? name = none ∧
        failure = .fault (packageNotFound set.line name)) ∨
      ∃ field, 2 ≤ (set.termsFor field).length + (phrase.term? resolver field).toList.length ∧
        failure = .fault (Constraints.duplicate set.line field) := by
  cases phrase with
  | host pattern =>
    obtain ⟨hlength, hfailure⟩ := Constraints.put_error henter
    exact .inr ⟨.host, Nat.succ_le_succ hlength, hfailure⟩
  | ipv4 pattern =>
    obtain ⟨hlength, hfailure⟩ := Constraints.put_error henter
    exact .inr ⟨.ipv4, Nat.succ_le_succ hlength, hfailure⟩
  | other => cases henter
  | package name =>
    rw [enter_package] at henter
    cases hidentity : resolver.identity? name with
    | none =>
      simp only [hidentity, Except.error.injEq] at henter
      exact .inl ⟨name, rfl, hidentity, henter.symm⟩
    | some uid =>
      refine .inr ?_
      simp only [hidentity] at henter
      simp only [Phrase.term?, hidentity]
      cases huid : set.put .uid (.number uid) with
      | error other =>
        rw [huid] at henter
        cases henter
        obtain ⟨hlength, hfailure⟩ := Constraints.put_error huid
        exact ⟨.uid, Nat.succ_le_succ hlength, hfailure⟩
      | ok mid =>
        rw [huid] at henter
        obtain ⟨hline, hterms⟩ := Constraints.put_ok huid
        obtain ⟨hlength, hfailure⟩ := Constraints.put_error henter
        rw [hterms .packageName, if_neg (by decide), List.append_nil] at hlength
        rw [hline] at hfailure
        exact ⟨.packageName, Nat.succ_le_succ hlength, hfailure⟩

theorem enterAll_cons_ok {phrase : Phrase} {mid : Constraints}
    (henter : (enter resolver set phrase).value = .ok mid) (rest : List Phrase) :
    (enterAll resolver set (phrase :: rest)).value = (enterAll resolver mid rest).value := by
  simp only [enterAll, Logged.value_bind, henter]

theorem enterAll_cons_error {phrase : Phrase}
    (henter : (enter resolver set phrase).value = .error failure) (rest : List Phrase) :
    (enterAll resolver set (phrase :: rest)).value = .error failure := by
  simp only [enterAll, Logged.value_bind, henter, Logged.value_pure]

theorem enterAll_append_error {front : List Phrase}
    (henter : (enterAll resolver set front).value = .error failure) (rest : List Phrase) :
    (enterAll resolver set (front ++ rest)).value = .error failure := by
  induction front generalizing set with
  | nil => cases henter
  | cons phrase others ih =>
    rw [List.cons_append]
    cases hphrase : (enter resolver set phrase).value with
    | error other =>
      rw [enterAll_cons_error hphrase] at henter ⊢
      exact henter
    | ok mid =>
      rw [enterAll_cons_ok hphrase] at henter ⊢
      exact ih henter

/-- Phrases that are all entered fix all that they say, and nothing else. -/
theorem enterAll_ok {phrases : List Phrase}
    (henter : (enterAll resolver set phrases).value = .ok after) :
    after.line = set.line ∧ (∀ name, .package name ∈ phrases → (resolver.identity? name).isSome) ∧
      ∀ field, after.termsFor field = set.termsFor field ++ termsOf resolver field phrases := by
  induction phrases generalizing set with
  | nil =>
    cases henter
    exact ⟨rfl, by simp, fun field => (List.append_nil _).symm⟩
  | cons phrase rest ih =>
    cases hphrase : (enter resolver set phrase).value with
    | error failure =>
      rw [enterAll_cons_error hphrase] at henter
      cases henter
    | ok mid =>
      rw [enterAll_cons_ok hphrase] at henter
      obtain ⟨hline, hknown, hterms⟩ := enter_ok hphrase
      obtain ⟨hline', hknown', hterms'⟩ := ih henter
      refine ⟨hline'.trans hline, fun name hname => ?_, fun field => ?_⟩
      · rcases List.mem_cons.mp hname with hhead | hmem
        · exact hknown name hhead.symm
        · exact hknown' name hmem
      · rw [hterms', hterms, List.append_assoc, termsOf, termsOf, List.filterMap_cons]
        cases phrase.term? resolver field <;> rfl

/-- Phrases fail for an application without an identity, or for a field that they fix twice. -/
theorem enterAll_error {phrases : List Phrase}
    (henter : (enterAll resolver set phrases).value = .error failure) :
    (∃ name, .package name ∈ phrases ∧ resolver.identity? name = none ∧
        failure = .fault (packageNotFound set.line name)) ∨
      ∃ field, 2 ≤ (set.termsFor field).length + (termsOf resolver field phrases).length ∧
        failure = .fault (Constraints.duplicate set.line field) := by
  induction phrases generalizing set with
  | nil => cases henter
  | cons phrase rest ih =>
    have hsplit (field : Field) : (termsOf resolver field (phrase :: rest)).length =
        (phrase.term? resolver field).toList.length + (termsOf resolver field rest).length := by
      rw [termsOf, termsOf, List.filterMap_cons]
      cases phrase.term? resolver field with
      | none => simp
      | some term => simp [Nat.add_comm]
    cases hphrase : (enter resolver set phrase).value with
    | error other =>
      rw [enterAll_cons_error hphrase] at henter
      cases henter
      rcases enter_error hphrase with ⟨name, rfl, hnone, hfailure⟩ | ⟨field, htwice, hfailure⟩
      · exact .inl ⟨name, List.mem_cons_self, hnone, hfailure⟩
      · refine .inr ⟨field, ?_, hfailure⟩
        rw [hsplit]
        omega
    | ok mid =>
      rw [enterAll_cons_ok hphrase] at henter
      obtain ⟨hline, _, hterms⟩ := enter_ok hphrase
      rcases ih henter with ⟨name, hname, hnone, hfailure⟩ | ⟨field, htwice, hfailure⟩
      · exact .inl ⟨name, List.mem_cons_of_mem phrase hname, hnone, hline ▸ hfailure⟩
      · refine .inr ⟨field, ?_, hline ▸ hfailure⟩
        rw [hterms, List.length_append] at htwice
        rw [hsplit]
        omega

end RuleLine

end AllowPolicy
