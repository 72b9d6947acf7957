import AllowPolicy.Proofs.RuleLine.Puts

namespace AllowPolicy

theorem Text.infix_intercalate (sep : List Char) {word : List Char} {words : List (List Char)}
    (hword : word ∈ words) : word <:+: sep.intercalate words := by
  induction words with
  | nil => cases hword
  | cons first rest ih =>
    cases rest with
    | nil =>
      obtain rfl := List.mem_singleton.mp hword
      rw [List.intercalate_singleton]
    | cons next others =>
      rw [List.intercalate_cons_cons]
      rcases List.mem_cons.mp hword with rfl | hrest
      · rw [List.append_assoc]
        exact (List.prefix_append _ _).isInfix
      · exact (ih hrest).trans (List.suffix_append _ _).isInfix

/-- The word that gives a field this text: the kind of the field, a colon, and the text. -/
def Field.word (field : Field) (text : String) : List Char :=
  field.name.toList ++ ':' :: text.toList

namespace Phrase

/-- What a phrase fixes, in this order, unless it names an application without an identity. -/
def fixed? (resolver : Resolver) : Phrase → Option (List (Field × Term))
  | .package name => (resolver.identity? name).map fun uid =>
    [(.uid, .number uid), (.packageName, .text name)]
  | .host pattern => some [(.host, .text pattern)]
  | .ipv4 pattern => some [(.ipv4, .text pattern)]
  | .other => some []

variable {word : List Char} {name pattern : String}

private theorem after?_eq_iff {kind text : String} :
    (Text.after? (kind.toList ++ [':']) word).map String.ofList = some text ↔
      word = kind.toList ++ ':' :: text.toList := by
  simp only [Option.map_eq_some_iff, Text.after?_eq_some_iff]
  constructor
  · rintro ⟨rest, rfl, rfl⟩
    simp
  · rintro rfl
    exact ⟨text.toList, by simp, String.ofList_toList⟩

theorem read_eq_package_iff : read word = .package name ↔ word = Field.packageName.word name := by
  have hname : read word = .package name ↔ (read word).name? = some name := by
    cases read word <;> simp [name?]
  rw [hname, name?_read, after?_eq_iff]
  rfl

theorem read_eq_host_iff :
    read word = .host pattern ↔ word = Field.host.word pattern ∧ pattern ≠ "" := by
  have hhost : read word = .host pattern ↔ (read word).host? = some pattern := by
    cases read word <;> simp [host?]
  rw [hhost, host?_read, Option.filter_eq_some_iff, after?_eq_iff, decide_eq_true_iff]
  rfl

theorem read_eq_ipv4_iff :
    read word = .ipv4 pattern ↔ word = Field.ipv4.word pattern ∧ pattern ≠ "" := by
  have hipv4 : read word = .ipv4 pattern ↔ (read word).ipv4? = some pattern := by
    cases read word <;> simp [ipv4?]
  rw [hipv4, ipv4?_read, Option.filter_eq_some_iff, after?_eq_iff, decide_eq_true_iff]
  rfl

end Phrase

namespace RuleLine

/-- What a word of a line fixes, in this order: an application with an identity of its own fixes two
    fields, a pattern that is not empty one, and any other word none. -/
inductive Fixes (resolver : Resolver) : List Char → List (Field × Term) → Prop
  | package (name : String) (uid : Int) (known : resolver.resolve name = some uid)
      (own : uid ≠ 0) :
    Fixes resolver (Field.packageName.word name) [(.uid, .number uid), (.packageName, .text name)]
  | pattern (field : Field) (kind : field = .host ∨ field = .ipv4) (pattern : String)
      (nonempty : pattern ≠ "") :
    Fixes resolver (field.word pattern) [(field, .text pattern)]
  | nothing (word : List Char) (unnamed : ∀ name, word ≠ Field.packageName.word name)
      (bare : ∀ (field : Field) (pattern : String), field = .host ∨ field = .ipv4 → pattern ≠ "" →
        word ≠ field.word pattern) :
    Fixes resolver word []

variable {resolver : Resolver} {word : List Char} {fixed : List (Field × Term)}

theorem fixes_iff :
    Fixes resolver word fixed ↔ (Phrase.read word).fixed? resolver = some fixed := by
  constructor
  · rintro (⟨name, uid, hknown, hown⟩ | ⟨field, rfl | rfl, pattern, hnonempty⟩ |
      ⟨_, hunnamed, hbare⟩)
    · rw [Phrase.read_eq_package_iff.mpr rfl, Phrase.fixed?,
        (resolver.identity?_eq_some_iff name uid).mpr ⟨hknown, hown⟩]
      rfl
    · rw [Phrase.read_eq_host_iff.mpr ⟨rfl, hnonempty⟩]
      rfl
    · rw [Phrase.read_eq_ipv4_iff.mpr ⟨rfl, hnonempty⟩]
      rfl
    · cases hread : Phrase.read word with
      | package name => exact absurd (Phrase.read_eq_package_iff.mp hread) (hunnamed name)
      | host pattern =>
        obtain ⟨hword, hnonempty⟩ := Phrase.read_eq_host_iff.mp hread
        exact absurd hword (hbare .host pattern (.inl rfl) hnonempty)
      | ipv4 pattern =>
        obtain ⟨hword, hnonempty⟩ := Phrase.read_eq_ipv4_iff.mp hread
        exact absurd hword (hbare .ipv4 pattern (.inr rfl) hnonempty)
      | other => rfl
  · intro hfixed
    cases hread : Phrase.read word with
    | package name =>
      rw [hread, Phrase.fixed?, Option.map_eq_some_iff] at hfixed
      obtain ⟨uid, hidentity, rfl⟩ := hfixed
      obtain ⟨hknown, hown⟩ := (resolver.identity?_eq_some_iff name uid).mp hidentity
      rw [Phrase.read_eq_package_iff.mp hread]
      exact .package name uid hknown hown
    | host pattern =>
      rw [hread] at hfixed
      cases hfixed
      obtain ⟨rfl, hnonempty⟩ := Phrase.read_eq_host_iff.mp hread
      exact .pattern .host (.inl rfl) pattern hnonempty
    | ipv4 pattern =>
      rw [hread] at hfixed
      cases hfixed
      obtain ⟨rfl, hnonempty⟩ := Phrase.read_eq_ipv4_iff.mp hread
      exact .pattern .ipv4 (.inr rfl) pattern hnonempty
    | other =>
      rw [hread] at hfixed
      cases hfixed
      refine .nothing word (fun name hword => ?_) fun field pattern hkind hnonempty hword => ?_
      · cases hread.symm.trans (Phrase.read_eq_package_iff.mpr hword)
      · rcases hkind with rfl | rfl
        · cases hread.symm.trans (Phrase.read_eq_host_iff.mpr ⟨hword, hnonempty⟩)
        · cases hread.symm.trans (Phrase.read_eq_ipv4_iff.mpr ⟨hword, hnonempty⟩)

variable {set after : Constraints}

/-- A phrase is entered if that leaves the fields distinct, and then adds what it fixes behind the
    other entries. -/
theorem enter_eq_ok_iff (hdistinct : set.fields.Nodup) (phrase : Phrase) :
    (enter resolver set phrase).value = .ok after ↔
      ∃ fixed, phrase.fixed? resolver = some fixed ∧
        after = { set with entries := set.entries ++ fixed } ∧ after.fields.Nodup := by
  cases phrase with
  | host pattern =>
    simp only [Phrase.fixed?, Option.some.injEq, exists_eq_left']
    exact Constraints.put_eq_ok_iff_nodup hdistinct ..
  | ipv4 pattern =>
    simp only [Phrase.fixed?, Option.some.injEq, exists_eq_left']
    exact Constraints.put_eq_ok_iff_nodup hdistinct ..
  | other =>
    simp only [Phrase.fixed?, Option.some.injEq, exists_eq_left', List.append_nil]
    constructor
    · rintro ⟨⟩
      exact ⟨rfl, hdistinct⟩
    · rintro ⟨rfl, _⟩
      rfl
  | package name =>
    rw [enter_package, Phrase.fixed?]
    cases hidentity : resolver.identity? name with
    | none => simp
    | some uid =>
      simp only [Option.map_some, Option.some.injEq, exists_eq_left']
      by_cases huid : .uid ∈ set.fields
      · rw [Constraints.put_eq_error_iff.mpr ⟨huid, rfl⟩]
        refine iff_of_false (by rintro ⟨⟩) ?_
        rintro ⟨rfl, hafter⟩
        rw [Constraints.fields_append] at hafter
        exact (List.nodup_append.mp hafter).2.2 _ huid _ List.mem_cons_self rfl
      · have hmid : set.put .uid (.number uid) = .ok _ := Constraints.put_of_not_mem huid
        have hput := Constraints.put_eq_ok_iff_nodup (Constraints.nodup_put hdistinct hmid)
          .packageName (.text name) after
        rw [List.append_assoc] at hput
        rw [hmid]
        exact hput

/-- Phrases are entered if each of them fixes something definite and all that leaves the fields
    distinct. -/
theorem enterAll_eq_ok_iff (hdistinct : set.fields.Nodup) (phrases : List Phrase) :
    (enterAll resolver set phrases).value = .ok after ↔
      ∃ fixed, List.Forall₂ (fun phrase entries => phrase.fixed? resolver = some entries) phrases
          fixed ∧
        after = { set with entries := set.entries ++ fixed.flatten } ∧ after.fields.Nodup := by
  induction phrases generalizing set with
  | nil =>
    simp only [List.forall₂_nil_left_iff, exists_eq_left, List.flatten_nil, List.append_nil]
    constructor
    · rintro ⟨⟩
      exact ⟨rfl, hdistinct⟩
    · rintro ⟨rfl, _⟩
      rfl
  | cons phrase rest ih =>
    constructor
    · intro henter
      cases hphrase : (enter resolver set phrase).value with
      | error failure =>
        rw [enterAll_cons_error hphrase] at henter
        cases henter
      | ok mid =>
        rw [enterAll_cons_ok hphrase] at henter
        obtain ⟨first, hfirst, rfl, hmid⟩ := (enter_eq_ok_iff hdistinct phrase).mp hphrase
        obtain ⟨others, hothers, rfl, hafter⟩ := (ih hmid).mp henter
        exact ⟨first :: others, .cons hfirst hothers, by simp, hafter⟩
    · rintro ⟨_, hfixed, rfl, hafter⟩
      obtain ⟨first, others, hfirst, hothers, rfl⟩ := List.forall₂_cons_left_iff.mp hfixed
      have hmid : ({ set with entries := set.entries ++ first } : Constraints).fields.Nodup := by
        rw [Constraints.fields_append, List.flatten_cons, List.map_append, ← List.append_assoc,
          ← Constraints.fields_append] at hafter
        exact hafter.of_append_left
      rw [enterAll_cons_ok ((enter_eq_ok_iff hdistinct phrase).mpr ⟨first, hfirst, rfl, hmid⟩)]
      exact (ih hmid).mpr ⟨others, hothers, by simp, hafter⟩

/-- The fields of an application are both fixed, or neither is. -/
def Paired (set : Constraints) : Prop := .uid ∈ set.fields ↔ .packageName ∈ set.fields

theorem paired_empty (line : String) : Paired { line } := by simp [Paired, Constraints.fields]

theorem Paired.enter (hpaired : Paired set) (hdistinct : set.fields.Nodup) {phrase : Phrase}
    (henter : (enter resolver set phrase).value = .ok after) : Paired after := by
  obtain ⟨fixed, hfixed, rfl, _⟩ := (enter_eq_ok_iff hdistinct phrase).mp henter
  unfold Paired at *
  rw [Constraints.fields_append, List.mem_append, List.mem_append, hpaired]
  refine or_congr Iff.rfl ?_
  cases phrase with
  | package name =>
    obtain ⟨uid, _, rfl⟩ := Option.map_eq_some_iff.mp hfixed
    simp
  | host pattern => cases hfixed; simp
  | ipv4 pattern => cases hfixed; simp
  | other => cases hfixed; simp

/-- Why a phrase cannot be entered. The name of an application is put behind its identity, so that
    it is never the name that is found to be repeated. -/
inductive Refuses (resolver : Resolver) (line : String) : Failure → Prop
  | unknown (name : String) (nobody : resolver.identity? name = none) :
    Refuses resolver line (.fault (packageNotFound line name))
  | repeated (field : Field) (kind : field ∈ [Field.uid, .host, .ipv4]) :
    Refuses resolver line (.fault (Constraints.duplicate line field))

variable {failure : Failure}

theorem Paired.refuses_enter (hpaired : Paired set) {phrase : Phrase}
    (henter : (RuleLine.enter resolver set phrase).value = .error failure) :
    Refuses resolver set.line failure := by
  cases phrase with
  | host pattern =>
    obtain ⟨_, rfl⟩ := Constraints.put_eq_error_iff.mp henter
    exact .repeated .host (by decide)
  | ipv4 pattern =>
    obtain ⟨_, rfl⟩ := Constraints.put_eq_error_iff.mp henter
    exact .repeated .ipv4 (by decide)
  | other => cases henter
  | package name =>
    rw [enter_package] at henter
    cases hidentity : resolver.identity? name with
    | none =>
      rw [hidentity] at henter
      cases henter
      exact .unknown name hidentity
    | some uid =>
      simp only [hidentity] at henter
      by_cases huid : .uid ∈ set.fields
      · rw [Constraints.put_eq_error_iff.mpr ⟨huid, rfl⟩] at henter
        cases henter
        exact .repeated .uid (by decide)
      · rw [Constraints.put_of_not_mem huid] at henter
        obtain ⟨hname, _⟩ := Constraints.put_eq_error_iff.mp henter
        rw [Constraints.fields_append, List.mem_append] at hname
        rcases hname with hold | hnew
        · exact absurd (hpaired.mpr hold) huid
        · simp at hnew

/-- What the phrases of a line come to, entered one after another. -/
theorem Paired.enterAll (hpaired : Paired set) (hdistinct : set.fields.Nodup)
    (phrases : List Phrase) :
    (∀ after, (RuleLine.enterAll resolver set phrases).value = .ok after → Paired after) ∧
      ∀ failure, (RuleLine.enterAll resolver set phrases).value = .error failure →
        Refuses resolver set.line failure := by
  induction phrases generalizing set with
  | nil =>
    refine ⟨?_, ?_⟩
    · rintro _ ⟨⟩
      exact hpaired
    · rintro _ ⟨⟩
  | cons phrase rest ih =>
    cases hphrase : (RuleLine.enter resolver set phrase).value with
    | error other =>
      rw [enterAll_cons_error hphrase]
      refine ⟨?_, ?_⟩
      · rintro _ ⟨⟩
      · rintro _ ⟨⟩
        exact hpaired.refuses_enter hphrase
    | ok mid =>
      rw [enterAll_cons_ok hphrase]
      obtain ⟨_, _, rfl, hmid⟩ := (enter_eq_ok_iff hdistinct phrase).mp hphrase
      exact ih (hpaired.enter hdistinct hphrase) hmid

theorem value_constraints (resolver : Resolver) (text : String) :
    (constraints resolver text).value =
      match words? (trimEnd text.toList) with
      | none => .ok none
      | some words =>
        (enterAll resolver { line := .ofList (trimEnd text.toList) }
          (words.map Phrase.read)).value.map some := by
  simp only [constraints]
  cases words? (trimEnd text.toList) <;> rfl

theorem exists_fixes_of_mem {words : List (List Char)} {fixed : List (List (Field × Term))}
    (hfixed : List.Forall₂ (Fixes resolver) words fixed) {entry : Field × Term}
    (hentry : entry ∈ fixed.flatten) :
    ∃ word ∈ words, ∃ entries ∈ fixed, Fixes resolver word entries ∧ entry ∈ entries := by
  induction hfixed with
  | nil => cases hentry
  | @cons word entries words rest hword _ ih =>
    rw [List.flatten_cons, List.mem_append] at hentry
    rcases hentry with hhead | hrest
    · exact ⟨word, List.mem_cons_self, entries, List.mem_cons_self, hword, hhead⟩
    · obtain ⟨other, hother, others, hothers, hfixes, hmem⟩ := ih hrest
      exact ⟨other, List.mem_cons_of_mem word hother, others,
        List.mem_cons_of_mem entries hothers, hfixes, hmem⟩

/-- A text that a word fixes is what follows the kind and the colon in that word. -/
theorem Fixes.word_eq (hfixes : Fixes resolver word fixed) {field : Field} {text : String}
    (htext : (field, .text text) ∈ fixed) : word = field.word text := by
  cases hfixes with
  | package name uid known own =>
    simp only [List.mem_cons, Prod.mk.injEq, reduceCtorEq, and_false, false_or, Term.text.injEq,
      List.not_mem_nil, or_false] at htext
    obtain ⟨rfl, rfl⟩ := htext
    rfl
  | pattern other kind pattern nonempty =>
    rw [List.mem_singleton] at htext
    cases htext
    rfl
  | nothing => cases htext

theorem Fixes.identity {term : Term} (hfixes : Fixes resolver word fixed)
    (huid : (.uid, term) ∈ fixed) :
    ∃ name uid, term = .number uid ∧ (.packageName, .text name) ∈ fixed ∧
      resolver.resolve name = some uid ∧ uid ≠ 0 := by
  cases hfixes with
  | package name uid known own =>
    obtain rfl : term = .number uid := by simpa using huid
    exact ⟨name, uid, rfl, by simp, known, own⟩
  | pattern field kind pattern nonempty =>
    rcases kind with rfl | rfl <;> simp at huid
  | nothing => cases huid

theorem Fixes.patterned {field : Field} {term : Term} (hfixes : Fixes resolver word fixed)
    (hkind : field = .host ∨ field = .ipv4) (hentry : (field, term) ∈ fixed) :
    ∃ pattern, term = .text pattern ∧ pattern ≠ "" := by
  cases hfixes with
  | package name uid known own => rcases hkind with rfl | rfl <;> simp at hentry
  | pattern other kind pattern nonempty =>
    rw [List.mem_singleton] at hentry
    cases hentry
    exact ⟨pattern, rfl, nonempty⟩
  | nothing => cases hentry

/-- A set of fields that an allow line fixes. -/
structure WellFormed (resolver : Resolver) (line : List Char) (set : Constraints) : Prop where
  line_eq : set.line = .ofList line
  /-- The words of the line fix the entries one after another. -/
  ordered : ∃ words fixed, Allows line words ∧ List.Forall₂ (Fixes resolver) words fixed ∧
    set.entries = fixed.flatten
  distinct : set.fields.Nodup
  paired : set.has .uid = set.has .packageName
  identity : ∀ term, set.get? .uid = some term → ∃ name uid, term = .number uid ∧
    set.get? .packageName = some (.text name) ∧ resolver.resolve name = some uid ∧ uid ≠ 0
  nonempty : ∀ field, field = .host ∨ field = .ipv4 → ∀ term, set.get? field = some term →
    ∃ pattern, term = .text pattern ∧ pattern ≠ ""
  /-- A text has no separator in it, and stands in the line behind its kind and a colon. -/
  spelt : ∀ field text, set.get? field = some (.text text) →
    ' ' ∉ text.toList ∧ '\n' ∉ text.toList ∧ field.word text <:+: line

theorem Allows.infix_of_mem {line : List Char} {words : List (List Char)}
    (hallows : Allows line words) (hword : word ∈ words) : word <:+: line := by
  rw [hallows.spelt]
  exact (Text.infix_intercalate [' '] hword).trans (List.suffix_append _ _).isInfix

theorem WellFormed.of_ordered {line : List Char} (hpaired : Paired set)
    (hdistinct : set.fields.Nodup) (hline : set.line = .ofList line) {words : List (List Char)}
    (hallows : Allows line words) {fixed : List (List (Field × Term))}
    (hfixed : List.Forall₂ (Fixes resolver) words fixed) (hentries : set.entries = fixed.flatten) :
    WellFormed resolver line set where
  line_eq := hline
  ordered := ⟨words, fixed, hallows, hfixed, hentries⟩
  distinct := hdistinct
  paired := by
    rw [Bool.eq_iff_iff, Constraints.has_iff, Constraints.has_iff]
    exact hpaired
  identity term huid := by
    rw [Constraints.get?_eq_some_iff hdistinct, hentries] at huid
    obtain ⟨word, _, entries, hmem, hfixes, hentry⟩ := exists_fixes_of_mem hfixed huid
    obtain ⟨name, uid, hterm, hname, hidentity⟩ := hfixes.identity hentry
    refine ⟨name, uid, hterm, ?_, hidentity⟩
    rw [Constraints.get?_eq_some_iff hdistinct, hentries]
    exact List.mem_flatten_of_mem hmem hname
  nonempty field hkind term hterm := by
    rw [Constraints.get?_eq_some_iff hdistinct, hentries] at hterm
    obtain ⟨word, _, entries, _, hfixes, hentry⟩ := exists_fixes_of_mem hfixed hterm
    exact hfixes.patterned hkind hentry
  spelt field text htext := by
    rw [Constraints.get?_eq_some_iff hdistinct, hentries] at htext
    obtain ⟨word, hword, entries, _, hfixes, hentry⟩ := exists_fixes_of_mem hfixed htext
    have hmem (c : Char) (hc : c ∈ text.toList) : c ∈ word := by
      rw [hfixes.word_eq hentry]
      exact List.mem_append_right _ (List.mem_cons_of_mem ':' hc)
    refine ⟨fun hspace => hallows.solid word hword (hmem ' ' hspace),
      fun hfeed => hallows.no_feed word hword (hmem '\n' hfeed), ?_⟩
    rw [← hfixes.word_eq hentry]
    exact hallows.infix_of_mem hword

theorem constraints_eq_some_iff {line : List Char} {text : String} (hline : IsLineOf line text) :
    (constraints resolver text).value = .ok (some set) ↔ WellFormed resolver line set := by
  obtain rfl := (isLineOf_iff line text).mp hline
  have hempty : ({ line := .ofList (trimEnd text.toList) } : Constraints).fields.Nodup :=
    List.nodup_nil
  rw [value_constraints]
  constructor
  · intro hvalue
    cases hwords : words? (trimEnd text.toList) with
    | none =>
      rw [hwords] at hvalue
      cases hvalue
    | some words =>
      simp only [hwords] at hvalue
      cases henter : (enterAll resolver { line := .ofList (trimEnd text.toList) }
          (words.map Phrase.read)).value with
      | error failure =>
        rw [henter] at hvalue
        cases hvalue
      | ok after =>
        rw [henter] at hvalue
        cases hvalue
        have hpaired := ((paired_empty _).enterAll hempty _).1 _ henter
        obtain ⟨fixed, hfixed, rfl, hdistinct⟩ := (enterAll_eq_ok_iff hempty _).mp henter
        rw [List.forall₂_map_left_iff] at hfixed
        exact .of_ordered hpaired hdistinct rfl ((words?_eq_some_iff _ words).mp hwords)
          (hfixed.imp fun _ _ => fixes_iff.mpr) rfl
  · intro hformed
    obtain ⟨words, fixed, hallows, hfixed, hentries⟩ := hformed.ordered
    have hset :
        set = { line := .ofList (trimEnd text.toList), entries := [] ++ fixed.flatten } := by
      rw [List.nil_append, ← hformed.line_eq, ← hentries]
    have henter : (enterAll resolver { line := .ofList (trimEnd text.toList) }
        (words.map Phrase.read)).value = .ok set :=
      (enterAll_eq_ok_iff hempty _).mpr
        ⟨fixed, List.forall₂_map_left_iff.mpr (hfixed.imp fun _ _ => fixes_iff.mp), hset,
          hformed.distinct⟩
    simp only [(words?_eq_some_iff _ words).mpr hallows, henter]
    rfl

theorem refuses_of_constraints {line : List Char} {text : String} (hline : IsLineOf line text)
    (hvalue : (constraints resolver text).value = .error failure) :
    Refuses resolver (.ofList line) failure := by
  obtain rfl := (isLineOf_iff line text).mp hline
  rw [value_constraints] at hvalue
  cases hwords : words? (trimEnd text.toList) with
  | none =>
    rw [hwords] at hvalue
    cases hvalue
  | some words =>
    simp only [hwords] at hvalue
    cases henter : (enterAll resolver { line := .ofList (trimEnd text.toList) }
        (words.map Phrase.read)).value with
    | error other =>
      rw [henter] at hvalue
      cases hvalue
      exact ((paired_empty _).enterAll List.nodup_nil _).2 _ henter
    | ok after =>
      rw [henter] at hvalue
      cases hvalue

/-- The sets of fields that come out of texts are those that an allow line fixes with its words, one
    after another. A line has none for an unknown application, and for a field that it repeats; that
    is reported of the identity of an application and never of its name. However a set is written
    to, of several terms for a field the first one counts. -/
theorem constraints_wellFormed (resolver : Resolver) (text : String) :
    ∃ line, IsLineOf line text ∧
      (∀ set, (constraints resolver text).value = .ok (some set) ↔ WellFormed resolver line set) ∧
      (∀ failure, (constraints resolver text).value = .error failure →
        Refuses resolver (.ofList line) failure) ∧
      (∀ fault, (constraints resolver text).value = .error (.fault fault) →
        fault.kind = .duplicateField →
          ∃ field ∈ [Field.uid, .host, .ipv4],
            fault.details.lookup .fieldName = some field.name ∧ field.name ≠ "packagename") ∧
      ∀ line puts, Constraints.WrittenOnce puts (.afterPuts { line } puts) := by
  have hline := (isLineOf_iff _ text).mpr (rfl : trimEnd text.toList = _)
  refine ⟨_, hline, fun set => constraints_eq_some_iff hline,
    fun failure => refuses_of_constraints hline, fun fault hvalue hkind => ?_,
    Constraints.writtenOnce_afterPuts⟩
  cases refuses_of_constraints hline hvalue with
  | unknown name => cases hkind
  | repeated field hfield =>
    have hname : ∀ other ∈ [Field.uid, .host, .ipv4], other.name ≠ "packagename" := by decide
    exact ⟨field, hfield, rfl, hname field hfield⟩

/-- The fields of an application stand where its name stood in the line. -/
example :
    ((constraints (.ofTable [("mail", 7)]) "allow host:a.com  packagename:mail\r\n").value.map
      (·.map Constraints.entries)).toOption =
        some (some [(.host, .text "a.com"), (.uid, .number 7), (.packageName, .text "mail")]) := by
  decide +kernel

end RuleLine

end AllowPolicy
