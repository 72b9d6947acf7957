import AllowPolicy.Proofs.Fault.Lineage

namespace AllowPolicy

namespace Value

theorem hasEntry_iff {key value : Value} {entries : List (Value × Value)} :
    hasEntry key value entries = true ↔
      ∃ entry ∈ entries, key.same entry.1 = true ∧ value.same entry.2 = true := by
  induction entries with
  | nil => simp [hasEntry]
  | cons entry rest ih =>
    rw [hasEntry, Bool.or_eq_true, Bool.and_eq_true, ih]
    simp only [List.mem_cons, exists_eq_or_imp]

theorem sameEntries_iff {entries other : List (Value × Value)} :
    sameEntries entries other = true ↔
      ∀ entry ∈ entries, hasEntry entry.1 entry.2 other = true := by
  induction entries with
  | nil => simp [sameEntries]
  | cons entry rest ih =>
    rw [sameEntries, Bool.and_eq_true, ih]
    simp only [List.mem_cons, forall_eq_or_imp]

/-- A table is the same as itself if all that is in it is; what is not a number is not. -/
theorem same_table_self {entries : List (Value × Value)}
    (hself : ∀ entry ∈ entries, entry.1.same entry.1 = true ∧ entry.2.same entry.2 = true) :
    (table entries).same (table entries) = true := by
  have hentries : sameEntries entries entries = true :=
    sameEntries_iff.mpr fun entry hentry =>
      hasEntry_iff.mpr ⟨entry, hentry, hself entry hentry⟩
  simp [same, hentries]

theorem same_record_self {entries : List (String × Value)}
    (hself : ∀ entry ∈ entries, entry.2.same entry.2 = true) :
    (record entries).same (record entries) = true := by
  refine same_table_self fun entry hentry => ?_
  obtain ⟨given, hgiven, rfl⟩ := List.mem_map.mp hentry
  exact ⟨by simp [same], hself given hgiven⟩

end Value

namespace Fault

namespace Kind

/-- No two kinds have one code of their own. -/
theorem ownCode?_inj {kind other : Kind} {code : Int} (hkind : kind.ownCode? = some code)
    (hother : other.ownCode? = some code) : kind = other := by
  cases kind <;> cases hkind <;> cases other <;> first | rfl | cases hother

theorem nodup_lineage (kind : Kind) : kind.lineage.Nodup := by
  cases kind <;> decide

theorem nodup_details (kind : Kind) : kind.details.Nodup := by
  cases kind <;> decide

theorem nodup_names (kind : Kind) : (kind.details.map Detail.name).Nodup := by
  cases kind <;> decide

/-- Whether a kind has a reason of its own does not depend on the particulars. -/
theorem defaultReason_eq_empty {kind : Kind} {detail : Detail → String}
    (hempty : kind.defaultReason detail = "") (detail' : Detail → String) :
    kind.defaultReason detail' = "" := by
  cases kind <;> simp [defaultReason, String.append_eq_empty_iff] at hempty ⊢

/-- Nor does it depend on them whether it has a message of its own. -/
theorem defaultMessage_eq_empty {kind : Kind} {detail : Detail → String}
    (hempty : kind.defaultMessage detail = "") (detail' : Detail → String) :
    kind.defaultMessage detail' = "" := by
  cases kind
  case general | invariant | storage => rfl
  case rejected | packageNotFound | conflict | incomplete =>
    exact absurd (String.append_eq_empty_iff.mp hempty).2 (by decide)
  all_goals exact absurd (String.append_eq_empty_iff.mp hempty).1 (by decide)

/-- The code of a fault for which none was given is that of the first of its lineage that has one,
    and of no kind above that one. -/
theorem defaultCode_nearest {kind owner : Kind} {below above : List Kind} {code : Int}
    (hlineage : kind.lineage = below ++ owner :: above)
    (hbelow : ∀ other ∈ below, other.ownCode? = none) (howner : owner.ownCode? = some code) :
    kind.defaultCode = code ∧ ∀ other ∈ above, other.ownCode? ≠ some code := by
  constructor
  · rw [defaultCode, hlineage, List.findSome?_append, List.findSome?_eq_none_iff.mpr hbelow,
      Option.none_or, List.findSome?_cons_of_isSome (by rw [howner]; rfl), howner, Option.getD_some]
  · intro other hother hsame
    have hnodup := kind.nodup_lineage
    rw [hlineage] at hnodup
    have hnotAbove := (List.nodup_cons.mp (List.nodup_append.mp hnodup).2.1).1
    exact hnotAbove (ownCode?_inj hsame howner ▸ hother)

end Kind

/-- What a fault carries, as a reporter gives it. -/
def toDraft (fault : Fault) : Draft where
  message := fault.message
  code := fault.code
  suggestion := fault.suggestion
  context := fault.context
  details := fault.details

/-- The entries of a context that stand for the particulars of a fault. -/
def entries (fault : Fault) : List (String × Value) :=
  fault.details.map fun (detail, value) => (detail.name, .text value)

theorem keys_details_of (kind : Kind) (draft : Draft) :
    (of kind draft).details.map (·.1) = kind.details := by
  rw [of, List.map_map]
  exact List.map_id kind.details

/-- What is filled in once leaves no gap to be filled in again. -/
theorem refill {α : Type} [DecidableEq α] {given own own' empty : α}
    (hown : own = empty → own' = empty) :
    (if (if given = empty then own else given) = empty then own'
      else if given = empty then own else given) = if given = empty then own else given := by
  by_cases hgiven : given = empty
  · by_cases hempty : own = empty
    · simp [hgiven, hempty, hown hempty]
    · simp [hgiven, hempty]
  · simp [hgiven]

section Context

variable (kind : Kind) (draft : Draft)

theorem context_of :
    (of kind draft).context = putEntries draft.context (of kind draft).entries := by
  simp only [of, putEntries, entries, List.map_map, List.foldl_map]
  rfl

theorem keys_entries_of :
    (of kind draft).entries.map (·.1) = kind.details.map Detail.name := by
  simp [entries, of]

theorem nodup_entries_of : ((of kind draft).entries.map (·.1)).Nodup :=
  keys_entries_of kind draft ▸ kind.nodup_names

/-- The entry of a particular in the final context is its final value. -/
theorem lookup_context_of {detail : Detail} {value : String}
    (hdetail : (detail, value) ∈ (of kind draft).details) :
    (of kind draft).context.lookup detail.name = some (.text value) := by
  have hentry : (detail.name, Value.text value) ∈ (of kind draft).entries :=
    List.mem_map.mpr ⟨_, hdetail, rfl⟩
  have hdistinct := nodup_entries_of kind draft
  rw [context_of, lookup_putEntries hdistinct, (lookup_eq_some_iff_mem hdistinct).mpr hentry,
    Option.some_or]

theorem lookup_context_of_of_not_mem {key : String}
    (hkey : key ∉ kind.details.map Detail.name) :
    (of kind draft).context.lookup key = draft.context.lookup key := by
  have hnone : (of kind draft).entries.lookup key = none := by
    refine List.lookup_eq_none_iff.mpr fun entry hentry => bne_iff_ne.mpr fun heq => hkey ?_
    rw [← keys_entries_of kind draft, heq]
    exact List.mem_map.mpr ⟨entry, hentry, rfl⟩
  rw [context_of, lookup_putEntries (nodup_entries_of kind draft), hnone, Option.none_or]

example :
    (of .packageNotFound
      { context := [("reason", .text "stale"), ("row", .int 7)],
        details := [(.packageName, "shop")] }).context =
      [("reason", .text "package shop not found"), ("row", .int 7), ("rule_text", .text ""),
        ("package_name", .text "shop")] := by
  rfl

end Context

section Rebuilt

variable (kind : Kind) (draft : Draft)

theorem detail_toDraft_of {detail : Detail} (hdetail : detail ∈ kind.details) :
    (of kind draft).toDraft.detail detail = draft.finalDetail kind detail := by
  have hkeys : ((of kind draft).details.map (·.1)).Nodup := by
    exact (keys_details_of kind draft).symm ▸ kind.nodup_details
  have hentry : (detail, draft.finalDetail kind detail) ∈ (of kind draft).details :=
    List.mem_map.mpr ⟨detail, hdetail, rfl⟩
  rw [Draft.detail, toDraft, (lookup_eq_some_iff_mem hkeys).mpr hentry, Option.getD_some]

theorem finalDetail_toDraft_of {detail : Detail} (hdetail : detail ∈ kind.details) :
    (of kind draft).toDraft.finalDetail kind detail = draft.finalDetail kind detail := by
  rw [Draft.finalDetail]
  by_cases hreason : detail = .reason
  · subst hreason
    rw [detail_toDraft_of kind draft hdetail]
    simpa [Draft.finalDetail] using
      refill fun hempty => Kind.defaultReason_eq_empty hempty (of kind draft).toDraft.detail
  · rw [if_neg fun hboth => hreason hboth.1, detail_toDraft_of kind draft hdetail]

/-- A fault that is made again from what it carries is the same fault. -/
theorem of_toDraft : of kind (of kind draft).toDraft = of kind draft := by
  have hdetails : (of kind (of kind draft).toDraft).details = (of kind draft).details :=
    List.map_congr_left fun detail hdetail =>
      congrArg (detail, ·) (finalDetail_toDraft_of kind draft hdetail)
  have hentries : (of kind (of kind draft).toDraft).entries = (of kind draft).entries := by
    rw [entries, hdetails, entries]
  have hcontext : (of kind (of kind draft).toDraft).context = (of kind draft).context := by
    rw [context_of, hentries, toDraft, context_of]
    exact putEntries_eq_self (carries_putEntries (nodup_entries_of kind draft))
  have hmessage : (of kind (of kind draft).toDraft).message = (of kind draft).message :=
    refill fun hempty => Kind.defaultMessage_eq_empty hempty _
  have hcode : (of kind (of kind draft).toDraft).code = (of kind draft).code :=
    refill id
  have hsuggestion : (of kind (of kind draft).toDraft).suggestion = (of kind draft).suggestion := by
    simp only [of, toDraft]
    cases draft.suggestion with
    | none => cases kind.defaultSuggestion? <;> simp
    | some given =>
      cases kind.defaultSuggestion? with
      | none => rfl
      | some own => exact congrArg some (refill id)
  exact Fault.mk.injEq .. ▸ ⟨rfl, hmessage, hcode, hsuggestion, hcontext, hdetails⟩

/-- The same, too, by the program's own notion of sameness, unless a given value is not the same as
    itself. -/
theorem same_of_toDraft
    (hself : ∀ entry ∈ draft.context, entry.2.same entry.2 = true) :
    (of kind (of kind draft).toDraft).same (of kind draft) = true := by
  have hcontext : (of kind draft).contextValue.same (of kind draft).contextValue = true := by
    refine Value.same_record_self fun entry hentry => ?_
    by_cases hown : entry.1 ∈ (of kind draft).entries.map (·.1)
    · obtain ⟨own, hmem, hkey⟩ := List.mem_map.mp hown
      rw [context_of] at hentry
      rw [(carries_putEntries (nodup_entries_of kind draft) own hmem).2 entry hentry hkey.symm]
      obtain ⟨detail, _, rfl⟩ := List.mem_map.mp hmem
      simp [Value.same]
    · rw [context_of, mem_putEntries_of_not_mem hown] at hentry
      exact hself entry hentry
  rw [of_toDraft]
  simp [same, hcontext]

end Rebuilt

/-- A fault that its kind has settled: what is given is kept, each gap has been filled in by the
    nearest kind that can, the final particulars stand in the context, and nothing is left to do. -/
structure Settled (kind : Kind) (draft : Draft) (fault : Fault) : Prop where
  kind_eq : fault.kind = kind
  message_kept : draft.message ≠ "" → fault.message = draft.message
  code_kept : draft.code ≠ 0 → fault.code = draft.code
  suggestion_kept : ∀ advice, draft.suggestion = some advice → advice ≠ "" →
    fault.suggestion = some advice
  details_eq : fault.details.map (·.1) = kind.details
  detail_kept : ∀ detail value, (detail, value) ∈ fault.details →
    detail ≠ .reason ∨ draft.detail detail ≠ "" → value = draft.detail detail
  code_nearest : draft.code = 0 → ∀ below owner above code,
    kind.lineage = below ++ owner :: above → (∀ other ∈ below, other.ownCode? = none) →
    owner.ownCode? = some code →
    fault.code = code ∧ ∀ other ∈ above, other.ownCode? ≠ some fault.code
  code_none : draft.code = 0 → (∀ other ∈ kind.lineage, other.ownCode? = none) → fault.code = 0
  /-- The keys that are new come behind those that were given. -/
  context_keys : fault.context.map (·.1) = draft.context.map (·.1) ++
    (kind.details.map Detail.name).filter (· ∉ draft.context.map (·.1))
  context_own : ∀ detail value, (detail, value) ∈ fault.details →
    fault.context.lookup detail.name = some (.text value)
  context_kept : ∀ key, key ∉ kind.details.map Detail.name →
    fault.context.lookup key = draft.context.lookup key
  rebuilt : of kind fault.toDraft = fault ∧ (of kind fault.toDraft).toValue = fault.toValue
  same : (∀ entry ∈ draft.context, entry.2.same entry.2 = true) →
    (of kind fault.toDraft).same fault = true

/-- Every kind makes, turn by turn along its lineage, a settled fault of whatever is reported. -/
theorem of_settled (kind : Kind) (draft : Draft) :
    of kind draft = draft.fault kind ∧ Settled kind draft (of kind draft) := by
  refine ⟨of_eq_fault kind draft, ?_⟩
  have hcode (hgiven : draft.code = 0) : (of kind draft).code = kind.defaultCode :=
    if_pos hgiven
  constructor
  case kind_eq => rfl
  case message_kept => exact fun hgiven => if_neg hgiven
  case code_kept => exact fun hgiven => if_neg hgiven
  case suggestion_kept =>
    intro advice hgiven hne
    simp only [of, hgiven]
    cases kind.defaultSuggestion? <;> simp [hne]
  case details_eq => exact keys_details_of kind draft
  case detail_kept =>
    intro detail value hvalue hkept
    obtain ⟨_, _, heq⟩ := List.mem_map.mp hvalue
    cases heq
    refine if_neg fun hboth => ?_
    obtain ⟨hreason, hempty⟩ := hboth
    exact hkept.elim (· hreason) (· (hreason ▸ hempty))
  case code_nearest =>
    intro hgiven below owner above code hlineage hbelow howner
    obtain ⟨hdefault, habove⟩ := Kind.defaultCode_nearest hlineage hbelow howner
    have hsame := (hcode hgiven).trans hdefault
    exact ⟨hsame, fun other hother => hsame ▸ habove other hother⟩
  case code_none =>
    intro hgiven hnone
    rw [hcode hgiven, Kind.defaultCode, List.findSome?_eq_none_iff.mpr hnone, Option.getD_none]
  case context_keys =>
    rw [context_of, keys_putEntries (nodup_entries_of kind draft), keys_entries_of]
  case context_own => exact fun _ _ => lookup_context_of kind draft
  case context_kept => exact fun _ => lookup_context_of_of_not_mem kind draft
  case rebuilt => exact ⟨of_toDraft kind draft, congrArg toValue (of_toDraft kind draft)⟩
  case same => exact same_of_toDraft kind draft

end Fault

end AllowPolicy
