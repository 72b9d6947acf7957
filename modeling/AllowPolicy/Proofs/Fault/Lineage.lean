import AllowPolicy.Fault
import AllowPolicy.Proofs.Entries

namespace AllowPolicy

namespace Fault

namespace Kind

/-- The reason that a kind on its own gives for a discarded line. -/
def ownReason? (kind : Kind) (detail : Detail → String) : Option String :=
  match kind with
  | .packageNotFound => some ("package " ++ detail .packageName ++ " not found")
  | .conflict => some "host and ipv4 are mutually exclusive"
  | .incomplete => some "no host or ipv4 constraint"
  | _ => none

/-- The message that a kind on its own gives, from the particulars so far. -/
def ownMessage? (kind : Kind) (detail : Detail → String) : Option String :=
  match kind with
  | .rejected =>
    some ("Rule rejected: " ++ detail .reason ++ " (" ++ Text.quoted (detail .ruleText) ++ ")")
  | .duplicateField => some ("Already contains key " ++ detail .fieldName)
  | .configuration =>
    some ("Invalid configuration: " ++
      (if (detail .path).isEmpty then "<string>" else detail .path))
  | .connection => some ("Failed to connect to database: " ++ detail .dbPath)
  | .write => some ("Database write failed: " ++ detail .underlyingError)
  | .read => some ("Database read failed: " ++ detail .underlyingError)
  | _ => none

end Kind

namespace Draft

/-- The draft with a reason of the kind's own, if it has none and the kind gives one. -/
def fillReason (kind : Kind) (draft : Draft) : Draft :=
  { draft with
    details :=
      if draft.detail .reason = "" then
        (kind.ownReason? draft.detail).toList.map (.reason, ·) ++ draft.details
      else draft.details }

/-- What a kind fills in, where the draft is empty, before the kind above it has its turn. -/
def fill (kind : Kind) (draft : Draft) : Draft :=
  let draft := draft.fillReason kind
  { draft with
    message := if draft.message = "" then (kind.ownMessage? draft.detail).getD "" else draft.message
    code := if draft.code = 0 then kind.ownCode?.getD 0 else draft.code
    suggestion :=
      if draft.suggestion.getD "" = "" then kind.defaultSuggestion?.or draft.suggestion
      else draft.suggestion }

/-- What a kind enters into the context, after the kind above it has had its turn. -/
def enter (kind : Kind) (draft : Draft) : Draft :=
  { draft with
    context := kind.ownDetails.foldl
      (fun context detail => putContext context detail.name (.text (draft.detail detail)))
      draft.context }

/-- The turns of kinds of which each is a special case of the next. -/
def settle : List Kind → Draft → Draft
  | [], draft => draft
  | kind :: above, draft => (settle above (draft.fill kind)).enter kind

/-- What kinds fill in, the most special one first. -/
def filled (kinds : List Kind) (draft : Draft) : Draft :=
  kinds.foldl (fun draft kind => draft.fill kind) draft

/-- The fault that is left when the kinds of a lineage have had their turns. -/
def fault (kind : Kind) (draft : Draft) : Fault :=
  let settled := draft.settle kind.lineage
  { kind
    message := settled.message
    code := settled.code
    suggestion := settled.suggestion
    context := settled.context
    details := kind.details.map fun detail => (detail, settled.detail detail) }

theorem detail_cons (draft : Draft) (detail other : Detail) (value : String) :
    ({ draft with details := (detail, value) :: draft.details } : Draft).detail other =
      if other = detail then value else draft.detail other := by
  unfold Draft.detail
  rw [lookup_cons_eq_ite]
  by_cases hother : other = detail <;> simp [hother]

/-- The particulars are entered in their final form, those of the most general kind first, because
    the last kind to fill in is the first to enter. -/
theorem settle_eq (kinds : List Kind) (draft : Draft) :
    draft.settle kinds =
      { draft.filled kinds with
        context := (kinds.reverse.flatMap Kind.ownDetails).foldl
          (fun context detail =>
            putContext context detail.name (.text ((draft.filled kinds).detail detail)))
          draft.context } := by
  induction kinds generalizing draft with
  | nil => rfl
  | cons kind above ih =>
    rw [settle, ih, List.reverse_cons, List.flatMap_append, List.foldl_append,
      List.flatMap_singleton]
    rfl

end Draft

theorem Kind.ownCode?_ne_zero (kind : Kind) : kind.ownCode? ≠ some 0 := by
  cases kind <;> decide

theorem Kind.defaultSuggestion?_ne_empty (kind : Kind) : kind.defaultSuggestion? ≠ some "" := by
  cases kind <;> decide

/-- No reason of a kind's own is empty, and none depends on the reason that is given. -/
theorem Kind.ownReason?_ne_empty (kind : Kind) (detail : Detail → String) :
    kind.ownReason? detail ≠ some "" := by
  cases kind <;> simp [ownReason?, String.append_eq_empty_iff]

theorem Kind.ownReason?_congr (kind : Kind) {detail detail' : Detail → String}
    (hname : detail .packageName = detail' .packageName) :
    kind.ownReason? detail = kind.ownReason? detail' := by
  cases kind <;> simp [ownReason?, hname]

namespace Draft

theorem detail_fill (kind : Kind) (draft : Draft) (detail : Detail) :
    (draft.fill kind).detail detail =
      if detail = .reason ∧ draft.detail .reason = "" then (kind.ownReason? draft.detail).getD ""
      else draft.detail detail := by
  change (draft.fillReason kind).detail detail = _
  by_cases hreason : draft.detail .reason = ""
  · simp only [fillReason, hreason, if_true, and_true]
    cases kind.ownReason? draft.detail with
    | none =>
      by_cases hdetail : detail = .reason
      · simpa [hdetail] using hreason
      · simp [hdetail, Draft.detail]
    | some reason =>
      exact detail_cons draft .reason detail reason
  · have hsame : draft.fillReason kind = draft := by simp [fillReason, hreason]
    rw [hsame, if_neg fun hboth => hreason hboth.2]

theorem message_fill (kind : Kind) (draft : Draft) :
    (draft.fill kind).message =
      if draft.message = "" then (kind.ownMessage? (draft.fill kind).detail).getD ""
      else draft.message := rfl

theorem code_fill (kind : Kind) (draft : Draft) :
    (draft.fill kind).code = if draft.code = 0 then kind.ownCode?.getD 0 else draft.code := rfl

theorem suggestion_fill (kind : Kind) (draft : Draft) :
    (draft.fill kind).suggestion =
      if draft.suggestion.getD "" = "" then kind.defaultSuggestion?.or draft.suggestion
      else draft.suggestion := rfl

theorem filled_cons (kind : Kind) (above : List Kind) (draft : Draft) :
    draft.filled (kind :: above) = (draft.fill kind).filled above := rfl

/-- The most general kind has nothing to fill in. -/
theorem fill_general (draft : Draft) : draft.fill .general = draft := by
  obtain ⟨message, code, suggestion, context, details⟩ := draft
  have hmessage : (if message = "" then "" else message) = message :=
    ite_eq_right_iff.mpr Eq.symm
  have hcode : (if code = 0 then 0 else code) = code := ite_eq_right_iff.mpr Eq.symm
  simp [fill, fillReason, Kind.ownReason?, Kind.ownMessage?, Kind.ownCode?,
    Kind.defaultSuggestion?, hmessage, hcode]

/-- A code that is not given is that of the first kind that has one. -/
theorem code_filled (kinds : List Kind) (draft : Draft) :
    (draft.filled kinds).code =
      if draft.code = 0 then (kinds.findSome? Kind.ownCode?).getD 0 else draft.code := by
  induction kinds generalizing draft with
  | nil => simp [filled]
  | cons kind above ih =>
    rw [filled_cons, ih, code_fill, List.findSome?_cons]
    by_cases hcode : draft.code = 0
    · rw [if_pos hcode]
      cases hown : kind.ownCode? with
      | none => simp [hcode]
      | some code =>
        have hne : code ≠ 0 := fun hzero => kind.ownCode?_ne_zero (hzero ▸ hown)
        simp [hcode, hne]
    · simp [hcode]

/-- So is a suggestion. -/
theorem suggestion_filled (kinds : List Kind) (draft : Draft) :
    (draft.filled kinds).suggestion =
      if draft.suggestion.getD "" = "" then
        (kinds.findSome? Kind.defaultSuggestion?).or draft.suggestion
      else draft.suggestion := by
  induction kinds generalizing draft with
  | nil => simp [filled]
  | cons kind above ih =>
    rw [filled_cons, ih, suggestion_fill, List.findSome?_cons]
    by_cases hsuggestion : draft.suggestion.getD "" = ""
    · rw [if_pos hsuggestion]
      cases hown : kind.defaultSuggestion? with
      | none => simp [hsuggestion]
      | some advice =>
        have hne : advice ≠ "" := fun hempty => kind.defaultSuggestion?_ne_empty (hempty ▸ hown)
        simp [hsuggestion, hne]
    · simp [hsuggestion]

/-- So is the reason of a discarded line. -/
theorem detail_filled (kinds : List Kind) (draft : Draft) (detail : Detail) :
    (draft.filled kinds).detail detail =
      if detail = .reason ∧ draft.detail .reason = "" then
        (kinds.findSome? (·.ownReason? draft.detail)).getD ""
      else draft.detail detail := by
  induction kinds generalizing draft with
  | nil =>
    by_cases hdetail : detail = .reason
    · subst hdetail
      by_cases hreason : draft.detail .reason = "" <;> simp [filled, hreason]
    · simp [filled, hdetail]
  | cons kind above ih =>
    have hsame (other : Kind) :
        other.ownReason? (draft.fill kind).detail = other.ownReason? draft.detail :=
      other.ownReason?_congr (by simp [detail_fill])
    rw [filled_cons, ih, List.findSome?_cons]
    simp only [hsame, detail_fill]
    by_cases hreason : draft.detail .reason = ""
    · cases hown : kind.ownReason? draft.detail with
      | none => by_cases hdetail : detail = .reason <;> simp [hreason, hdetail]
      | some reason =>
        have hne : reason ≠ "" := fun hempty => kind.ownReason?_ne_empty _ (hempty ▸ hown)
        by_cases hdetail : detail = .reason <;> simp [hreason, hdetail, hne]
    · simp [hreason]

theorem detail_filled_lineage (kind : Kind) (draft : Draft) :
    (draft.filled kind.lineage).detail = draft.finalDetail kind := by
  funext detail
  have hreason : (kind.lineage.findSome? (·.ownReason? draft.detail)).getD "" =
      kind.defaultReason draft.detail := by cases kind <;> rfl
  rw [detail_filled, hreason, finalDetail]

/-- A lineage has one kind at most with a message, and above that kind no reason is filled in. So
    the message is made of the final particulars. -/
theorem message_filled_lineage (kind : Kind) (draft : Draft) :
    (draft.filled kind.lineage).message =
      if draft.message = "" then kind.defaultMessage (draft.finalDetail kind)
      else draft.message := by
  have hsilent (other : Kind) (hnone : ∀ detail, other.ownMessage? detail = none) (draft : Draft) :
      (draft.fill other).message = draft.message := by
    rw [message_fill, hnone]
    exact ite_eq_right_iff.mpr Eq.symm
  have hdetail (other : Kind) (hnone : ∀ detail, other.ownReason? detail = none) (draft : Draft) :
      (draft.fill other).detail = draft.detail := by
    funext detail
    rw [detail_fill, hnone]
    refine ite_eq_right_iff.mpr ?_
    rintro ⟨rfl, hreason⟩
    exact hreason.symm
  rw [← detail_filled_lineage]
  cases kind <;>
    simp only [filled, Kind.lineage, List.foldl_cons, List.foldl_nil, fill_general,
      hsilent .packageNotFound fun _ => rfl, hsilent .conflict fun _ => rfl,
      hsilent .incomplete fun _ => rfl, hsilent .invariant fun _ => rfl,
      hsilent .storage fun _ => rfl, hdetail .invariant fun _ => rfl, hdetail .storage fun _ => rfl,
      message_fill]
  case general | invariant | storage =>
    exact (ite_eq_right_iff.mpr Eq.symm).symm
  all_goals rfl

theorem suggestion_filled_lineage (kind : Kind) (draft : Draft) :
    (draft.filled kind.lineage).suggestion =
      match draft.suggestion, kind.defaultSuggestion? with
      | some given, some own => some (if given = "" then own else given)
      | none, own => own
      | given, none => given := by
  have hown : kind.lineage.findSome? Kind.defaultSuggestion? = kind.defaultSuggestion? := by
    cases kind <;> rfl
  rw [suggestion_filled, hown]
  cases draft.suggestion with
  | none => simp
  | some given =>
    by_cases hgiven : given = "" <;> cases kind.defaultSuggestion? <;> simp [hgiven]

end Draft

/-- A fault is made by the turns of its lineage. -/
theorem of_eq_fault (kind : Kind) (draft : Draft) : of kind draft = draft.fault kind := by
  have hdetail : (draft.settle kind.lineage).detail = draft.finalDetail kind := by
    rw [Draft.settle_eq]
    exact draft.detail_filled_lineage kind
  have hmessage := draft.message_filled_lineage kind
  have hcode := Draft.code_filled kind.lineage draft
  have hsuggestion := draft.suggestion_filled_lineage kind
  simp only [of, Draft.fault, hdetail]
  rw [Draft.settle_eq]
  simp only [hmessage, hcode, hsuggestion, draft.detail_filled_lineage kind]
  rfl

end Fault

end AllowPolicy
