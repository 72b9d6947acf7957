import AllowPolicy.Proofs.Allowlist.Bucket

namespace AllowPolicy.Allowlist

/-- What is asked of an allowlist. -/
inductive Op where
  | addGlobal (rule : Rule)
  | addApp (uid : Int) (rule : Rule)
  | clear
  deriving DecidableEq

def perform (allowlist : Allowlist) : Op → Outcome Allowlist
  | .addGlobal rule => .ok (allowlist.addGlobal rule)
  | .addApp uid rule => allowlist.addApp uid rule
  | .clear => .ok {}

/-- The allowlist after an operation, which leaves it as it was if it is refused. -/
def after (allowlist : Allowlist) (op : Op) : Allowlist :=
  match allowlist.perform op with
  | .ok next => next
  | .error _ => allowlist

/-- The allowlist after operations in this order, from an empty one. -/
def run (ops : List Op) : Allowlist := ops.foldl after {}

theorem run_concat (ops : List Op) (op : Op) : run (ops ++ [op]) = (run ops).after op := by
  rw [run, List.foldl_append]
  rfl

section Steps

variable (allowlist : Allowlist)

theorem after_addApp {uid : Int} (huid : uid ≠ 0) (rule : Rule) :
    allowlist.after (.addApp uid rule) =
      { allowlist with apps := extend uid rule allowlist.apps } := by
  rw [after, perform, addApp, if_neg huid]

theorem after_addApp_zero (rule : Rule) : allowlist.after (.addApp 0 rule) = allowlist := by
  rw [after, perform, addApp, if_pos rfl]

/-- A rule applies to an identity after an operation if it was just added, or applied before and was
    not cleared. -/
theorem mem_rulesFor_after (op : Op) (uid : Int) (rule : Rule) :
    rule ∈ (allowlist.after op).rulesFor uid ↔
      (op = .addGlobal rule ∨ (uid ≠ 0 ∧ op = .addApp uid rule)) ∨
        (op ≠ .clear ∧ rule ∈ allowlist.rulesFor uid) := by
  cases op with
  | addGlobal added =>
    have hafter : allowlist.after (.addGlobal added) = allowlist.addGlobal added := rfl
    simp [hafter, rulesFor, ownRules, addGlobal, eq_comm, or_comm, or_assoc]
  | addApp owner added =>
    by_cases howner : owner = 0
    · subst howner
      rw [after_addApp_zero]
      have hzero (huid : uid ≠ 0) : ¬ 0 = uid := fun heq => huid heq.symm
      simp +contextual [hzero]
    · rw [after_addApp allowlist howner]
      by_cases hsame : uid = owner
      · subst hsame
        simp [rulesFor, ownRules, lookup_extend, howner, eq_comm, or_comm, or_assoc]
      · simp [rulesFor, ownRules, lookup_extend, hsame, Ne.symm hsame]
  | clear =>
    have hafter : allowlist.after .clear = {} := rfl
    simp [hafter, rulesFor, ownRules]

theorem owner_of_mem_extend {uid : Int} {rule : Rule} {apps : List (Int × List Rule)}
    {bucket : Int × List Rule} (hbucket : bucket ∈ extend uid rule apps) :
    bucket.1 = uid ∨ ∃ old ∈ apps, bucket.1 = old.1 := by
  induction apps with
  | nil => exact .inl (congrArg Prod.fst (List.mem_singleton.mp hbucket))
  | cons first rest ih =>
    rw [extend] at hbucket
    split at hbucket
    · next howner =>
      obtain rfl | hrest := List.mem_cons.mp hbucket
      · exact .inl howner
      · exact .inr ⟨bucket, List.mem_cons_of_mem first hrest, rfl⟩
    · obtain rfl | hrest := List.mem_cons.mp hbucket
      · exact .inr ⟨first, List.mem_cons_self, rfl⟩
      · refine (ih hrest).imp_right ?_
        rintro ⟨old, hold, heq⟩
        exact ⟨old, List.mem_cons_of_mem first hold, heq⟩

end Steps

/-- The operation was asked for, and nothing was cleared since. -/
def Since (ops : List Op) (op : Op) : Prop :=
  ∃ early late, ops = early ++ op :: late ∧ .clear ∉ late

theorem not_since_nil (op : Op) : ¬ Since [] op := by
  rintro ⟨early, late, hops, _⟩
  cases early <;> cases hops

theorem since_iff {ops : List Op} {op : Op} : Since ops op ↔
    ∃ early found late, ops = early ++ found :: late ∧ found = op ∧
      ∀ later ∈ late, later ≠ .clear := by
  constructor
  · rintro ⟨early, late, hops, hkept⟩
    exact ⟨early, op, late, hops, rfl, fun later hlater hclear => hkept (hclear ▸ hlater)⟩
  · rintro ⟨early, _, late, hops, rfl, hkept⟩
    exact ⟨early, late, hops, fun hclear => hkept _ hclear rfl⟩

theorem since_concat_iff {ops : List Op} {last op : Op} :
    Since (ops ++ [last]) op ↔ last = op ∨ (last ≠ .clear ∧ Since ops op) := by
  rw [since_iff, exists_latest_concat_iff, ← since_iff]

/-- The rule was added for the identity since the last clear. Nothing is added for identity zero. -/
def AddedFor (ops : List Op) (uid : Int) (rule : Rule) : Prop :=
  uid ≠ 0 ∧ Since ops (.addApp uid rule)

/-- The rule was added since the last clear, for every application or for this identity. -/
def InForce (ops : List Op) (uid : Int) (rule : Rule) : Prop :=
  Since ops (.addGlobal rule) ∨ AddedFor ops uid rule

theorem mem_rulesFor_run (ops : List Op) (uid : Int) (rule : Rule) :
    rule ∈ (run ops).rulesFor uid ↔ InForce ops uid rule := by
  unfold InForce AddedFor
  induction ops using List.reverseRecOn with
  | nil =>
    have hnone : rule ∉ (run []).rulesFor uid := by simp [run, rulesFor, ownRules]
    simp [hnone, not_since_nil]
  | append_singleton early last ih =>
    rw [run_concat, mem_rulesFor_after, ih, since_concat_iff, since_concat_iff]
    tauto

/-- What a history of operations gives an identity, and what it does not give to any. -/
structure Isolated (ops : List Op) : Prop where
  /-- A host is allowed by a domain rule in force, an address by an address rule. -/
  allowed_iff : ∀ uid target, (run ops).isAllowed uid target = true ↔
    (∃ host rule, target.host = some host ∧ InForce ops uid rule ∧ rule.kind = .domain ∧
      Host.isMatch rule.pattern host = true) ∨
    (∃ ip rule, target.ip = some ip ∧ InForce ops uid rule ∧ rule.kind = .ipv4 ∧
      Ipv4.isMatch rule.pattern ip = true)
  /-- Rules for others, and the order and the number of its own, make no difference. -/
  congr : ∀ (others : List Op) (uid : Int),
    (∀ rule, Since ops (.addGlobal rule) ↔ Since others (.addGlobal rule)) →
      (∀ rule, AddedFor ops uid rule ↔ AddedFor others uid rule) →
        ∀ target, (run ops).isAllowed uid target = (run others).isAllowed uid target
  /-- What is allowed stays so until the next clear. -/
  mono : ∀ op, op ≠ .clear → ∀ uid target, (run ops).isAllowed uid target = true →
    (run (ops ++ [op])).isAllowed uid target = true
  owner_ne : ∀ bucket ∈ (run ops).apps, bucket.1 ≠ 0

theorem isAllowed_run_iff (ops : List Op) (uid : Int) (target : Destination) :
    (run ops).isAllowed uid target = true ↔ ∃ rule, InForce ops uid rule ∧ rule.Covers target := by
  simp only [isAllowed, List.any_eq_true, mem_rulesFor_run, Rule.allows_iff_covers]

theorem owner_ne_of_mem_run {ops : List Op} {bucket : Int × List Rule}
    (hbucket : bucket ∈ (run ops).apps) : bucket.1 ≠ 0 := by
  induction ops using List.reverseRecOn generalizing bucket with
  | nil => cases hbucket
  | append_singleton early last ih =>
    rw [run_concat] at hbucket
    cases last with
    | addGlobal rule => exact ih hbucket
    | addApp uid rule =>
      by_cases huid : uid = 0
      · subst huid
        rw [after_addApp_zero] at hbucket
        exact ih hbucket
      · rw [after_addApp _ huid] at hbucket
        obtain howner | ⟨old, hold, heq⟩ := owner_of_mem_extend hbucket
        · rwa [howner]
        · rw [heq]
          exact ih hold
    | clear => cases hbucket

theorem isolated_run (ops : List Op) : Isolated ops where
  allowed_iff uid target := by
    rw [isAllowed_run_iff]
    constructor
    · rintro ⟨rule, hrule, ⟨hkind, host, hhost, hmatch⟩ | ⟨hkind, ip, hip, hmatch⟩⟩
      · exact .inl ⟨host, rule, hhost, hrule, hkind, hmatch⟩
      · exact .inr ⟨ip, rule, hip, hrule, hkind, hmatch⟩
    · rintro (⟨host, rule, hhost, hrule, hkind, hmatch⟩ | ⟨ip, rule, hip, hrule, hkind, hmatch⟩)
      · exact ⟨rule, hrule, .inl ⟨hkind, host, hhost, hmatch⟩⟩
      · exact ⟨rule, hrule, .inr ⟨hkind, ip, hip, hmatch⟩⟩
  congr others uid hglobal hown target := by
    have hsame (rule : Rule) : InForce ops uid rule ↔ InForce others uid rule :=
      or_congr (hglobal rule) (hown rule)
    rw [Bool.eq_iff_iff, isAllowed_run_iff, isAllowed_run_iff]
    simp only [hsame]
  mono op hop uid target hallowed := by
    rw [isAllowed_run_iff] at hallowed ⊢
    obtain ⟨rule, hrule, hcovers⟩ := hallowed
    refine ⟨rule, ?_, hcovers⟩
    rw [← mem_rulesFor_run] at hrule ⊢
    rw [run_concat, mem_rulesFor_after]
    exact .inr ⟨hop, hrule⟩
  owner_ne _ hbucket := owner_ne_of_mem_run hbucket

end AllowPolicy.Allowlist
