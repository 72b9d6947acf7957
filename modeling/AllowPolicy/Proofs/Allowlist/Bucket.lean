import AllowPolicy.Loading
import AllowPolicy.Proofs.Lookup
import Mathlib.Data.List.Induction

namespace AllowPolicy

/-- The rule applies to an identity: it is for every application or for this one. -/
def ScopedRule.AppliesTo (entry : ScopedRule) (uid : Int) : Prop :=
  entry.scope = 0 ∨ (entry.scope : Int) = uid

/-- The rule is a domain rule for the host or an address rule for the address. -/
def Rule.Covers (rule : Rule) (target : Destination) : Prop :=
  (rule.kind = .domain ∧ ∃ host, target.host = some host ∧ Host.isMatch rule.pattern host = true) ∨
    (rule.kind = .ipv4 ∧ ∃ ip, target.ip = some ip ∧ Ipv4.isMatch rule.pattern ip = true)

theorem Rule.allows_iff_covers (rule : Rule) (target : Destination) :
    rule.allows target = true ↔ rule.Covers target := by
  unfold Rule.allows Rule.Covers
  cases rule.kind <;> simp [Option.any_eq_true]

namespace Allowlist

theorem lookup_extend (uid : Int) (rule : Rule) (apps : List (Int × List Rule)) (other : Int) :
    (extend uid rule apps).lookup other =
      if other = uid then some ((apps.lookup uid).getD [] ++ [rule]) else apps.lookup other := by
  induction apps with
  | nil => simp [extend, lookup_cons_eq_ite]
  | cons head rest ih =>
    obtain ⟨owner, rules⟩ := head
    by_cases howner : owner = uid
    · subst howner
      by_cases hother : other = owner <;> simp [extend, lookup_cons_eq_ite, hother]
    · have hne : ¬ uid = owner := fun heq => howner heq.symm
      simp only [extend, howner, if_false, lookup_cons_eq_ite, hne, ih]
      by_cases hother : other = owner
      · simp [hother, howner]
      · simp [hother]

/-- The allowlist with one more rule under its scope. -/
def place (allowlist : Allowlist) (entry : ScopedRule) : Allowlist :=
  if entry.isGlobal then allowlist.addGlobal entry.rule
  else { allowlist with apps := extend entry.scope entry.rule allowlist.apps }

/-- A rule found for an identity is one that was found before, or the one just placed, if it
    applies. -/
theorem mem_rulesFor_place (allowlist : Allowlist) (entry : ScopedRule) (uid : Int) (rule : Rule) :
    rule ∈ (allowlist.place entry).rulesFor uid ↔
      rule ∈ allowlist.rulesFor uid ∨ (entry.AppliesTo uid ∧ rule = entry.rule) := by
  unfold place ScopedRule.AppliesTo
  by_cases hglobal : entry.scope = 0
  · simp [ScopedRule.isGlobal, hglobal, rulesFor, addGlobal, ownRules, or_assoc]
  · by_cases howner : (entry.scope : Int) = uid
    · subst howner
      simp [ScopedRule.isGlobal, hglobal, rulesFor, ownRules, lookup_extend, or_assoc, or_comm]
    · have hother : ¬ uid = (entry.scope : Int) := fun heq => howner heq.symm
      simp [ScopedRule.isGlobal, hglobal, rulesFor, ownRules, lookup_extend, howner, hother]

theorem mem_rulesFor_foldl_place (entries : List ScopedRule) (allowlist : Allowlist) (uid : Int)
    (rule : Rule) :
    rule ∈ (entries.foldl place allowlist).rulesFor uid ↔
      rule ∈ allowlist.rulesFor uid ∨
        ∃ entry ∈ entries, entry.AppliesTo uid ∧ rule = entry.rule := by
  induction entries generalizing allowlist with
  | nil => simp
  | cons entry rest ih =>
    simp only [List.foldl_cons, ih, mem_rulesFor_place, List.mem_cons, exists_eq_or_imp, or_assoc]

/-- What placed rules allow does not depend on their order or number. -/
theorem isAllowed_foldl_place (entries : List ScopedRule) (uid : Int) (target : Destination) :
    (entries.foldl place {}).isAllowed uid target = true ↔
      ∃ entry ∈ entries, entry.AppliesTo uid ∧ entry.rule.Covers target := by
  have hempty (rule : Rule) : rule ∉ rulesFor {} uid := by simp [rulesFor, ownRules]
  simp only [isAllowed, List.any_eq_true, mem_rulesFor_foldl_place, hempty, false_or,
    Rule.allows_iff_covers]
  constructor
  · rintro ⟨rule, ⟨entry, hentry, happlies, rfl⟩, hcovers⟩
    exact ⟨entry, hentry, happlies, hcovers⟩
  · rintro ⟨entry, hentry, happlies, hcovers⟩
    exact ⟨entry.rule, ⟨entry, hentry, happlies, rfl⟩, hcovers⟩

/-- The allowlist has more rules than before: each stands at the end of its bucket, in the order
    given. -/
structure Extended (before after : Allowlist) (entries : List ScopedRule) : Prop where
  size : after.size = before.size + entries.length
  global : after.global = before.global ++ (entries.filter (·.scope = 0)).map (·.rule)
  own : ∀ uid, after.ownRules uid = before.ownRules uid ++
    (entries.filter fun entry => entry.scope ≠ 0 ∧ entry.scope = uid).map (·.rule)

theorem length_extend (uid : Int) (rule : Rule) (apps : List (Int × List Rule)) :
    ((extend uid rule apps).flatMap (·.2)).length = (apps.flatMap (·.2)).length + 1 := by
  induction apps with
  | nil => rfl
  | cons bucket rest ih =>
    obtain ⟨owner, rules⟩ := bucket
    by_cases howner : owner = uid
    · simp only [extend, howner, if_true, List.flatMap_cons, List.length_append,
        List.length_singleton]
      omega
    · simp only [extend, howner, if_false, List.flatMap_cons, List.length_append, ih]
      omega

theorem Extended.place {before after : Allowlist} {entries : List ScopedRule}
    (hextended : Extended before after entries) (entry : ScopedRule) :
    Extended before (after.place entry) (entries ++ [entry]) := by
  have hsize := hextended.size
  by_cases hglobal : entry.scope = 0
  · have hplace : after.place entry = after.addGlobal entry.rule := by
      simp [Allowlist.place, ScopedRule.isGlobal, hglobal]
    rw [hplace]
    refine ⟨?_, ?_, fun uid => ?_⟩
    · simp only [Allowlist.size, addGlobal, List.length_append, List.length_singleton] at hsize ⊢
      omega
    · simp [addGlobal, hextended.global, hglobal]
    · have hown := hextended.own uid
      simp only [ownRules] at hown
      simp [addGlobal, ownRules, hown, hglobal]
  · have hplace : after.place entry =
        { after with apps := extend entry.scope entry.rule after.apps } := by
      simp [Allowlist.place, ScopedRule.isGlobal, hglobal]
    rw [hplace]
    refine ⟨?_, ?_, fun uid => ?_⟩
    · simp only [Allowlist.size, length_extend, List.length_append, List.length_singleton]
        at hsize ⊢
      omega
    · simp [hextended.global, hglobal]
    · have hown := hextended.own uid
      simp only [ownRules] at hown
      by_cases howner : (entry.scope : Int) = uid
      · subst howner
        simp [ownRules, lookup_extend, hown, hglobal]
      · simp [ownRules, lookup_extend, hown, hglobal, howner, Ne.symm howner]

theorem extended_foldl_place (allowlist : Allowlist) (entries : List ScopedRule) :
    Extended allowlist (entries.foldl place allowlist) entries := by
  induction entries using List.reverseRecOn with
  | nil => exact ⟨rfl, (List.append_nil _).symm, fun _ => (List.append_nil _).symm⟩
  | append_singleton front entry ih =>
    rw [List.foldl_append]
    exact ih.place entry

/-- A rule goes to the end of the bucket of its identity, which is a new one behind the others if
    there is none yet. -/
theorem extend_map {uids : List Nat} (hdistinct : uids.Nodup) {own : Nat → List Rule} {uid : Nat}
    (hnew : uid ∉ uids → own uid = []) (rule : Rule) :
    extend uid rule (uids.map fun owner : Nat => ((owner : Int), own owner)) =
      (if uid ∈ uids then uids else uids ++ [uid]).map fun owner : Nat =>
        ((owner : Int), own owner ++ if owner = uid then [rule] else []) := by
  induction uids with
  | nil => simp [extend, hnew]
  | cons owner rest ih =>
    obtain ⟨hother, hrest⟩ := List.nodup_cons.mp hdistinct
    by_cases howner : owner = uid
    · subst howner
      have hsame : rest.map (fun other : Nat => ((other : Int), own other)) =
          rest.map fun other : Nat =>
            ((other : Int), own other ++ if other = owner then [rule] else []) :=
        List.map_congr_left fun other hmem => by
          have hne : other ≠ owner := fun heq => hother (heq ▸ hmem)
          simp [hne]
      simp [extend, hsame]
    · have hmem : uid ∈ owner :: rest ↔ uid ∈ rest := by simp [Ne.symm howner]
      rw [hmem] at hnew
      rw [List.map_cons, extend, if_neg (by exact_mod_cast howner), ih hrest hnew,
        if_congr hmem rfl rfl]
      by_cases hold : uid ∈ rest <;> simp [hold, howner]

/-- Rules that are placed stand in one bucket for each identity, in the order in which the
    identities first come up, and in their own order there. -/
theorem apps_foldl_place (entries : List ScopedRule) :
    (entries.foldl place {}).apps =
      ((entries.filter (!·.isGlobal)).map (·.scope)).eraseDups.map fun uid : Nat =>
        ((uid : Int), (entries.filter (·.scope = uid)).map (·.rule)) := by
  induction entries using List.reverseRecOn with
  | nil => rfl
  | append_singleton front entry ih =>
    have hmem (uid : Nat) : uid ∈ (front.filter (!·.isGlobal)).map (·.scope) ↔
        ∃ other ∈ front, other.scope ≠ 0 ∧ other.scope = uid := by
      simp [ScopedRule.isGlobal, and_assoc]
    rw [List.foldl_append, List.foldl_cons, List.foldl_nil]
    by_cases hglobal : entry.scope = 0
    · have hkeys : (front ++ [entry]).filter (!·.isGlobal) = front.filter (!·.isGlobal) := by
        simp [ScopedRule.isGlobal, hglobal]
      have hplace : (place (front.foldl place {}) entry).apps = (front.foldl place {}).apps := by
        simp [place, ScopedRule.isGlobal, hglobal, addGlobal]
      rw [hplace, ih, hkeys]
      refine List.map_congr_left fun uid huid => ?_
      obtain ⟨_, _, hne, rfl⟩ := (hmem uid).mp (List.mem_eraseDups.mp huid)
      simp [hglobal, Ne.symm hne]
    · have hkeys : ((front ++ [entry]).filter (!·.isGlobal)).map (·.scope) =
          (front.filter (!·.isGlobal)).map (·.scope) ++ [entry.scope] := by
        simp [ScopedRule.isGlobal, hglobal]
      have hplace : (place (front.foldl place {}) entry).apps =
          extend entry.scope entry.rule (front.foldl place {}).apps := by
        simp [place, ScopedRule.isGlobal, hglobal]
      have hnone (hnew : entry.scope ∉ ((front.filter (!·.isGlobal)).map (·.scope)).eraseDups) :
          (front.filter (·.scope = entry.scope)).map (·.rule) = [] := by
        rw [List.mem_eraseDups, hmem] at hnew
        rw [List.map_eq_nil_iff, List.filter_eq_nil_iff]
        intro other hother hsame
        have hsame : other.scope = entry.scope := by simpa using hsame
        exact hnew ⟨other, hother, hsame ▸ hglobal, hsame⟩
      rw [hplace, ih, extend_map (nodup_eraseDups _) hnone, hkeys, eraseDups_concat]
      simp only [List.mem_eraseDups]
      refine List.map_congr_left fun uid _ => ?_
      by_cases huid : uid = entry.scope
      · simp [huid]
      · simp [huid, Ne.symm huid]

/-- An allowlist takes every rule that it is offered. -/
theorem offer_sink (entry : ScopedRule) (allowlist : Allowlist) :
    (Loading.offer sink entry).run allowlist = (.ok (), allowlist.place entry) := by
  by_cases hglobal : entry.isGlobal
  · simp only [Loading.offer, hglobal, place, if_true]
    rfl
  · have hscope : ¬ (entry.scope : Int) = 0 := by
      simpa [ScopedRule.isGlobal] using hglobal
    have hadded : allowlist.addApp entry.scope entry.rule =
        .ok { allowlist with apps := extend entry.scope entry.rule allowlist.apps } := by
      rw [addApp, if_neg hscope]
    simp only [Loading.offer, hglobal, place, Bool.false_eq_true, if_false, StateT.run, sink,
      hadded]

/-- Routing into an allowlist always goes through. -/
theorem run_route_sink (entries : List ScopedRule) (allowlist : Allowlist) :
    ((Loading.route sink entries).run allowlist).value =
      (.ok (), entries.foldl place allowlist) := by
  induction entries generalizing allowlist with
  | nil => rfl
  | cons entry rest ih =>
    simp only [Loading.route, StateT.run_bind, StateT.run_get, StateT.run_set, Logged.value_bind,
      Logged.value_pure, offer_sink, List.foldl_cons]
    exact ih (allowlist.place entry)

end Allowlist

end AllowPolicy
