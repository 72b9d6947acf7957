import AllowPolicy.Proofs.Store.Transaction
import Mathlib.Algebra.Ring.Nat

namespace AllowPolicy.Store

/-- The rules on the file of a store. -/
def listing (store : Store) : List StoredRule :=
  match store.saved.rules with
  | .present table => table.listing
  | _ => []

variable {store : Store} {table : RuleTable}

theorem Holds.listing (hholds : Holds store table) : store.listing = table.listing := by
  simp only [Store.listing, hholds.saved]

theorem Holds.close (hholds : Holds store table) : Holds store.close table :=
  ⟨hholds.saved, rfl, hholds.durable, hholds.tidy⟩

theorem Holds.reopen (hholds : Holds store table) : Holds store.reopen table := by
  have hsaved : store.saved.completed.rules = .present table := by
    rw [Database.completed, hholds.saved]
    rfl
  have hreopen : store.reopen = connect store.saved false := by
    rw [Store.reopen, hholds.durable]
    rfl
  rw [hreopen]
  exact ⟨hsaved, rfl, rfl, hholds.tidy⟩

theorem holds_connect : Holds (connect {} false) {} := ⟨rfl, rfl, rfl, RuleTable.tidy_empty⟩

theorem Holds.unique (hholds : Holds store table) {other : RuleTable} (hother : Holds store other) :
    other = table := by
  have hsame := hother.saved
  rw [hholds.saved] at hsame
  exact (Table.present.inj hsame).symm

theorem toInt_eq_zero_or_one (enacted : Bool) : enacted.toInt = 0 ∨ enacted.toInt = 1 := by
  cases enacted <;> simp

/-- What is asked of a store, or done with its file. -/
inductive Request where
  | add (text : String) (enacted : Bool)
  | enact (id : Int64) (enacted : Bool)
  | delete (id : Int64)
  | replace (texts : List String)
  | close
  | reopen

/-- How many rules a request brings. -/
def Request.brings : Request → Nat
  | .add .. => 1
  | .replace texts => texts.length
  | _ => 0

/-- How many rules requests bring, whatever becomes of them. -/
def brought (requests : List Request) : Nat := (requests.map Request.brings).sum

section Requests

variable [Surrogates]

def perform (store : Store) : Request → Store
  | .add text enacted => ((addRule (.text text) enacted.toInt).run.run store).2
  | .enact id enacted => ((setEnacted id.toInt enacted.toInt).run.run store).2
  | .delete id => ((deleteRule id.toInt).run.run store).2
  | .replace texts => ((replaceRules (texts.map Value.text)).run.run store).2
  | .close => store.close
  | .reopen => store.reopen

/-- A store on a new file, after requests. -/
def after (requests : List Request) : Store := requests.foldl perform (connect {} false)

/-- The number has been given to a rule at some time. -/
def Given (requests : List Request) (id : Int) : Prop :=
  ∃ before, before <+: requests ∧ ∃ rule ∈ (after before).listing, rule.id = id

/-- After requests the store is a list of rules by number. -/
structure IsRuleList (requests : List Request) : Prop where
  sorted : (after requests).listing.Pairwise (·.id < ·.id)
  /-- A number keeps its text, and does not come back once its rule is gone. -/
  lasting : ∀ before, before <+: requests → ∀ rule ∈ (after requests).listing,
    Given before rule.id → ∃ old ∈ (after before).listing, old.id = rule.id ∧ old.text = rule.text
  listed : (after requests).isOpen = true →
    listRules.run.run (after requests) = (.ok (after requests).listing, after requests)
  inForce : (after requests).isOpen = true → enactedRules.run.run (after requests) =
    (.ok (((after requests).listing.filter (·.enacted)).map fun rule => (rule.id, rule.text)),
      after requests)
  /-- A rule is added at the end under a number that was never given, until the numbers run out. -/
  added : (after requests).isOpen = true → ∀ text enacted, Text.isWhole text = true →
    (∃ id, ((addRule (.text text) enacted.toInt).run.run (after requests)).1 = .ok id ∧
        (∀ given, Given requests given → given < id) ∧
        (after (requests ++ [.add text enacted])).listing =
          (after requests).listing ++ [⟨id, text, enacted⟩]) ∨
      RuleTable.greatest ≤ brought requests ∧
        (after requests).Refuses (addRule (.text text) enacted.toInt)
  /-- New rules take the place of all others under numbers that were never given, until the numbers
      run out. -/
  replaced : (after requests).isOpen = true → ∀ texts : List String,
    (∀ text ∈ texts, Text.isWhole text = true) →
    (((replaceRules (texts.map Value.text)).run.run (after requests)).1 = .ok texts.length ∧
        (after (requests ++ [.replace texts])).listing.map (·.text) = texts ∧
        ∀ rule ∈ (after (requests ++ [.replace texts])).listing,
          rule.enacted = true ∧ ∀ given, Given requests given → given < rule.id) ∨
      RuleTable.greatest < brought requests + texts.length ∧
        (after requests).Refuses (replaceRules (texts.map Value.text))
  /-- A text in which surrogates stand alone is no rule that a file can keep. -/
  unencodable : (after requests).isOpen = true → ∀ text, Text.isWhole text = false →
    (∀ enacted : Bool, (addRule (.text text) enacted.toInt).run.run (after requests) =
        (.error (.unencodable (Text.unencodable text)), after requests)) ∧
      ∀ texts : List String, text ∈ texts →
        (after requests).Refuses (replaceRules (texts.map Value.text))
  enacted : (after requests).isOpen = true → ∀ (id : Int64) enacted,
    ((setEnacted id.toInt enacted.toInt).run.run (after requests)).1 =
        .ok ((after requests).listing.any (·.id = id.toInt)) ∧
      (after (requests ++ [.enact id enacted])).listing =
        (after requests).listing.map fun rule =>
          if rule.id = id.toInt then { rule with enacted } else rule
  deleted : (after requests).isOpen = true → ∀ id : Int64,
    ((deleteRule id.toInt).run.run (after requests)).1 =
        .ok ((after requests).listing.any (·.id = id.toInt)) ∧
      (after (requests ++ [.delete id])).listing =
        (after requests).listing.filter (·.id ≠ id.toInt)
  closed : (after (requests ++ [.close])).isOpen = false ∧
    (after (requests ++ [.close])).listing = (after requests).listing
  reopened : (after (requests ++ [.reopen])).isOpen = true ∧
    (after (requests ++ [.reopen])).listing = (after requests).listing
  refused : (after requests).isOpen = false →
    (after requests).Refuses listRules ∧ (after requests).Refuses enactedRules ∧
      (∀ text enacted, (after requests).Refuses (addRule text enacted)) ∧
      (∀ id enacted, (after requests).Refuses (setEnacted id enacted)) ∧
      (∀ id, (after requests).Refuses (deleteRule id)) ∧
      ∀ texts, (after requests).Refuses (replaceRules texts)

/-- What a request makes of the rules on the file. -/
structure Step (store : Store) (table : RuleTable) (request : Request) (next : RuleTable) :
    Prop where
  holds : Holds (store.perform request) next
  follows : table.Follows next
  last_le : next.last ≤ table.last + request.brings

theorem Holds.step_same (hholds : Holds store table) {request : Request}
    (hsame : store.perform request = store) : Step store table request table := by
  refine ⟨?_, .refl table, Nat.le_add_right _ _⟩
  rwa [hsame]

theorem perform_closed (hclosed : store.isOpen = false) {request : Request}
    (huse : ¬ (request = .close ∨ request = .reopen)) : store.perform request = store := by
  cases request with
  | add text enacted => exact (refuses_write hclosed _ _ none).keeps
  | enact id enacted => exact (refuses_write hclosed _ _ none).keeps
  | delete id => exact (refuses_write hclosed _ _ none).keeps
  | replace texts => exact (refuses_replaceRules hclosed _ none).keeps
  | close => exact absurd (.inl rfl) huse
  | reopen => exact absurd (.inr rfl) huse

theorem Holds.step_refused (hholds : Holds store table) {request : Request} {α : Type} {op : Op α}
    (hperform : store.perform request = (op.run.run store).2) (hrefuses : store.Refuses op) :
    ∃ next, Step store table request next :=
  ⟨table, hholds.step_same (hperform.trans hrefuses.keeps)⟩

/-- An open store adds a rule, unless it cannot be encoded or the numbers have run out. -/
theorem Holds.step_add (hholds : Holds store table) (hopen : store.isOpen = true) (text : String)
    (enacted : Bool) : ∃ next, Step store table (.add text enacted) next := by
  cases hwhole : Text.isWhole text with
  | false =>
    exact hholds.step_refused rfl ⟨_, run_addRule_lone hopen hholds.draft_rules hwhole _⟩
  | true =>
    by_cases hroom : (table.last : Int) < RuleTable.greatest
    · have hperform : store.perform (.add text enacted) =
          store.saveRules (table.append text enacted.toInt) := by
        rw [perform, run_addRule hopen hholds hroom hwhole]
      refine ⟨_, ?_, RuleTable.follows_append table text enacted.toInt, Nat.le_refl _⟩
      rw [hperform]
      exact hholds.saveRules (hholds.tidy.append hroom text (toInt_eq_zero_or_one enacted))
    · exact hholds.step_refused rfl
        ⟨_, run_addRule_full hopen hholds (Int.not_lt.mp hroom) hwhole enacted⟩

/-- Texts that cannot all be encoded do not take the place of the old ones. -/
theorem refuses_replaceRules_lone (hsettled : store.Settled) {text : String}
    (hlone : Text.isWhole text = false) {texts : List String} (hmem : text ∈ texts) :
    store.Refuses (replaceRules (texts.map Value.text)) :=
  (Unstorable.lone hlone).refuses_replaceRules (List.mem_map_of_mem hmem) hsettled

theorem Holds.step_replace (hholds : Holds store table) (hopen : store.isOpen = true)
    (texts : List String) : ∃ next, Step store table (.replace texts) next := by
  by_cases hwhole : ∀ text ∈ texts, Text.isWhole text = true
  swap
  · push Not at hwhole
    obtain ⟨text, hmem, hlone⟩ := hwhole
    exact hholds.step_refused rfl
      (refuses_replaceRules_lone hholds.draft (Bool.eq_false_iff.mpr hlone) hmem)
  obtain ⟨hsaved, hfull⟩ := run_replaceRules hopen hholds hwhole
  by_cases hroom : (table.last : Int) + texts.length ≤ RuleTable.greatest
  · have hperform : store.perform (.replace texts) =
        store.saveRules (table.clear.appendAll texts) := by
      rw [perform, hsaved hroom]
    refine ⟨_, ?_, (table.follows_clear).trans (table.clear.follows_appendAll texts), ?_⟩
    · rw [hperform]
      exact hholds.saveRules (hholds.tidy.clear.appendAll hroom)
    · rw [RuleTable.last_appendAll]
      exact Nat.le_refl _
  · exact hholds.step_refused rfl ⟨_, hfull (Int.not_le.mp hroom)⟩

/-- Every request leaves a tidy list of rules on the file. -/
theorem Holds.exists_step (hholds : Holds store table) (request : Request) :
    ∃ next, Step store table request next := by
  by_cases hfile : request = .close ∨ request = .reopen
  · obtain rfl | rfl := hfile
    · exact ⟨table, hholds.close, .refl table, Nat.le_refl _⟩
    · exact ⟨table, hholds.reopen, .refl table, Nat.le_refl _⟩
  cases hopen : store.isOpen with
  | false => exact ⟨table, hholds.step_same (perform_closed hopen hfile)⟩
  | true =>
    cases request with
    | add text enacted => exact hholds.step_add hopen text enacted
    | enact id enacted =>
      refine ⟨_, ?_, table.follows_setEnacted id.toInt enacted.toInt, Nat.le_refl _⟩
      rw [perform, run_setEnacted hopen hholds]
      exact hholds.saveRules (hholds.tidy.setEnacted id.toInt (toInt_eq_zero_or_one enacted))
    | delete id =>
      refine ⟨_, ?_, table.follows_delete id.toInt, Nat.le_refl _⟩
      rw [perform, run_deleteRule hopen hholds]
      exact hholds.saveRules (hholds.tidy.delete id.toInt)
    | replace texts => exact hholds.step_replace hopen texts
    | close => exact absurd (.inl rfl) hfile
    | reopen => exact absurd (.inr rfl) hfile

theorem after_concat (requests : List Request) (request : Request) :
    after (requests ++ [request]) = (after requests).perform request := by
  rw [after, List.foldl_append]
  rfl

/-- The rules after requests, and how they have become what they are. -/
structure Reached (requests : List Request) (table : RuleTable) : Prop where
  holds : Holds (after requests) table
  last_le : table.last ≤ brought requests
  follows : ∀ before, before <+: requests → ∀ old, Holds (after before) old → old.Follows table

theorem exists_reached (requests : List Request) : ∃ table, Reached requests table := by
  induction requests using List.reverseRecOn with
  | nil =>
    refine ⟨{}, holds_connect, Nat.le_refl _, fun before hbefore old hold => ?_⟩
    obtain rfl := List.prefix_nil.mp hbefore
    rw [holds_connect.unique hold]
    exact .refl _
  | append_singleton requests request ih =>
    obtain ⟨table, hholds, hlast, hfollows⟩ := ih
    obtain ⟨next, hnext, hstep, hbrings⟩ := hholds.exists_step request
    rw [← after_concat] at hnext
    refine ⟨next, hnext, ?_, fun before hbefore old hold => ?_⟩
    · simp only [brought, List.map_append, List.sum_append, List.map_cons, List.map_nil,
        List.sum_cons, List.sum_nil] at hlast ⊢
      omega
    · obtain rfl | hearlier := List.prefix_concat_iff.mp hbefore
      · rw [hnext.unique hold]
        exact .refl _
      · exact (hfollows before hearlier old hold).trans hstep

variable {requests : List Request}

/-- No number was ever given that is greater than the last. -/
theorem Reached.given_le (hreached : Reached requests table) {id : Int}
    (hgiven : Given requests id) : id ≤ table.last := by
  obtain ⟨before, hbefore, rule, hrule, rfl⟩ := hgiven
  obtain ⟨old, hold, _, _⟩ := exists_reached before
  rw [hold.listing] at hrule
  obtain ⟨row, hrow, rfl⟩ := List.mem_map.mp hrule
  have hid := (hold.tidy.plain row hrow).id_le
  have hlast := (hreached.follows before hbefore old hold).last_le
  simp only [RuleRow.rule]
  omega

theorem Reached.lasting (hreached : Reached requests table) {before : List Request}
    (hbefore : before <+: requests) {rule : StoredRule} (hrule : rule ∈ (after requests).listing)
    (hgiven : Given before rule.id) :
    ∃ old ∈ (after before).listing, old.id = rule.id ∧ old.text = rule.text := by
  obtain ⟨there, hthere⟩ := exists_reached before
  have hid := hthere.given_le hgiven
  rw [hreached.holds.listing] at hrule
  obtain ⟨row, hrow, rfl⟩ := List.mem_map.mp hrule
  obtain ⟨old, hold, hsame, htext⟩ :=
    (hreached.follows before hbefore there hthere.holds).kept row hrow hid
  rw [hthere.holds.listing]
  exact ⟨old.rule, List.mem_map.mpr ⟨old, hold, rfl⟩, hsame, htext⟩

theorem Reached.added (hreached : Reached requests table)
    (hopen : (after requests).isOpen = true) (text : String) (enacted : Bool)
    (hwhole : Text.isWhole text = true) :
    (∃ id, ((addRule (.text text) enacted.toInt).run.run (after requests)).1 = .ok id ∧
        (∀ given, Given requests given → given < id) ∧
        (after (requests ++ [.add text enacted])).listing =
          (after requests).listing ++ [⟨id, text, enacted⟩]) ∨
      RuleTable.greatest ≤ brought requests ∧
        (after requests).Refuses (addRule (.text text) enacted.toInt) := by
  have hholds := hreached.holds
  have hlast := hreached.last_le
  by_cases hroom : (table.last : Int) < RuleTable.greatest
  · have hrun := run_addRule hopen hholds hroom hwhole enacted
    refine .inl ⟨table.last + 1, by rw [hrun], fun given hgiven => ?_, ?_⟩
    · have hle := hreached.given_le hgiven
      omega
    · rw [after_concat, perform, hrun, hholds.listing, ← RuleTable.listing_append]
      rfl
  · exact .inr ⟨by omega, _, run_addRule_full hopen hholds (Int.not_lt.mp hroom) hwhole enacted⟩

theorem Reached.replaced (hreached : Reached requests table)
    (hopen : (after requests).isOpen = true) (texts : List String)
    (hwhole : ∀ text ∈ texts, Text.isWhole text = true) :
    (((replaceRules (texts.map Value.text)).run.run (after requests)).1 = .ok texts.length ∧
        (after (requests ++ [.replace texts])).listing.map (·.text) = texts ∧
        ∀ rule ∈ (after (requests ++ [.replace texts])).listing,
          rule.enacted = true ∧ ∀ given, Given requests given → given < rule.id) ∨
      RuleTable.greatest < brought requests + texts.length ∧
        (after requests).Refuses (replaceRules (texts.map Value.text)) := by
  have hlast := hreached.last_le
  obtain ⟨hsaved, hfull⟩ := run_replaceRules hopen hreached.holds hwhole
  by_cases hroom : (table.last : Int) + texts.length ≤ RuleTable.greatest
  · have hlisting : (after (requests ++ [.replace texts])).listing =
        texts.mapIdx fun place text => ⟨table.last + 1 + place, text, true⟩ := by
      rw [after_concat, perform, hsaved hroom]
      exact RuleTable.listing_appendAll table.clear texts
    refine .inl ⟨by rw [hsaved hroom], ?_, fun rule hrule => ?_⟩
    · rw [hlisting]
      exact List.ext_getElem (by simp) fun place _ _ => by simp
    · rw [hlisting] at hrule
      obtain ⟨place, hplace, rfl⟩ := List.mem_mapIdx.mp hrule
      refine ⟨rfl, fun given hgiven => ?_⟩
      have hle := hreached.given_le hgiven
      simp only
      omega
  · exact .inr ⟨by omega, _, hfull (Int.not_le.mp hroom)⟩

/-- Whatever is asked of it, a store on a file is a list of rules in the order of numbers that are
    never used again. -/
theorem isRuleList_after (requests : List Request) : IsRuleList requests := by
  obtain ⟨table, hreached⟩ := exists_reached requests
  have hholds := hreached.holds
  have hlisting := hholds.listing
  refine
    { sorted := ?_
      lasting := fun before hbefore rule hrule hgiven => hreached.lasting hbefore hrule hgiven
      listed := fun hopen => ?_
      inForce := fun hopen => ?_
      added := hreached.added
      replaced := hreached.replaced
      unencodable := fun hopen text hlone => ?_
      enacted := fun hopen id enacted => ?_
      deleted := fun hopen id => ?_
      closed := ?_
      reopened := ?_
      refused := fun hclosed => ?_ }
  · rw [hlisting]
    exact List.pairwise_map.mpr hholds.tidy.sorted
  · rw [run_listRules hopen hholds, hlisting]
  · rw [run_enactedRules_ok hopen hholds, hlisting]
  · exact ⟨fun enacted => run_addRule_lone hopen hholds.draft_rules hlone enacted.toInt,
      fun _ hmem => refuses_replaceRules_lone hholds.draft hlone hmem⟩
  · have hrun := run_setEnacted hopen hholds id enacted
    rw [after_concat, perform, hrun, hlisting, table.has_eq, ← table.listing_setEnacted]
    exact ⟨rfl, rfl⟩
  · have hrun := run_deleteRule hopen hholds id
    rw [after_concat, perform, hrun, hlisting, table.has_eq, ← table.listing_delete]
    exact ⟨rfl, rfl⟩
  · rw [after_concat, perform, hholds.close.listing, hlisting]
    exact ⟨rfl, rfl⟩
  · rw [after_concat, perform, hholds.reopen.listing, hlisting]
    exact ⟨rfl, rfl⟩
  · exact ⟨(refuses_read hclosed _ _).bind _, (refuses_read hclosed _ _).bind _,
      fun _ _ => refuses_write hclosed _ _ none, fun _ _ => refuses_write hclosed _ _ none,
      fun _ => refuses_write hclosed _ _ none, fun _ => refuses_replaceRules hclosed _ none⟩

end Requests

/-- The number of a deleted rule stays used, also in a file that is opened anew. -/
example :
    (after [.add "a" true, .add "b" false, .delete 2, .close, .reopen, .add "c" true]).listing =
    [⟨1, "a", true⟩, ⟨3, "c", true⟩] := by
  decide

end AllowPolicy.Store
