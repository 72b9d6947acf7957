import AllowPolicy.Proofs.Yaml.Cause
import AllowPolicy.Yaml

namespace AllowPolicy.Yaml.Node

/-- `part` is the node itself, or stands in it at any depth. -/
inductive Within (part : Node) : Node → Prop
  | self : Within part part
  | item {tag items item} (hmem : item ∈ items) (hwithin : Within part item) :
      Within part (.sequence tag items)
  | key {tag entries key value} (hmem : (key, value) ∈ entries) (hwithin : Within part key) :
      Within part (.mapping tag entries)
  | value {tag entries key value} (hmem : (key, value) ∈ entries) (hwithin : Within part value) :
      Within part (.mapping tag entries)

theorem Within.trans {part node root : Node} (hpart : Within part node) (hnode : Within node root) :
    Within part root := by
  induction hnode with
  | self => exact hpart
  | item hmem _ ih => exact .item hmem ih
  | key hmem _ ih => exact .key hmem ih
  | value hmem _ ih => exact .value hmem ih

/-- The failure for something that stands in for a date. -/
def misplaced : Failure := .badType "expected string or bytes-like object, got 'list'"

/-- The node is a scalar of a kind that its text is no value of, and the failure says so. -/
structure Spoilt (node : Node) (failure : Failure) : Prop where
  single : node.isCollection = false
  failed : ∃ text, node.text? = some text ∧
    ((node.tag = .stamp ∧ node.isMapping = true ∧ failure = misplaced) ∨
      Scalar.value node.tag text = .error (.failed failure))

variable {node : Node} {failure : Failure}

theorem spoilt_of_visit (hfailed : node.visit = .error (.failed failure)) :
    node.Spoilt failure := by
  unfold visit at hfailed
  split at hfailed
  · cases hfailed
  · rename_i hsingle
    split at hfailed
    · cases hfailed
    · rename_i problem hscalar
      cases hfailed
      unfold scalar? at hscalar
      split at hscalar
      · cases hscalar
      · rename_i text htext
        refine ⟨by simpa using hsingle, text, htext, ?_⟩
        split at hscalar
        · rename_i hstamp
          obtain ⟨htag, hmapping⟩ := Bool.and_eq_true_iff.mp hstamp
          cases hscalar
          exact .inl ⟨of_decide_eq_true htag, hmapping, rfl⟩
        · exact .inr hscalar

theorem eq_of_mem_visit {inner : List Node} (hok : node.visit = .ok inner) :
    ∀ part ∈ inner, part = node := by
  unfold visit at hok
  split at hok
  · cases hok
    simp
  · split at hok
    · cases hok
      simp
    · cases hok

theorem spoilt_of_visitAll {nodes : List Node}
    (hfailed : visitAll nodes = .error (.failed failure)) :
    ∃ node ∈ nodes, node.Spoilt failure := by
  induction nodes with
  | nil => cases hfailed
  | cons node rest ih =>
    obtain hfailed | ⟨first, _, hfailed⟩ := eq_error_of_bind hfailed
    · exact ⟨node, List.mem_cons_self, spoilt_of_visit hfailed⟩
    · obtain hfailed | ⟨_, _, hfailed⟩ := eq_error_of_bind hfailed
      · obtain ⟨part, hmem, hspoilt⟩ := ih hfailed
        exact ⟨part, List.mem_cons_of_mem _ hmem, hspoilt⟩
      · cases hfailed

theorem mem_of_mem_visitAll {nodes inner : List Node} (hok : visitAll nodes = .ok inner) :
    inner ⊆ nodes := by
  induction nodes generalizing inner with
  | nil =>
    cases hok
    exact List.Subset.refl _
  | cons node rest ih =>
    obtain ⟨first, hfirst, hok⟩ := eq_ok_of_bind hok
    obtain ⟨others, hothers, hok⟩ := eq_ok_of_bind hok
    cases hok
    intro part hpart
    obtain hpart | hpart := List.mem_append.mp hpart
    · exact eq_of_mem_visit hfirst part hpart ▸ List.mem_cons_self
    · exact List.mem_cons_of_mem _ (ih hothers hpart)

theorem spoilt_of_visitEntries {entries : List (Node × Node)}
    (hfailed : visitEntries entries = .error (.failed failure)) :
    ∃ entry ∈ entries, entry.1.Spoilt failure ∨ entry.2.Spoilt failure := by
  induction entries with
  | nil => cases hfailed
  | cons entry rest ih =>
    obtain ⟨key, value⟩ := entry
    obtain hfailed | ⟨_, _, hfailed⟩ := eq_error_of_bind hfailed
    · exact ⟨(key, value), List.mem_cons_self, .inl (spoilt_of_visit hfailed)⟩
    · split at hfailed
      · cases hfailed
      · obtain hfailed | ⟨_, _, hfailed⟩ := eq_error_of_bind hfailed
        · exact ⟨(key, value), List.mem_cons_self, .inr (spoilt_of_visit hfailed)⟩
        · obtain hfailed | ⟨_, _, hfailed⟩ := eq_error_of_bind hfailed
          · obtain ⟨entry, hmem, hspoilt⟩ := ih hfailed
            exact ⟨entry, List.mem_cons_of_mem _ hmem, hspoilt⟩
          · cases hfailed

theorem mem_of_mem_visitEntries {entries : List (Node × Node)} {inner : List Node}
    (hok : visitEntries entries = .ok inner) :
    ∀ part ∈ inner, ∃ entry ∈ entries, part = entry.2 := by
  induction entries generalizing inner with
  | nil =>
    cases hok
    simp
  | cons entry rest ih =>
    obtain ⟨key, value⟩ := entry
    obtain ⟨_, _, hok⟩ := eq_ok_of_bind hok
    split at hok
    · cases hok
    · obtain ⟨first, hfirst, hok⟩ := eq_ok_of_bind hok
      obtain ⟨others, hothers, hok⟩ := eq_ok_of_bind hok
      cases hok
      intro part hpart
      obtain hpart | hpart := List.mem_append.mp hpart
      · exact ⟨(key, value), List.mem_cons_self, eq_of_mem_visit hfirst part hpart⟩
      · obtain ⟨entry, hmem, rfl⟩ := ih hothers part hpart
        exact ⟨entry, List.mem_cons_of_mem _ hmem, rfl⟩

/-- Key and value stand in the node, the key perhaps as plain text. -/
structure Holds (node : Node) (entry : Node × Node) : Prop where
  key : ∃ key, entry.1 = key.asKey ∧ Within key node
  value : Within entry.2 node

theorem Holds.within {whole : Node} {entry : Node × Node} (hholds : node.Holds entry)
    (hwithin : Within node whole) : whole.Holds entry := by
  obtain ⟨⟨key, hkey, hpart⟩, hvalue⟩ := hholds
  exact ⟨⟨key, hkey, hpart.trans hwithin⟩, hvalue.trans hwithin⟩

/-- What a node is merged as: a mapping with its entries, a sequence with those of its items. -/
def toMerge? : Node → Option (List (Node × Node))
  | .sequence _ items => mergedItems? items
  | node => node.merged?

theorem mergedEntries?_cons (key value : Node) (rest : List (Node × Node)) :
    mergedEntries? ((key, value) :: rest) = (mergedEntries? rest).bind fun (early, own) =>
      if key.isMerge then value.toMerge?.map fun here => (here ++ early, own)
      else some (early, (key.asKey, value) :: own) := by
  rw [mergedEntries?]
  cases mergedEntries? rest with
  | none => rfl
  | some found =>
    cases value with
    | sequence tag items => cases hitems : mergedItems? items <;> simp [toMerge?, hitems]
    | mapping tag entries =>
      cases hmerged : (mapping tag entries).merged? <;> simp [toMerge?, hmerged]
    | _ => simp [toMerge?, merged?]

theorem toMerge?_of_merged? {entries : List (Node × Node)} (hmerged : node.merged? = some entries) :
    node.toMerge? = some entries := by
  cases node with
  | mapping => exact hmerged
  | _ => cases hmerged

mutual

/-- What is merged into a mapping stands in it too. -/
theorem holds_of_toMerge? : (node : Node) → ∀ merged, node.toMerge? = some merged →
    ∀ entry ∈ merged, node.Holds entry
  | .sequence tag items, merged, hmerged => fun entry hmem => by
    obtain ⟨item, hitem, hholds⟩ := holds_of_mergedItems? items merged hmerged entry hmem
    exact hholds.within (.item hitem .self)
  | .mapping tag entries, merged, hmerged => by
    rw [toMerge?, merged?] at hmerged
    · obtain ⟨found, hentries, hmerged⟩ := Option.bind_eq_some_iff.mp hmerged
      cases hmerged
      exact holds_of_mergedEntries? entries (.mapping tag entries)
        (fun entry hmem => ⟨.key hmem .self, .value hmem .self⟩) found hentries
    · nofun
  | .scalar _ _, _, hmerged => nomatch hmerged
  | .alias _, _, hmerged => nomatch hmerged

theorem holds_of_mergedEntries? : (entries : List (Node × Node)) → ∀ whole,
    (∀ entry ∈ entries, Within entry.1 whole ∧ Within entry.2 whole) →
    ∀ found, mergedEntries? entries = some found → ∀ entry ∈ found.1 ++ found.2, whole.Holds entry
  | [], whole, _, found, hfound => by
    rw [mergedEntries?] at hfound
    cases hfound
    simp
  | (key, value) :: rest, whole, hwithin, found, hfound => by
    rw [mergedEntries?_cons] at hfound
    obtain ⟨⟨early, own⟩, hrest, hfound⟩ := Option.bind_eq_some_iff.mp hfound
    have hlater := holds_of_mergedEntries? rest whole
      (fun entry hmem => hwithin entry (List.mem_cons_of_mem _ hmem)) (early, own) hrest
    obtain ⟨hkey, hvalue⟩ := hwithin _ List.mem_cons_self
    dsimp only at hfound
    split at hfound
    · obtain ⟨here, hhere, rfl⟩ := Option.map_eq_some_iff.mp hfound
      intro entry hmem
      rw [List.append_assoc] at hmem
      obtain hmem | hmem := List.mem_append.mp hmem
      · exact (holds_of_toMerge? value here hhere entry hmem).within hvalue
      · exact hlater entry hmem
    · cases hfound
      intro entry hmem
      obtain hmem | hmem := List.mem_append.mp hmem
      · exact hlater entry (List.mem_append_left _ hmem)
      · obtain rfl | hmem := List.mem_cons.mp hmem
        · exact ⟨⟨key, rfl, hkey⟩, hvalue⟩
        · exact hlater entry (List.mem_append_right _ hmem)

theorem holds_of_mergedItems? : (items : List Node) → ∀ merged, mergedItems? items = some merged →
    ∀ entry ∈ merged, ∃ item ∈ items, item.Holds entry
  | [], merged, hmerged => by
    rw [mergedItems?] at hmerged
    cases hmerged
    simp
  | item :: rest, merged, hmerged => by
    rw [mergedItems?] at hmerged
    obtain ⟨here, hhere, hmerged⟩ := Option.bind_eq_some_iff.mp hmerged
    obtain ⟨later, hlater, hmerged⟩ := Option.bind_eq_some_iff.mp hmerged
    cases hmerged
    intro entry hmem
    obtain hmem | hmem := List.mem_append.mp hmem
    · obtain ⟨item, hitem, hholds⟩ := holds_of_mergedItems? rest later hlater entry hmem
      exact ⟨item, List.mem_cons_of_mem _ hitem, hholds⟩
    · have hholds := holds_of_toMerge? item here (toMerge?_of_merged? hhere) entry hmem
      exact ⟨item, List.mem_cons_self, hholds⟩

end

theorem holds_of_merged? {merged : List (Node × Node)} (hmerged : node.merged? = some merged) :
    ∀ entry ∈ merged, node.Holds entry :=
  holds_of_toMerge? node merged (toMerge?_of_merged? hmerged)

theorem spoilt_of_asKey (hspoilt : node.asKey.Spoilt failure) : node.Spoilt failure := by
  unfold asKey at hspoilt
  split at hspoilt
  · obtain ⟨_, text, _, ⟨htag, -, -⟩ | hfailed⟩ := hspoilt
    · cases htag
    · cases hfailed
  · exact hspoilt

theorem within_of_pairs? {items : List Node} {entries : List (Node × Node)}
    (hpairs : pairs? items = some entries) :
    ∀ part ∈ entries.flatMap fun (key, value) => [key, value],
      ∃ item ∈ items, Within part item := by
  fun_induction pairs? items generalizing entries with
  | case1 =>
    cases hpairs
    simp
  | case2 tag entry rest ih =>
    obtain ⟨later, hlater, rfl⟩ := Option.map_eq_some_iff.mp hpairs
    intro part hmem
    rw [List.flatMap_cons] at hmem
    obtain hmem | hmem := List.mem_append.mp hmem
    · refine ⟨.mapping tag [entry], List.mem_cons_self, ?_⟩
      obtain rfl | hmem := List.mem_cons.mp hmem
      · exact .key List.mem_cons_self .self
      · exact .value List.mem_cons_self (List.mem_singleton.mp hmem ▸ .self)
    · obtain ⟨item, hitem, hwithin⟩ := ih hlater part hmem
      exact ⟨item, List.mem_cons_of_mem _ hitem, hwithin⟩
  | case3 => cases hpairs

/-- A collection is looked into by visiting parts of it. -/
theorem lookInto_cases (node : Node) :
    node.lookInto = .error .malformed ∨
      (∃ parts, node.lookInto = visitAll parts ∧ ∀ part ∈ parts, Within part node) ∨
      ∃ entries, node.lookInto = visitEntries entries ∧ ∀ entry ∈ entries, node.Holds entry := by
  unfold lookInto
  split
  · rename_i tag items _
    exact .inr (.inl ⟨items, rfl, fun part hmem => .item hmem .self⟩)
  · split
    · rename_i entries hmerged
      exact .inr (.inr ⟨entries, rfl, holds_of_merged? hmerged⟩)
    · exact .inl rfl
  · split
    · rename_i entries hmerged
      exact .inr (.inr ⟨entries, rfl, holds_of_merged? hmerged⟩)
    · exact .inl rfl
  · split
    · rename_i entries hpairs
      refine .inr (.inl ⟨_, rfl, fun part hmem => ?_⟩)
      obtain ⟨item, hitem, hwithin⟩ := within_of_pairs? hpairs part hmem
      exact .item hitem hwithin
    · exact .inl rfl
  · split
    · rename_i entries hpairs
      refine .inr (.inl ⟨_, rfl, fun part hmem => ?_⟩)
      obtain ⟨item, hitem, hwithin⟩ := within_of_pairs? hpairs part hmem
      exact .item hitem hwithin
    · exact .inl rfl
  · exact .inl rfl

theorem spoilt_of_lookInto (hfailed : node.lookInto = .error (.failed failure)) :
    ∃ part, Within part node ∧ part.Spoilt failure := by
  obtain hlook | ⟨parts, hlook, hparts⟩ | ⟨entries, hlook, hholds⟩ := lookInto_cases node
  · rw [hlook] at hfailed
    cases hfailed
  · obtain ⟨part, hmem, hspoilt⟩ := spoilt_of_visitAll (hlook.symm.trans hfailed)
    exact ⟨part, hparts part hmem, hspoilt⟩
  · obtain ⟨entry, hmem, hspoilt⟩ := spoilt_of_visitEntries (hlook.symm.trans hfailed)
    obtain ⟨⟨key, hkey, hwithin⟩, hvalue⟩ := hholds entry hmem
    obtain hspoilt | hspoilt := hspoilt
    · exact ⟨key, hwithin, spoilt_of_asKey (hkey ▸ hspoilt)⟩
    · exact ⟨entry.2, hvalue, hspoilt⟩

theorem within_of_lookInto {inner : List Node} (hok : node.lookInto = .ok inner) :
    ∀ part ∈ inner, Within part node := by
  intro part hpart
  obtain hlook | ⟨parts, hlook, hparts⟩ | ⟨entries, hlook, hholds⟩ := lookInto_cases node
  · rw [hlook] at hok
    cases hok
  · exact hparts part (mem_of_mem_visitAll (hlook.symm.trans hok) hpart)
  · obtain ⟨entry, hmem, rfl⟩ := mem_of_mem_visitEntries (hlook.symm.trans hok) part hpart
    exact (hholds entry hmem).value

theorem spoilt_of_checkAll {fuel : Nat} {nodes : List Node}
    (hfailed : checkAll fuel nodes = .error (.failed failure)) :
    ∃ node ∈ nodes, ∃ part, Within part node ∧ part.Spoilt failure := by
  induction fuel generalizing nodes with
  | zero => cases hfailed
  | succ fuel ih =>
    cases nodes with
    | nil => cases hfailed
    | cons node rest =>
      obtain hfailed | ⟨inner, hinner, hfailed⟩ := eq_error_of_bind hfailed
      · exact ⟨node, List.mem_cons_self, spoilt_of_lookInto hfailed⟩
      · obtain ⟨found, hmem, part, hwithin, hspoilt⟩ := ih hfailed
        -- What was found stood in the queue behind the node, or is one of the node's collections.
        obtain hmem | hmem := List.mem_append.mp hmem
        · exact ⟨found, List.mem_cons_of_mem _ hmem, part, hwithin, hspoilt⟩
        · have hfound := within_of_lookInto hinner found hmem
          exact ⟨node, List.mem_cons_self, part, hwithin.trans hfound, hspoilt⟩

/-- A document has no value only because it breaks the rules of the language, or because of one
    scalar in it. -/
theorem spoilt_of_check (hfailed : node.check = .error (.failed failure)) :
    ∃ part, Within part node ∧ part.Spoilt failure := by
  obtain hfailed | ⟨inner, hinner, hfailed⟩ := eq_error_of_bind hfailed
  · exact ⟨node, .self, spoilt_of_visit hfailed⟩
  · obtain ⟨found, hmem, part, hwithin, hspoilt⟩ := spoilt_of_checkAll hfailed
    exact ⟨part, eq_of_mem_visit hinner found hmem ▸ hwithin, hspoilt⟩

end AllowPolicy.Yaml.Node
