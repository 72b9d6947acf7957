import AllowPolicy.Proofs.Yaml.Cause
import AllowPolicy.Yaml.Node

namespace AllowPolicy.Yaml

namespace Composer

variable {α : Type}

/-- Nothing fails for a value: a composer has the texts of scalars only. -/
abbrev Composes (composer : Composer α) : Prop := FailsFor (fun _ _ => False) composer

theorem composes_modify (change : Reading → Reading) : Composes (modify change) :=
  failsFor_modify fun _ _ hcause => hcause

theorem composes_peek : Composes peek := failsFor_get.bind fun _ => failsFor_pure _

theorem composes_skip : Composes skip := composes_modify _

theorem composes_isNext (tokens : List Token) : Composes (isNext tokens) :=
  composes_peek.bind fun _ => failsFor_pure _

theorem composes_anchor? : Composes anchor? := by
  refine composes_peek.bind fun token => ?_
  split
  · exact composes_skip.bind fun _ => failsFor_pure _
  · exact failsFor_pure _

theorem composes_tag? : Composes tag? := by
  refine composes_peek.bind fun token => ?_
  split
  · refine composes_skip.bind fun _ => ?_
    split
    · exact failsFor_pure _
    · refine failsFor_get.bind fun r => ?_
      split
      · exact failsFor_pure _
      · exact failsFor_malformed
  · exact failsFor_pure _

theorem composes_properties : Composes properties := by
  refine composes_anchor?.bind fun anchor => ?_
  split
  · exact composes_tag?.bind fun _ => failsFor_pure _
  · exact composes_tag?.bind fun _ => composes_anchor?.bind fun _ => failsFor_pure _

theorem composes_declare (anchor : Option String) : Composes (declare anchor) := by
  unfold declare
  split
  · exact failsFor_pure _
  · refine failsFor_get.bind fun r => ?_
    exact .ite (failsFor_malformed.bind fun _ => composes_modify _) (composes_modify _)

theorem composes_keep (anchor : Option String) (node : Node) : Composes (keep anchor node) := by
  cases anchor with
  | none => exact failsFor_pure _
  | some name => exact (composes_modify _).bind fun _ => failsFor_pure _

/-- A comma stands before every part in brackets but the first one. -/
theorem composes_separated (isFirst : Bool) {rest : Composer α} (hrest : Composes rest) :
    Composes (do
      if !isFirst then
        if (← peek) = some .comma then skip else malformed
      rest) := by
  refine .ite (composes_peek.bind fun _ => ?_) hrest
  exact .ite (composes_skip.bind fun _ => hrest) (failsFor_malformed.bind fun _ => hrest)

/-- What holds of every composer of nodes with the fuel. -/
structure AllCompose (fuel : Nat) : Prop where
  node (place : Place) : Composes (node place fuel)
  nodeUnless (stops : List Token) (place : Place) : Composes (nodeUnless stops place fuel)
  blockItems : Composes (blockItems fuel)
  openItems : Composes (openItems fuel)
  blockEntries : Composes (blockEntries fuel)
  blockValue : Composes (blockValue fuel)
  flowValue (close : Token) : Composes (flowValue close fuel)
  flowItems (isFirst : Bool) : Composes (flowItems isFirst fuel)
  flowEntries (isFirst : Bool) : Composes (flowEntries isFirst fuel)

variable {fuel : Nat} (hall : AllCompose fuel)

include hall

theorem composes_node (place : Place) : Composes (node place (fuel + 1)) := by
  have hseq (anchor tag : Option String) {items : Composer (List Node)} (hitems : Composes items) :
      Composes (do
        declare anchor
        keep anchor (.sequence (tagOr tag .sequence) (← items))) :=
    (composes_declare anchor).bind fun _ => hitems.bind fun _ => composes_keep anchor _
  have hmap (anchor tag : Option String) {entries : Composer (List (Node × Node))}
      (hentries : Composes entries) : Composes (do
        declare anchor
        keep anchor (.mapping (tagOr tag .mapping) (← entries))) :=
    (composes_declare anchor).bind fun _ => hentries.bind fun _ => composes_keep anchor _
  have hscalar (anchor : Option String) (node : Node) : Composes (do
      declare anchor
      keep anchor node) := (composes_declare anchor).bind fun _ => composes_keep anchor _
  rw [node]
  refine composes_peek.bind fun token => ?_
  split
  · refine composes_skip.bind fun _ => failsFor_get.bind fun r => ?_
    exact .ite (failsFor_pure _) failsFor_malformed
  · refine composes_properties.bind fun (anchor, tag) => ?_
    dsimp only
    refine composes_peek.bind fun token => ?_
    split
    · exact hseq anchor tag hall.openItems
    · exact composes_skip.bind fun _ => hscalar anchor _
    · exact composes_skip.bind fun _ => hseq anchor tag (hall.flowItems true)
    · exact composes_skip.bind fun _ => hmap anchor tag (hall.flowEntries true)
    · exact composes_skip.bind fun _ => hseq anchor tag hall.blockItems
    · exact composes_skip.bind fun _ => hseq anchor tag hall.blockItems
    · exact composes_skip.bind fun _ => hmap anchor tag hall.blockEntries
    · exact composes_skip.bind fun _ => hmap anchor tag hall.blockEntries
    · exact .ite failsFor_malformed (hscalar anchor _)

theorem composes_nodeUnless (stops : List Token) (place : Place) :
    Composes (nodeUnless stops place (fuel + 1)) := by
  rw [nodeUnless]
  exact (composes_isNext stops).bind fun _ => .ite (failsFor_pure _) (hall.node place)

theorem composes_blockItems : Composes (blockItems (fuel + 1)) := by
  rw [blockItems]
  refine composes_peek.bind fun token => ?_
  split
  · exact composes_skip.bind fun _ => (hall.nodeUnless _ _).bind fun _ =>
      hall.blockItems.bind fun _ => failsFor_pure _
  · exact composes_skip.bind fun _ => failsFor_pure _
  · exact failsFor_malformed

theorem composes_openItems : Composes (openItems (fuel + 1)) := by
  rw [openItems]
  refine composes_peek.bind fun token => ?_
  split
  · exact composes_skip.bind fun _ => (hall.nodeUnless _ _).bind fun _ =>
      hall.openItems.bind fun _ => failsFor_pure _
  · exact failsFor_pure _

theorem composes_blockEntries : Composes (blockEntries (fuel + 1)) := by
  rw [blockEntries]
  refine composes_peek.bind fun token => ?_
  split
  · exact composes_skip.bind fun _ => (hall.nodeUnless _ _).bind fun _ =>
      hall.blockValue.bind fun _ => hall.blockEntries.bind fun _ => failsFor_pure _
  · exact composes_skip.bind fun _ => failsFor_pure _
  · exact failsFor_malformed

theorem composes_blockValue : Composes (blockValue (fuel + 1)) := by
  rw [blockValue]
  refine composes_peek.bind fun token => ?_
  split
  · exact composes_skip.bind fun _ => hall.nodeUnless _ _
  · exact failsFor_pure _

theorem composes_flowValue (close : Token) : Composes (flowValue close (fuel + 1)) := by
  rw [flowValue]
  refine composes_peek.bind fun token => ?_
  split
  · exact composes_skip.bind fun _ => hall.nodeUnless _ _
  · exact failsFor_pure _

theorem composes_flowItems (isFirst : Bool) : Composes (flowItems isFirst (fuel + 1)) := by
  rw [flowItems]
  refine composes_peek.bind fun token => .ite (composes_skip.bind fun _ => failsFor_pure _) ?_
  refine composes_separated isFirst (composes_peek.bind fun token => ?_)
  split
  · exact composes_skip.bind fun _ => failsFor_pure _
  · exact composes_skip.bind fun _ => (hall.nodeUnless _ _).bind fun _ =>
      (hall.flowValue _).bind fun _ => (hall.flowItems false).bind fun _ => failsFor_pure _
  · exact (hall.node _).bind fun _ => (hall.flowItems false).bind fun _ => failsFor_pure _

theorem composes_flowEntries (isFirst : Bool) : Composes (flowEntries isFirst (fuel + 1)) := by
  rw [flowEntries]
  refine composes_peek.bind fun token => .ite (composes_skip.bind fun _ => failsFor_pure _) ?_
  refine composes_separated isFirst (composes_peek.bind fun token => ?_)
  split
  · exact composes_skip.bind fun _ => failsFor_pure _
  · exact composes_skip.bind fun _ => (hall.nodeUnless _ _).bind fun _ =>
      (hall.flowValue _).bind fun _ => (hall.flowEntries false).bind fun _ => failsFor_pure _
  · exact (hall.node _).bind fun _ => (hall.flowEntries false).bind fun _ => failsFor_pure _

omit hall

theorem allCompose (fuel : Nat) : AllCompose fuel := by
  -- All of them spend one fuel with each call, so one induction does for them together.
  induction fuel with
  | zero =>
    constructor <;> intros <;> exact failsFor_malformed
  | succ fuel ih => exact {
      node := composes_node ih
      nodeUnless := composes_nodeUnless ih
      blockItems := composes_blockItems ih
      openItems := composes_openItems ih
      blockEntries := composes_blockEntries ih
      blockValue := composes_blockValue ih
      flowValue := composes_flowValue ih
      flowItems := composes_flowItems ih
      flowEntries := composes_flowEntries ih }

theorem directives_ne_failed (versions : Nat) (handles : List (String × String))
    (tokens : List Token) (failure : Failure) :
    directives versions handles tokens ≠ .error (.failed failure) := by
  fun_induction directives versions handles tokens <;> simp_all

end Composer

/-- A text that has tokens has no document only because it breaks the rules of the language. -/
theorem Document.ofTokens_ne_failed (tokens : List Token) (failure : Failure) :
    ofTokens tokens ≠ .error (.failed failure) := by
  unfold ofTokens
  split
  · intro hempty
    cases hempty
  · extract_lets begins compose
    have hcompose (place : Reading) : compose place ≠ .error (.failed failure) := by
      refine bind_ne_error
        (((Composer.allCompose _).node .block place).failed failure) fun found => ?_
      dsimp only
      split <;> exact fun hfailed => by cases hfailed
    split
    · exact hcompose _
    · refine bind_ne_error (Composer.directives_ne_failed 0 [] tokens failure) fun found => ?_
      dsimp only
      split
      · split
        · split <;> exact fun hfailed => by cases hfailed
        · exact hcompose _
      · exact fun hfailed => by cases hfailed

end AllowPolicy.Yaml
