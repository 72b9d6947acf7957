import AllowPolicy.Screen.Layout
import Mathlib.Data.List.TakeWhile

namespace AllowPolicy.Screen

/-- No character of the text starts a mark or changes one. -/
def Plain (s : List Char) : Prop := ∀ c ∈ s, c ≠ '[' ∧ c ≠ '\\'

-- By the list: there are too many characters to look at them all.
instance : DecidablePred Plain := List.decidableBAll fun c => c ≠ '[' ∧ c ≠ '\\'

theorem markAt?_of_ne {c : Char} (hc : c ≠ '[') (rest : List Char) :
    markAt? (c :: rest) = none := by
  unfold markAt?
  split
  · rename_i heq
    cases heq
    exact absurd rfl hc
  · rfl

/-- Plain text is passed over, a character at a time. -/
theorem piecesWithin_append {front : List Char} (hplain : Plain front) (fuel : Nat)
    (passed rest : List Char) :
    piecesWithin (front.length + fuel) passed (front ++ rest) =
      piecesWithin fuel (front.reverse ++ passed) rest := by
  induction front generalizing passed with
  | nil => simp
  | cons c front ih =>
    obtain ⟨⟨hbracket, hslash⟩, hrest⟩ := List.forall_mem_cons.mp hplain
    have hlength : (c :: front).length + fuel = front.length + fuel + 1 := by
      simp only [List.length_cons]
      omega
    rw [hlength, List.cons_append, piecesWithin]
    simp only [List.takeWhile_cons, decide_eq_true_eq, if_neg hslash, List.length_nil,
      List.drop_zero, markAt?_of_ne hbracket, List.isEmpty_nil, if_true]
    rw [ih hrest, List.reverse_cons, List.append_assoc, List.singleton_append]

theorem piecesWithin_nil (fuel : Nat) (passed : List Char) :
    piecesWithin fuel passed [] = [.plain passed.reverse] := by
  cases fuel <;> simp [piecesWithin]

/-- A text without a bracket has no mark. -/
theorem piecesWithin_of_not_mem {s : List Char} (hnone : '[' ∉ s) (fuel : Nat)
    (passed : List Char) : ∃ text, piecesWithin fuel passed s = [.plain text] := by
  induction fuel generalizing passed s with
  | zero => exact ⟨_, rfl⟩
  | succ fuel ih =>
    cases s with
    | nil => exact ⟨_, rfl⟩
    | cons c rest =>
      have hmark (dropped : Nat) : markAt? ((c :: rest).drop dropped) = none := by
        cases hdrop : (c :: rest).drop dropped with
        | nil => rfl
        | cons d back =>
          have hmem : d ∈ (c :: rest).drop dropped := by rw [hdrop]; exact List.mem_cons_self
          refine markAt?_of_ne ?_ back
          rintro rfl
          exact hnone (List.mem_of_mem_drop hmem)
      simp only [piecesWithin, hmark]
      split
      · exact ih (fun hmem => hnone (List.mem_cons_of_mem c hmem)) _
      · exact ih (fun hmem => hnone (List.mem_of_mem_drop hmem)) _

/-- The name may stand in a mark. -/
def IsMark : List Char → Prop
  | c :: name => (('a' ≤ c && c ≤ 'z') || c = '#' || c = '/' || c = '@') = true ∧
      ∀ d ∈ name, d ≠ ']' ∧ d ≠ '['
  | [] => False

instance : DecidablePred IsMark
  | _ :: name => @instDecidableAnd _ _ _ (List.decidableBAll (fun d => d ≠ ']' ∧ d ≠ '[') name)
  | [] => inferInstanceAs (Decidable False)

theorem markAt?_append {name : List Char} (hname : IsMark name) (after : List Char) :
    markAt? ('[' :: name ++ ']' :: after) = some (name, after) := by
  cases name with
  | nil => cases hname
  | cons c name =>
    obtain ⟨hstart, hinner⟩ := hname
    have hpass : ∀ d ∈ name, (d ≠ ']' && d ≠ '[') = true := by simpa using hinner
    have htake : (name ++ ']' :: after).takeWhile (fun d => d ≠ ']' && d ≠ '[') = name := by
      rw [List.takeWhile_append_of_pos hpass]
      simp
    have hdrop : (name ++ ']' :: after).dropWhile (fun d => d ≠ ']' && d ≠ '[') = ']' :: after := by
      rw [List.dropWhile_append_of_pos hpass]
      simp
    rw [List.cons_append, List.cons_append, markAt?, if_pos hstart, htake, hdrop]
    rfl

/-- A mark ends the plain text before it. -/
theorem piecesWithin_mark {name : List Char} (hname : IsMark name) (fuel : Nat)
    (passed after : List Char) :
    piecesWithin (fuel + 1) passed ('[' :: name ++ ']' :: after) =
      .plain passed.reverse :: .plain [] :: .mark name :: piecesWithin fuel [] after := by
  have hslashes : ('[' :: (name ++ ']' :: after)).takeWhile (· = '\\') = [] := by simp
  have hmark := markAt?_append hname after
  rw [List.cons_append] at hmark ⊢
  rw [piecesWithin]
  simp only [hslashes, List.length_nil, List.drop_zero, hmark]
  rfl

/-- The parts can be shown: every closing mark closes one that is open. -/
def IsShown (opened : List String) (pieces : List Piece) : Prop :=
  ∃ shown, show? opened pieces = .ok shown

theorem isShown_nil (opened : List String) : IsShown opened [] := ⟨[], rfl⟩

variable {opened : List String} {rest : List Piece}

theorem IsShown.plain (hrest : IsShown opened rest) (text : List Char) :
    IsShown opened (.plain text :: rest) := by
  obtain ⟨shown, hrest⟩ := hrest
  refine ⟨depict (unescaped text) ++ shown, ?_⟩
  rw [show?, hrest]
  rfl

/-- The name is one for a mark that opens, and one for the mark that closes it again. -/
structure Pairs (name : List Char) : Prop where
  opens : IsMark name
  start : name.head? ≠ some '/'
  bare : '=' ∉ name
  solid : name.all isSpace = false
  trimmed : Text.trim isSpace name = name

instance (name : List Char) : Decidable (Pairs name) :=
  decidable_of_iff (IsMark name ∧ name.head? ≠ some '/' ∧ '=' ∉ name ∧ name.all isSpace = false ∧
      Text.trim isSpace name = name)
    ⟨fun ⟨hopens, hstart, hbare, hsolid, htrimmed⟩ => ⟨hopens, hstart, hbare, hsolid, htrimmed⟩,
      fun ⟨hopens, hstart, hbare, hsolid, htrimmed⟩ => ⟨hopens, hstart, hbare, hsolid, htrimmed⟩⟩

theorem nameOf_eq_self {name : List Char} (hbare : '=' ∉ name) : nameOf name = name := by
  rw [nameOf, List.takeWhile_eq_self_iff]
  intro c hc
  rw [decide_eq_true_eq]
  rintro rfl
  exact hbare hc

theorem show?_opening {name : List Char} (hpairs : Pairs name) (opened : List String)
    (rest : List Piece) :
    show? opened (.mark name :: rest) = show? (normal name :: opened) rest := by
  have hstart := hpairs.start
  simp only [show?, nameOf_eq_self hpairs.bare]
  split
  · simp at hstart
  · rfl

/-- The mark that was opened last is closed. -/
theorem show?_closing {name : List Char} (hpairs : Pairs name) (opened : List String)
    (rest : List Piece) :
    show? (normal name :: opened) (.mark ('/' :: name) :: rest) = show? opened rest := by
  have hbare : '=' ∉ '/' :: name := by simpa using hpairs.bare
  simp only [show?, nameOf_eq_self hbare, hpairs.solid, hpairs.trimmed, Bool.false_eq_true,
    if_false, List.contains_cons, BEq.rfl, Bool.true_or, if_true, List.erase_cons_head]

theorem IsShown.opening {name : List Char} (hpairs : Pairs name)
    (hrest : IsShown (normal name :: opened) rest) : IsShown opened (.mark name :: rest) := by
  obtain ⟨shown, hrest⟩ := hrest
  exact ⟨shown, (show?_opening hpairs opened rest).trans hrest⟩

theorem IsShown.closing {name : List Char} (hpairs : Pairs name) (hrest : IsShown opened rest) :
    IsShown (normal name :: opened) (.mark ('/' :: name) :: rest) := by
  obtain ⟨shown, hrest⟩ := hrest
  exact ⟨shown, (show?_closing hpairs opened rest).trans hrest⟩

theorem exists_print {marked : String} (hshown : IsShown [] (pieces marked.toList)) :
    ∃ text, print marked = .ok text := by
  obtain ⟨shown, hshown⟩ := hshown
  unfold print render
  split
  · rw [hshown]
    exact ⟨_, rfl⟩
  · exact ⟨_, rfl⟩

end AllowPolicy.Screen
