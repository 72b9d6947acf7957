import AllowPolicy.Proofs.Command.Session
import AllowPolicy.Proofs.Decimal.Plain
import AllowPolicy.Proofs.Screen.Bare

namespace AllowPolicy.Command

open Run Screen

theorem mem_toString {n : Int} {c : Char} (hc : c ∈ (toString n).toList) :
    c = '-' ∨ c.isDigit = true := by
  have hdigit (hc : c ∈ Nat.toDigits 10 n.natAbs) : c.isDigit = true :=
    Nat.isDigit_of_mem_toDigits (by decide) (by decide) hc
  rw [Decimal.toList_toString] at hc
  split at hc
  · exact (List.mem_cons.mp hc).imp id hdigit
  · exact .inr (hdigit hc)

/-- A character that is neither a sign nor a digit does not stand in a number. -/
theorem not_mem_toString {c : Char} (hsign : c ≠ '-') (hdigit : c.isDigit = false) (n : Int) :
    c ∉ (toString n).toList := by
  intro hc
  rcases mem_toString hc with rfl | hc
  · exact hsign rfl
  · rw [hdigit] at hc
    cases hc

theorem isWhole_toString [Surrogates] (n : Int) : Text.isWhole (toString n) = true := by
  refine Text.isWhole_of_lt (List.all_eq_true.mpr fun c hc => decide_eq_true ?_)
  obtain rfl | hdigit := mem_toString hc
  · decide
  · obtain ⟨_, hmost⟩ := Text.toNat_of_isDigit hdigit
    omega

/-- A number is plain text. -/
theorem plain_toString (n : Int) : Plain (toString n).toList := by
  intro c hc
  constructor
  · rintro rfl
    exact not_mem_toString (by decide) (by decide) n hc
  · rintro rfl
    exact not_mem_toString (by decide) (by decide) n hc

theorem bare_toString (n : Int) : Bare (toString n).toList := by
  refine ⟨plain_toString n, fun c hc => ?_, ?_⟩
  · constructor
    · rintro rfl
      exact not_mem_toString (by decide) (by decide) n hc
    · cases hdropped : isDropped c with
      | false => rfl
      | true =>
        simp only [isDropped, Bool.or_eq_true, decide_eq_true_eq] at hdropped
        rcases hdropped with (((rfl | rfl) | rfl) | rfl) | rfl <;>
          exact absurd hc (not_mem_toString (by decide) (by decide) n)
  · rw [List.count_eq_zero.mpr (not_mem_toString (by decide) (by decide) n)]
    omega

/-- The sign of success stands in front of any text that can be shown. -/
theorem exists_print_success {s : String}
    (hshown : ∀ fuel, IsShown [] (piecesWithin (s.toList.length + fuel) [] s.toList)) :
    ∃ text, print (green "✓" ++ s) = .ok text := by
  have hpairs : Pairs "green".toList := by decide
  have hcloses : IsMark ('/' :: "green".toList) := by decide
  have hplain : Plain ['✓'] := by decide
  have hlist : (green "✓" ++ s).toList = '[' :: "green".toList ++ ']' ::
      (['✓'] ++ ('[' :: ('/' :: "green".toList) ++ ']' :: s.toList)) := by
    simp [green]
  have hlength : (green "✓" ++ s).toList.length =
      ['✓'].length + (s.toList.length + 13 + 1) + 1 := by
    simp [green]
    omega
  apply exists_print
  rw [pieces, hlength, hlist, piecesWithin_mark hpairs.opens, piecesWithin_append hplain,
    piecesWithin_mark hcloses]
  apply IsShown.plain
  apply IsShown.plain
  apply IsShown.opening hpairs
  apply IsShown.plain
  apply IsShown.plain
  exact (hshown 13).closing hpairs

/-- A text without a bracket can be shown behind the sign of success. -/
theorem exists_print_of_not_mem {s : String} (hnone : '[' ∉ s.toList) :
    ∃ text, print (green "✓" ++ s) = .ok text := by
  apply exists_print_success
  intro fuel
  obtain ⟨text, hpieces⟩ := piecesWithin_of_not_mem hnone (s.toList.length + fuel) []
  rw [hpieces]
  exact (isShown_nil []).plain text

/-- How it is said, in marks, that a rule is stored. -/
def storedMarks (id : Int) : String :=
  green "✓" ++ " Stored rule [bold]" ++ toString id ++ "[/bold]"

theorem exists_print_stored (id : Int) : ∃ text, print (storedMarks id) = .ok text := by
  have hpairs : Pairs "bold".toList := by decide
  have hcloses : IsMark ('/' :: "bold".toList) := by decide
  have hfront : Plain " Stored rule ".toList := by decide
  have hid := plain_toString id
  rw [storedMarks, String.append_assoc, String.append_assoc]
  apply exists_print_success
  intro fuel
  have hlist : (" Stored rule [bold]" ++ (toString id ++ "[/bold]")).toList =
      " Stored rule ".toList ++ ('[' :: "bold".toList ++ ']' ::
        ((toString id).toList ++ ('[' :: ('/' :: "bold".toList) ++ ']' :: []))) := by
    simp
  have hlength : (" Stored rule [bold]" ++ (toString id ++ "[/bold]")).toList.length + fuel =
      " Stored rule ".toList.length + ((toString id).toList.length + (fuel + 11 + 1) + 1) := by
    simp
    omega
  rw [hlength, hlist, piecesWithin_append hfront, piecesWithin_mark hpairs.opens,
    piecesWithin_append hid, piecesWithin_mark hcloses, piecesWithin_nil]
  apply IsShown.plain
  apply IsShown.plain
  apply IsShown.opening hpairs
  apply IsShown.plain
  apply IsShown.plain
  exact ((isShown_nil []).plain _).closing hpairs

/-- How it is said, in marks, that a rule is in or out of force. -/
def switchedMarks (id : Int) (enacted : Bool) : String :=
  green "✓" ++ " Rule " ++ toString id ++ (if enacted then " enacted" else " disabled")

/-- A console shows what a command says of itself in marks of its own. -/
structure ShowsOwn [Surrogates] [Console] : Prop where
  /-- The sign of success can be shown before any text without a mark that can be encoded. -/
  success : ∀ s : String, '[' ∉ s.toList → Text.isWhole s = true → Displays (green "✓" ++ s)
  stored : ∀ id : Int, Displays (storedMarks id)

/-- The screen does, as long as no character stands for a surrogate. -/
theorem showsOwn_usual : ShowsOwn where
  success s hnone _ := by
    rw [Displays, print_usual]
    exact exists_print_of_not_mem hnone
  stored id := by
    rw [Displays, print_usual]
    exact exists_print_stored id

/-- How a rule is said to be in or out of force. -/
def switchedLine (id : Int) (enacted : Bool) : String :=
  "✓ Rule " ++ toString id ++ (if enacted then " enacted" else " disabled") ++ "\n"

theorem print_switched (id : Int) (enacted : Bool) :
    print (switchedMarks id enacted) = .ok (switchedLine id enacted) := by
  have hid : ':' ∉ (toString id).toList := not_mem_toString (by decide) (by decide) id
  have hword : Bare (if enacted then " enacted" else " disabled").toList ∧
      ':' ∉ (if enacted then " enacted" else " disabled").toList := by
    cases enacted <;> decide
  have hpairs : Pairs "green".toList := by decide
  have hsign : Bare "✓".toList := by decide
  have hfront : Bare " Rule ".toList := by decide
  have hbare := (hfront.append (bare_toString id) hid).append hword.1 hword.2
  have hnone : ':' ∉ " Rule ".toList := by decide
  have hline : switchedLine id enacted =
      "✓" ++
        (" Rule " ++ toString id ++ (if enacted then " enacted" else " disabled")) ++ "\n" := by
    have hsplit : "✓ Rule " = "✓" ++ " Rule " := rfl
    simp only [switchedLine, hsplit, String.append_assoc]
  rw [hline]
  refine print_marked hpairs (by decide) hsign
    (t := " Rule " ++ toString id ++ (if enacted then " enacted" else " disabled")) ?_ ?_ ?_
  · rwa [String.toList_append, String.toList_append]
  · simp only [String.toList_append, List.mem_append, not_or]
    exact ⟨⟨hnone, hid⟩, hword.2⟩
  · simp [switchedMarks, green]

/-- How a rule is said not to be there. -/
def unknownLine (id : Int) : String := "Rule not found: " ++ toString id ++ "\n"

theorem print_unknown (id : Int) :
    print (red ("Rule not found: " ++ toString id)) = .ok (unknownLine id) := by
  have hid : ':' ∉ (toString id).toList := not_mem_toString (by decide) (by decide) id
  have hfront : Bare "Rule not found: ".toList := by decide
  have hbare : Bare ("Rule not found: " ++ toString id).toList := by
    rw [String.toList_append]
    exact hfront.append (bare_toString id) hid
  have hpairs : Pairs "red".toList := by decide
  have hred : (red ("Rule not found: " ++ toString id)).toList = '[' :: "red".toList ++ ']' ::
      (("Rule not found: " ++ toString id).toList ++
        ('[' :: ('/' :: "red".toList) ++ ']' :: "".toList)) := by
    simp [red]
  have hprint := print_marked (t := "") hpairs (by decide) hbare bare_nil List.not_mem_nil hred
  rw [String.append_empty] at hprint
  exact hprint

end AllowPolicy.Command
