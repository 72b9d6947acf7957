import AllowPolicy.Text.Quoted

namespace AllowPolicy

/-- The characters that stand for surrogates. A `String` holds none, so a text in which surrogates
    stand alone is written with characters for private use in their places, any that the text does
    not hold otherwise. Messages show such a character by its own number. -/
class Surrogates where
  /-- The number of the surrogate that a character stands for. -/
  number? : Char → Option Nat
  surrogate : ∀ c n, number? c = some n → 0xd800 ≤ n ∧ n < 0xe000
  aside : ∀ c n, number? c = some n → 0xf0000 ≤ c.toNat

/-- Usually no character stands for a surrogate. -/
instance Surrogates.usual : Surrogates where
  number? _ := none
  surrogate _ _ h := nomatch h
  aside _ _ h := nomatch h

namespace Text

/-- The character stands for a surrogate. -/
def isStandIn [Surrogates] (c : Char) : Bool := (Surrogates.number? c).isSome

/-- No surrogate stands alone in the text, so that it can be encoded. -/
def isWhole [Surrogates] (s : String) : Bool := s.toList.all (!isStandIn ·)

/-- Why a text cannot be encoded: the first run of surrogates in it. -/
def unencodable [Surrogates] (s : String) : String :=
  let before := (s.toList.takeWhile (!isStandIn ·)).length
  let what := match (s.toList.drop before).takeWhile isStandIn with
    | [c] => "character '\\u" ++ String.ofList (hexPadded 4 ((Surrogates.number? c).getD 0)) ++
      "' in position " ++ toString before
    | run => "characters in position " ++ toString before ++ "-" ++
      toString (before + run.length - 1)
  "'utf-8' codec can't encode " ++ what ++ ": surrogates not allowed"

/-- Without stand-ins every text is whole. -/
@[simp] theorem isWhole_usual (s : String) : isWhole s = true :=
  List.all_eq_true.mpr fun _ _ => rfl

theorem isWhole_append [Surrogates] (s t : String) :
    isWhole (s ++ t) = (isWhole s && isWhole t) := by
  simp [isWhole]

/-- A text is whole if it has no character for private use. -/
theorem isWhole_of_lt [Surrogates] {s : String}
    (hlow : s.toList.all (·.toNat < 0xf0000) = true) : isWhole s = true := by
  refine List.all_eq_true.mpr fun c hc => ?_
  cases hnumber : Surrogates.number? c with
  | none => simp [isStandIn, hnumber]
  | some n =>
    have hlt := of_decide_eq_true (List.all_eq_true.mp hlow c hc)
    exact absurd (Surrogates.aside c n hnumber) (Nat.not_le.mpr hlt)

/-- A text is whole if all its characters stand in a text that is. -/
theorem isWhole_of_subset [Surrogates] {s t : String} (hsub : t.toList ⊆ s.toList)
    (hwhole : isWhole s = true) : isWhole t = true :=
  List.all_eq_true.mpr fun c hc => List.all_eq_true.mp hwhole c (hsub hc)

end Text

end AllowPolicy
