namespace AllowPolicy.Text

/-- The text before the first separator, and what follows that separator if there is one. -/
def cut (sep : Char) : List Char → List Char × Option (List Char)
  | [] => ([], none)
  | c :: rest =>
    if c = sep then ([], some rest)
    else
      let (front, back) := cut sep rest
      (c :: front, back)

/-- Putting the separator back between the two parts gives the text again. -/
theorem cut_eq_some {sep : Char} {s front back : List Char}
    (h : cut sep s = (front, some back)) : s = front ++ sep :: back := by
  induction s generalizing front with
  | nil => simp [cut] at h
  | cons c rest ih =>
    by_cases hc : c = sep
    · simp only [cut, hc, if_true, Prod.mk.injEq, Option.some.injEq] at h
      obtain ⟨rfl, rfl⟩ := h
      simp [hc]
    · simp only [cut, hc, if_false, Prod.mk.injEq] at h
      obtain ⟨rfl, hb⟩ := h
      have := @ih (cut sep rest).1 (by rw [← hb])
      simpa using this

/-- `s` without its longest run of trailing characters that satisfy `p`. -/
def dropTrailing (p : Char → Bool) (s : List Char) : List Char :=
  (s.reverse.dropWhile p).reverse

/-- `s` without its leading and trailing runs of characters that satisfy `p`. -/
def trim (p : Char → Bool) (s : List Char) : List Char :=
  dropTrailing p (s.dropWhile p)

/-- What follows `front` at the start of `s`. -/
def after? : (front s : List Char) → Option (List Char)
  | [], s => some s
  | _ :: _, [] => none
  | f :: front, c :: s => if f = c then after? front s else none

theorem after?_eq_some_iff {front s rest : List Char} :
    after? front s = some rest ↔ s = front ++ rest := by
  induction front generalizing s with
  | nil => simp [after?]
  | cons f front ih =>
    cases s with
    | nil => simp [after?]
    | cons c s =>
      by_cases h : f = c
      · simp [after?, h, ih]
      · simp [after?, h, Ne.symm h]

end AllowPolicy.Text
