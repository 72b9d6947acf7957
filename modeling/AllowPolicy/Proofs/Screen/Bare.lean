import AllowPolicy.Proofs.Screen.Plain

namespace AllowPolicy.Screen

/-- The screen takes every character of the text, and none is widened to blanks. -/
def Kept (s : List Char) : Prop := ∀ c ∈ s, c ≠ '\t' ∧ isDropped c = false

instance : DecidablePred Kept := List.decidableBAll fun c => c ≠ '\t' ∧ isDropped c = false

/-- The screen shows the text as it is written. -/
structure Bare (s : List Char) : Prop where
  plain : Plain s
  kept : Kept s
  /-- The name of a picture stands between two colons. -/
  colons : s.count ':' ≤ 1

theorem bare_nil : Bare [] := ⟨by simp [Plain], by simp [Kept], by simp⟩

instance (s : List Char) : Decidable (Bare s) :=
  decidable_of_iff (Plain s ∧ Kept s ∧ s.count ':' ≤ 1)
    ⟨fun ⟨hplain, hkept, hcolons⟩ => ⟨hplain, hkept, hcolons⟩,
      fun ⟨hplain, hkept, hcolons⟩ => ⟨hplain, hkept, hcolons⟩⟩

/-- A text without a colon may stand behind another. -/
theorem Bare.append {s t : List Char} (hs : Bare s) (ht : Bare t) (hnone : ':' ∉ t) :
    Bare (s ++ t) := by
  refine ⟨?_, ?_, ?_⟩
  · intro c hc
    exact (List.mem_append.mp hc).elim (hs.plain c) (ht.plain c)
  · intro c hc
    exact (List.mem_append.mp hc).elim (hs.kept c) (ht.kept c)
  · rw [List.count_append, List.count_eq_zero.mpr hnone]
    exact hs.colons

theorem nameBefore?_eq_none {s : List Char} (hnone : ':' ∉ s) : nameBefore? s = none := by
  induction s with
  | nil => rfl
  | cons c rest ih =>
    obtain ⟨hne, hrest⟩ := List.ne_and_not_mem_of_not_mem_cons hnone
    rw [nameBefore?, if_neg hne.symm, ih hrest]
    split <;> rfl

/-- A single colon names no picture. -/
theorem depict_eq_self {s : List Char} (hcolons : s.count ':' ≤ 1) : depict s = s := by
  induction s with
  | nil => rw [depict]
  | cons c rest ih =>
    by_cases hc : c = ':'
    · subst hc
      have hnone : ':' ∉ rest := by
        rw [List.count_cons_self] at hcolons
        exact List.count_eq_zero.mp (by omega)
      rw [depict, if_pos rfl]
      split
      · rename_i hname
        rw [nameBefore?_eq_none hnone] at hname
        cases hname
      · rw [ih (by rw [List.count_eq_zero.mpr hnone]; omega)]
    · rw [List.count_cons_of_ne hc] at hcolons
      rw [depict, if_neg hc, ih hcolons]

theorem unescaped_eq_self {s : List Char} (hplain : Plain s) : unescaped s = s := by
  induction s with
  | nil => rfl
  | cons c rest ih =>
    obtain ⟨⟨_, hslash⟩, hrest⟩ := List.forall_mem_cons.mp hplain
    rw [unescaped, ih hrest]
    rintro _ rfl
    exact absurd rfl hslash

theorem expandTabs_eq_self {s : List Char} (hnone : '\t' ∉ s) (column : Nat) :
    expandTabs column s = s := by
  induction s generalizing column with
  | nil => rfl
  | cons c rest ih =>
    obtain ⟨hne, hrest⟩ := List.ne_and_not_mem_of_not_mem_cons hnone
    rw [expandTabs, if_neg hne.symm, ih hrest]

/-- A piece of bare text is shown as it is. -/
theorem Bare.show?_plain {s : List Char} (hs : Bare s) (opened : List String) (rest : List Piece) :
    show? opened (.plain s :: rest) = (s ++ ·) <$> show? opened rest := by
  rw [show?, unescaped_eq_self hs.plain, depict_eq_self hs.colons]

/-- Bare text goes to the screen as it is, and the line ends there. -/
theorem Bare.print {s : List Char} (hs : Bare s) {marked : String}
    (hrender : show? [] (pieces marked.toList) = .ok s) (hmarks : '[' ∈ marked.toList) :
    print marked = .ok (String.ofList (s ++ ['\n'])) := by
  have hkept : s.filter (!isDropped ·) = s :=
    List.filter_eq_self.mpr fun c hc => by rw [(hs.kept c hc).2]; rfl
  have htabs : '\t' ∉ s := fun htab => (hs.kept '\t' htab).1 rfl
  rw [Screen.print, render, if_pos (List.contains_iff_mem.mpr hmarks), hrender]
  change Except.ok (String.ofList (expandTabs 0 (s.filter (!isDropped ·)) ++ ['\n'])) = _
  rw [hkept, expandTabs_eq_self htabs]

/-- Bare text in a mark, and bare text behind it. -/
theorem pieces_marked {name s t : List Char} (hpairs : Pairs name) (hcloses : IsMark ('/' :: name))
    (hs : Plain s) (ht : Plain t) :
    pieces ('[' :: name ++ ']' :: (s ++ ('[' :: ('/' :: name) ++ ']' :: t))) =
      [.plain [], .plain [], .mark name, .plain s, .plain [], .mark ('/' :: name), .plain t] := by
  have hlength : ('[' :: name ++ ']' :: (s ++ ('[' :: ('/' :: name) ++ ']' :: t))).length =
      s.length + (t.length + (2 * name.length + 3) + 1) + 1 := by
    simp only [List.cons_append, List.length_cons, List.length_append]
    omega
  have hback (fuel : Nat) : piecesWithin (t.length + fuel) [] t = [.plain t] := by
    have happend := piecesWithin_append ht fuel [] []
    rw [List.append_nil, List.append_nil, piecesWithin_nil, List.reverse_reverse] at happend
    exact happend
  rw [pieces, hlength, piecesWithin_mark hpairs.opens, piecesWithin_append hs,
    piecesWithin_mark hcloses, hback, List.append_nil, List.reverse_reverse]
  rfl

/-- What a mark is about is shown, and what stands behind it. -/
theorem print_marked {name : List Char} {s t marked : String} (hpairs : Pairs name)
    (hcloses : IsMark ('/' :: name)) (hs : Bare s.toList) (ht : Bare t.toList)
    (hnone : ':' ∉ t.toList)
    (hmarked : marked.toList =
      '[' :: name ++ ']' :: (s.toList ++ ('[' :: ('/' :: name) ++ ']' :: t.toList))) :
    print marked = .ok (s ++ t ++ "\n") := by
  have hend : show? [] [.plain t.toList] = .ok t.toList := by
    rw [ht.show?_plain]
    change Except.ok (t.toList ++ []) = _
    rw [List.append_nil]
  have hrender : show? [] (pieces marked.toList) = .ok (s.toList ++ t.toList) := by
    rw [hmarked, pieces_marked hpairs hcloses hs.plain ht.plain, bare_nil.show?_plain,
      bare_nil.show?_plain, show?_opening hpairs, hs.show?_plain, bare_nil.show?_plain,
      show?_closing hpairs, hend]
    rfl
  have hmarks : '[' ∈ marked.toList := by
    rw [hmarked]
    exact List.mem_cons_self
  rw [(hs.append ht hnone).print hrender hmarks]
  exact congrArg Except.ok (String.toList_injective (by simp))

end AllowPolicy.Screen
