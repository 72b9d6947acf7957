import AllowPolicy.Screen.Pictograph.Table
import AllowPolicy.Text.Blank
import AllowPolicy.Text.Lowercase

namespace AllowPolicy.Screen

/-- The words of a text in pairs. -/
def pairs (text : String) : List (List Char × List Char) :=
  go ((text.toList.splitOnP (·.isWhitespace)).filter (· ≠ []))
where
  /-- Each word in an odd place with the word after it. -/
  go : List (List Char) → List (List Char × List Char)
    | name :: picture :: rest => (name, picture) :: go rest
    | _ => []

/-- The tones of skin and how they are shown. -/
def tones : List (String × Char) :=
  [("light", '🏻'), ("medium-light", '🏼'), ("medium", '🏽'), ("medium-dark", '🏾'), ("dark", '🏿')]

/-- The wish for the plain form of a picture. -/
def plainForm : Char := '\ufe0e'

/-- The wish for the coloured form of a picture. -/
def colouredForm : Char := '\ufe0f'

/-- A picture in a tone of skin, which stands behind its first character. A tone has a colour, so no
    wish for it is left there. -/
def withTone (tone : Char) : List Char → List Char
  | [] => []
  | c :: rest => c :: tone :: if rest.head? = some colouredForm then rest.tail else rest

/-- The picture in every tone, under its name with that tone. -/
def inTones : List Char × List Char → List (List Char × List Char)
  | (name, picture) => tones.map fun (tone, shown) =>
    (name ++ ("_" ++ tone ++ "_skin_tone").toList, withTone shown picture)

/-- The flag of a land: its letters as flag letters. -/
def flag (letters : List Char) : List Char :=
  letters.map fun c => .ofNat (0x1f1e6 + (c.toNat - 'a'.toNat))

/-- The flag of a part of a land: a black flag, and its letters as tags up to the closing one. -/
def regionFlag (letters : List Char) : List Char :=
  '🏴' :: (letters.map fun c => .ofNat (0xe0000 + c.toNat)) ++ [.ofNat 0xe007f]

/-- Pictures that may be written as their name between two colons. -/
def pictures : List (List Char × List Char) :=
  pairs plainPictures ++ pairs tonedPictures ++ (pairs tonedPictures).flatMap inTones ++
    (pairs lands).flatMap (fun (name, letters) =>
      [(name, flag letters), ("flag_for_".toList ++ name, flag letters)]) ++
    (pairs regions).map fun (name, letters) => (name, regionFlag letters)

/-- The picture of a name, in any case. The name may end in a wish for the plain or the coloured
    form. -/
def picture? (name : List Char) : Option (List Char) :=
  let find (name : List Char) : Option (List Char) := pictures.lookup (Text.lower name)
  let ending (wish : String) : Option (List Char) :=
    if wish.toList.isSuffixOf name then find (name.take (name.length - wish.length)) else none
  match ending "-text", ending "-emoji" with
  | some picture, _ => some (picture ++ [plainForm])
  | _, some picture => some (picture ++ [colouredForm])
  | _, _ => find name

/-- The name at the start of a text, up to a colon and without blanks, and what follows the
    colon. -/
def nameBefore? : List Char → Option (List Char × List Char)
  | [] => none
  | c :: rest =>
    if c = ':' then some ([], rest)
    else if c.isWhitespace || Text.isBlank c then none
    else (nameBefore? rest).map fun (name, after) => (c :: name, after)

theorem nameBefore?_shorter {s name after : List Char}
    (h : nameBefore? s = some (name, after)) : after.length < s.length := by
  induction s generalizing name with
  | nil => simp [nameBefore?] at h
  | cons c rest ih =>
    rw [nameBefore?] at h
    split at h
    · simp only [Option.some.injEq, Prod.mk.injEq] at h
      simp [← h.2]
    · split at h
      · simp at h
      · obtain ⟨⟨name', after'⟩, hrest, heq⟩ := Option.map_eq_some_iff.1 h
        simp only [Prod.mk.injEq] at heq
        have := ih (heq.2 ▸ hrest)
        simp only [List.length_cons]
        omega

/-- The text with pictures in place of their names. -/
def depict : List Char → List Char
  | [] => []
  | c :: rest =>
    if c = ':' then
      match _h : nameBefore? rest with
      | some (name, after) => ((picture? name).getD (':' :: name ++ [':'])) ++ depict after
      | none => c :: depict rest
    else c :: depict rest
termination_by s => s.length
decreasing_by
  all_goals simp only [List.length_cons]
  · have := nameBefore?_shorter _h
    omega
  all_goals omega

end AllowPolicy.Screen
