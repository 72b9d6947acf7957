import AllowPolicy.Proofs.Value.Json

namespace AllowPolicy

namespace Value

open Json

/-- Between the members stands nothing but a comma and blanks. -/
structure JsonLayout.Blank (layout : JsonLayout) : Prop where
  opening : ∀ c ∈ layout.opening.toList, isSpace c = true
  separator : ∃ blank, layout.separator.toList = ',' :: blank ∧ ∀ c ∈ blank, isSpace c = true
  closing : ∀ c ∈ layout.closing.toList, isSpace c = true

theorem JsonLayout.blank_line : JsonLayout.line.Blank where
  opening := nofun
  separator := ⟨[' '], rfl, List.forall_mem_singleton.mpr rfl⟩
  closing := nofun

theorem JsonLayout.blank_indented (depth : Nat) : (JsonLayout.indented depth).Blank := by
  have hend (width : Nat) : ∀ c ∈ '\n' :: List.replicate width ' ', isSpace c = true := by
    intro c hc
    obtain rfl | hc := List.mem_cons.mp hc
    · rfl
    · rw [List.eq_of_mem_replicate hc]
      rfl
  refine ⟨?_, ⟨'\n' :: List.replicate (2 * depth + 2) ' ', ?_, hend _⟩, ?_⟩
  · simpa [indented] using hend (2 * depth + 2)
  · simp [indented]
  · simpa [indented] using hend (2 * depth)

/-- The members one after another, as they stand between the brackets. -/
def JsonLayout.inner (layout : JsonLayout) (members : List String) : List Char :=
  (layout.separator.intercalate members).toList

theorem JsonLayout.toList_join (layout : JsonLayout) (first last : String) {members : List String}
    (hne : members ≠ []) :
    (layout.join first last members).toList = first.toList ++
      (layout.opening.toList ++
        (layout.inner members ++ (layout.closing.toList ++ last.toList))) := by
  have hsome : ¬ members.isEmpty = true := by simpa using hne
  rw [join, if_neg hsome, inner]
  simp only [String.toList_append, List.append_assoc]

/-- What comes after a member is no digit. -/
theorem JsonLayout.Blank.head?_closing {layout : JsonLayout} (hblank : layout.Blank) {last : Char}
    (hlast : last.isDigit = false) (rest : List Char) :
    ∀ c ∈ (layout.closing.toList ++ last :: rest).head?, c.isDigit = false := by
  intro c hc
  rw [List.head?_append] at hc
  cases hclosing : layout.closing.toList.head? with
  | none =>
    rw [hclosing] at hc
    cases hc
    exact hlast
  | some first =>
    rw [hclosing] at hc
    obtain rfl : first = c := Option.some.inj hc
    have hspace := hblank.closing first (List.mem_of_head? hclosing)
    cases hdigit : first.isDigit with
    | false => rfl
    | true =>
      rw [isSpace_of_isDigit hdigit] at hspace
      cases hspace

theorem JsonLayout.Blank.skip_closing {layout : JsonLayout} (hblank : layout.Blank) {last : Char}
    (hlast : isSpace last = false) (rest : List Char) :
    skip (layout.closing.toList ++ last :: rest) = last :: rest := by
  rw [skip_append hblank.closing, skip_cons hlast]

variable [Surrogates]

/-- The text of a key. -/
def keyText : Value → String
  | .text s => s
  | key => key.literal

mutual

/-- What the text of a value says. Of numbers there are the integers only. -/
def json? : Value → Option Json
  | .null => some .null
  | .bool b => some (.bool b)
  | .int n => some (.int n)
  | .real _ => none
  | .text s => some (.string s)
  | .bytes content => some (.string (quotedBytes content))
  | .stamp shown => some (.string shown)
  | .list items => (jsonItems? items).map .list
  | .table entries => (jsonFields? entries).map .object

def jsonItems? : List Value → Option (List Json)
  | [] => some []
  | v :: rest => do return (← json? v) :: (← jsonItems? rest)

def jsonFields? : List (Value × Value) → Option (List (List Nat × Json))
  | [] => some []
  | (key, v) :: rest => do
    return (units (keyText key), ← json? v) ::
      (← jsonFields? rest)

end

/-- With so much fuel a reader takes back what was written. -/
structure Inverts (layout : Nat → JsonLayout) (fuel : Nat) : Prop where
  value : ∀ (v : Value) (json : Json) (depth : Nat) (rest : List Char), v.json? = some json →
    (writeJson layout depth v).toList.length < fuel → (∀ c ∈ rest.head?, c.isDigit = false) →
    readValue fuel ((writeJson layout depth v).toList ++ rest) = some (json, rest)
  items : ∀ (items : List Value) (jsons : List Json) (outer depth : Nat) (rest : List Char),
    items ≠ [] → jsonItems? items = some jsons →
    ((layout outer).inner (writeJsonItems layout depth items)).length + 1 < fuel →
    readItems fuel ((layout outer).inner (writeJsonItems layout depth items) ++
      ((layout outer).closing.toList ++ ']' :: rest)) = some (jsons, rest)
  fields : ∀ (entries : List (Value × Value)) (fields : List (List Nat × Json)) (outer depth : Nat)
      (rest : List Char), entries ≠ [] → jsonFields? entries = some fields →
    ((layout outer).inner (writeJsonEntries layout depth entries)).length + 1 < fuel →
    readFields fuel ((layout outer).inner (writeJsonEntries layout depth entries) ++
      ((layout outer).closing.toList ++ '\x7d' :: rest)) = some (fields, rest)

variable {layout : Nat → JsonLayout} {fuel : Nat}

theorem Inverts.list_succ (hinverts : Inverts layout fuel)
    (hblank : ∀ depth, (layout depth).Blank) {items : List Value} {jsons : List Json} {depth : Nat}
    (rest : List Char) (hjsons : jsonItems? items = some jsons)
    (hfuel : (writeJson layout depth (.list items)).toList.length < fuel + 1) :
    readValue (fuel + 1) ((writeJson layout depth (.list items)).toList ++ rest) =
      some (.list jsons, rest) := by
  cases items with
  | nil =>
    cases hjsons
    simp [writeJson, writeJsonItems, JsonLayout.join, readValue, skip, isSpace]
  | cons v items =>
    have hmembers : writeJsonItems layout (depth + 1) (v :: items) ≠ [] := by
      simp [writeJsonItems]
    rw [writeJson, (layout depth).toList_join _ _ hmembers] at hfuel ⊢
    have hitems := hinverts.items (v :: items) jsons depth (depth + 1) rest (by simp) hjsons (by
      simp only [List.length_append] at hfuel
      simp at hfuel ⊢
      omega)
    rw [← readItems_append (hblank depth).opening] at hitems
    rw [← readValue_list hitems]
    simp [List.append_assoc]

theorem Inverts.table_succ (hinverts : Inverts layout fuel)
    (hblank : ∀ depth, (layout depth).Blank) {entries : List (Value × Value)}
    {fields : List (List Nat × Json)} {depth : Nat} (rest : List Char)
    (hfields : jsonFields? entries = some fields)
    (hfuel : (writeJson layout depth (.table entries)).toList.length < fuel + 1) :
    readValue (fuel + 1) ((writeJson layout depth (.table entries)).toList ++ rest) =
      some (.object fields, rest) := by
  cases entries with
  | nil =>
    cases hfields
    simp [writeJson, writeJsonEntries, JsonLayout.join, readValue, skip, isSpace]
  | cons entry entries =>
    have hmembers : writeJsonEntries layout (depth + 1) (entry :: entries) ≠ [] := by
      simp [writeJsonEntries]
    rw [writeJson, (layout depth).toList_join _ _ hmembers] at hfuel ⊢
    have hread := hinverts.fields (entry :: entries) fields depth (depth + 1) rest (by simp)
      hfields (by
        simp only [List.length_append] at hfuel
        simp at hfuel ⊢
        omega)
    rw [← readFields_append (hblank depth).opening] at hread
    rw [← readValue_object hread]
    simp [List.append_assoc]

theorem Inverts.value_succ (hinverts : Inverts layout fuel)
    (hblank : ∀ depth, (layout depth).Blank) (v : Value) (json : Json) (depth : Nat)
    (rest : List Char) (hjson : v.json? = some json)
    (hfuel : (writeJson layout depth v).toList.length < fuel + 1)
    (hrest : ∀ c ∈ rest.head?, c.isDigit = false) :
    readValue (fuel + 1) ((writeJson layout depth v).toList ++ rest) = some (json, rest) := by
  cases v with
  | null =>
    cases hjson
    simp [writeJson, readValue, skip, isSpace, readWord]
  | bool b =>
    cases hjson
    cases b <;> simp [writeJson, readValue, skip, isSpace, readWord]
  | int n =>
    cases hjson
    exact readValue_toString fuel n hrest
  | real x => cases hjson
  | text s =>
    cases hjson
    exact readValue_jsonText fuel s rest
  | bytes content =>
    cases hjson
    exact readValue_jsonText fuel (quotedBytes content) rest
  | stamp shown =>
    cases hjson
    exact readValue_jsonText fuel shown rest
  | list items =>
    simp only [json?, Option.map_eq_some_iff] at hjson
    obtain ⟨jsons, hjsons, rfl⟩ := hjson
    exact hinverts.list_succ hblank rest hjsons hfuel
  | table entries =>
    simp only [json?, Option.map_eq_some_iff] at hjson
    obtain ⟨fields, hfields, rfl⟩ := hjson
    exact hinverts.table_succ hblank rest hfields hfuel

theorem Inverts.items_succ (hinverts : Inverts layout fuel)
    (hblank : ∀ depth, (layout depth).Blank) (items : List Value) (jsons : List Json)
    (outer depth : Nat) (rest : List Char) (hne : items ≠ [])
    (hjsons : jsonItems? items = some jsons)
    (hfuel : ((layout outer).inner (writeJsonItems layout depth items)).length + 1 < fuel + 1) :
    readItems (fuel + 1) ((layout outer).inner (writeJsonItems layout depth items) ++
      ((layout outer).closing.toList ++ ']' :: rest)) = some (jsons, rest) := by
  obtain ⟨v, items, rfl⟩ := List.exists_cons_of_ne_nil hne
  simp only [jsonItems?, Option.bind_eq_bind, Option.bind_eq_some_iff, Option.pure_def] at hjsons
  obtain ⟨json, hjson, more, hmore, hjsons⟩ := hjsons
  cases hjsons
  rw [JsonLayout.inner, String.toList_intercalate] at hfuel ⊢
  cases items with
  | nil =>
    cases hmore
    simp only [writeJsonItems, List.map_cons, List.map_nil, List.intercalate_singleton] at hfuel ⊢
    exact readItems_last
      (hinverts.value v json depth _ hjson (by omega) ((hblank outer).head?_closing rfl rest))
      ((hblank outer).skip_closing rfl rest)
  | cons w items =>
    obtain ⟨blank, hseparator, hspaces⟩ := (hblank outer).separator
    have hitems := hinverts.items (w :: items) more outer depth rest (by simp) hmore
    rw [JsonLayout.inner, String.toList_intercalate] at hitems
    simp only [writeJsonItems, List.map_cons, List.intercalate_cons_cons, hseparator,
      List.length_append, List.length_cons, List.append_assoc, List.cons_append] at hfuel hitems ⊢
    refine readItems_more (hinverts.value v json depth _ hjson (by omega) (by simp))
      (skip_cons rfl _) ?_
    rw [readItems_append hspaces]
    exact hitems (by omega)

theorem Inverts.fields_succ (hinverts : Inverts layout fuel)
    (hblank : ∀ depth, (layout depth).Blank) (entries : List (Value × Value))
    (fields : List (List Nat × Json)) (outer depth : Nat) (rest : List Char) (hne : entries ≠ [])
    (hfields : jsonFields? entries = some fields)
    (hfuel : ((layout outer).inner (writeJsonEntries layout depth entries)).length + 1 < fuel + 1) :
    readFields (fuel + 1) ((layout outer).inner (writeJsonEntries layout depth entries) ++
      ((layout outer).closing.toList ++ '\x7d' :: rest)) = some (fields, rest) := by
  obtain ⟨⟨key, v⟩, entries, rfl⟩ := List.exists_cons_of_ne_nil hne
  simp only [jsonFields?, Option.bind_eq_bind, Option.bind_eq_some_iff, Option.pure_def] at hfields
  obtain ⟨json, hjson, more, hmore, hfields⟩ := hfields
  cases hfields
  have hkey (rest : List Char) : readKey ((jsonKey key).toList ++ ':' :: rest) =
      some (units (keyText key), rest) := by
    cases key <;> exact readKey_jsonText _ rest
  have hcolon : ": ".toList = [':', ' '] := rfl
  have hspace : ∀ c ∈ [' '], isSpace c = true := List.forall_mem_singleton.mpr rfl
  rw [JsonLayout.inner, String.toList_intercalate] at hfuel ⊢
  cases entries with
  | nil =>
    cases hmore
    simp only [writeJsonEntries, List.map_cons, List.map_nil, List.intercalate_singleton,
      String.toList_append, hcolon, List.append_assoc, List.cons_append, List.nil_append,
      List.length_append, List.length_cons] at hfuel ⊢
    exact readFields_last (hkey _) ((readValue_append hspace fuel _).trans
      (hinverts.value v json depth _ hjson (by omega) ((hblank outer).head?_closing rfl rest)))
      ((hblank outer).skip_closing rfl rest)
  | cons other entries =>
    obtain ⟨blank, hseparator, hspaces⟩ := (hblank outer).separator
    have hentries := hinverts.fields (other :: entries) more outer depth rest (by simp) hmore
    rw [JsonLayout.inner, String.toList_intercalate] at hentries
    simp only [writeJsonEntries, List.map_cons, List.intercalate_cons_cons, hseparator,
      String.toList_append, hcolon, List.append_assoc, List.cons_append, List.nil_append,
      List.length_append, List.length_cons] at hfuel hentries ⊢
    refine readFields_more (hkey _) ((readValue_append hspace fuel _).trans
      (hinverts.value v json depth _ hjson (by omega) (by simp))) (skip_cons rfl _) ?_
    rw [readFields_append hspaces]
    exact hentries (by omega)

theorem inverts (hblank : ∀ depth, (layout depth).Blank) (fuel : Nat) : Inverts layout fuel := by
  induction fuel with
  | zero =>
    exact ⟨fun _ _ _ _ _ hfuel => absurd hfuel (Nat.not_lt_zero _),
      fun _ _ _ _ _ _ _ hfuel => absurd hfuel (Nat.not_lt_zero _),
      fun _ _ _ _ _ _ _ hfuel => absurd hfuel (Nat.not_lt_zero _)⟩
  | succ fuel ih => exact ⟨ih.value_succ hblank, ih.items_succ hblank, ih.fields_succ hblank⟩

/-- Whatever its layout, the text of a value says what the value says. Blanks after it do not
    matter. -/
theorem read_writeJson (hblank : ∀ depth, (layout depth).Blank) {v : Value} {json : Json}
    (hjson : v.json? = some json) {blank : String}
    (hblanks : blank.toList.all isSpace = true) :
    Json.read (writeJson layout 0 v ++ blank) = some json := by
  have hspaces := List.all_eq_true.mp hblanks
  have hhead : ∀ c ∈ blank.toList.head?, c.isDigit = false := by
    intro c hc
    cases hdigit : c.isDigit with
    | false => rfl
    | true =>
      have hspace := hspaces c (List.mem_of_head? hc)
      rw [isSpace_of_isDigit hdigit] at hspace
      cases hspace
  have hend : skip blank.toList = [] := by
    rw [← List.append_nil blank.toList, skip_append hspaces]
    rfl
  have hread := (inverts hblank ((writeJson layout 0 v ++ blank).toList.length + 1)).value v json 0
    blank.toList hjson (by simp only [String.toList_append, List.length_append]; omega) hhead
  rw [← String.toList_append] at hread
  simp only [Json.read, hread, hend, if_true]

/-- Values of one kind say things of one kind. -/
theorem json?_list_map {α : Type} {f : α → Value} {g : α → Json}
    (hjson : ∀ a, (f a).json? = some (g a)) (items : List α) :
    (Value.list (items.map f)).json? = some (.list (items.map g)) := by
  have hitems : jsonItems? (items.map f) = some (items.map g) := by
    induction items with
    | nil => rfl
    | cons a rest ih => simp [jsonItems?, hjson, ih]
  rw [json?, hitems]
  rfl

theorem json?_record_nil : (Value.record []).json? = some (.record []) := rfl

theorem json?_record_cons {key : String} {v : Value} {json : Json} (hjson : v.json? = some json)
    {entries : List (String × Value)} {fields : List (String × Json)}
    (hrest : (Value.record entries).json? = some (.record fields)) :
    (Value.record ((key, v) :: entries)).json? = some (.record ((key, json) :: fields)) := by
  simp only [Value.record, json?, Option.map_eq_some_iff, Json.record, Json.object.injEq,
    exists_eq_right] at hrest
  simp only [Value.record, json?, List.map_cons, jsonFields?, keyText, hjson, hrest]
  rfl

theorem json?_record_map {α : Type} {key : α → String} {f : α → Value} {g : α → Json}
    (hjson : ∀ a, (f a).json? = some (g a)) (items : List α) :
    (Value.record (items.map fun a => (key a, f a))).json? =
      some (.record (items.map fun a => (key a, g a))) := by
  induction items with
  | nil => rfl
  | cons a rest ih => exact json?_record_cons (hjson a) ih

theorem read_jsonLine {v : Value} {json : Json} (hjson : v.json? = some json) :
    Json.read (v.jsonLine ++ "\n") = some json :=
  read_writeJson (fun _ => JsonLayout.blank_line) hjson (by decide)

theorem read_jsonIndented {v : Value} {json : Json} (hjson : v.json? = some json) :
    Json.read (v.jsonIndented ++ "\n") = some json :=
  read_writeJson JsonLayout.blank_indented hjson (by decide)

end Value

end AllowPolicy
