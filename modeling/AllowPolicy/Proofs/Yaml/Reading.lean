import AllowPolicy.Proofs.Lookup
import AllowPolicy.Proofs.Yaml.Cause
import AllowPolicy.Yaml.Token.Tag

namespace AllowPolicy.Yaml

/-- A number in a text that is too large where it stands, and the failure that it brings on: that of
    a character beyond Unicode behind a backslash, or of a version with too many digits. -/
inductive Oversize (text : List Char) : Failure → Prop
  | escape {front digits back failure} (htext : text = front ++ '\\' :: 'U' :: (digits ++ back))
      (hlength : digits.length = 8) (hdigits : digits.all Reader.isHexDigit)
      (hfailed : Reader.charOf (Reader.hexValue digits) = .error (.failed failure)) :
      Oversize text failure
  | version {front digits back failure} (htext : text = front ++ (digits ++ back))
      (hdigits : digits.all Char.isDigit) (hmany : Decimal.mostDigits < digits.length)
      (hfailed : .tooManyDigits digits.length = Problem.failed failure) :
      Oversize text failure

theorem Oversize.of_suffix {text rest : List Char} (hsuffix : rest <:+ text) {failure : Failure}
    (hoversize : Oversize rest failure) : Oversize text failure := by
  obtain ⟨before, rfl⟩ := hsuffix
  cases hoversize with
  | escape htext hlength hdigits hfailed =>
    exact .escape (by rw [htext, ← List.append_assoc]) hlength hdigits hfailed
  | version htext hdigits hmany hfailed =>
    exact .version (by rw [htext, ← List.append_assoc]) hdigits hmany hfailed

theorem Cursor.rest_step (cursor : Cursor) : cursor.step.rest = cursor.rest.tail := by
  unfold step
  split <;> simp_all

theorem Cursor.rest_drop (cursor : Cursor) (n : Nat) :
    (cursor.drop n).rest = cursor.rest.drop n := by
  induction n generalizing cursor with
  | zero => rfl
  | succ n ih => rw [drop, ih, rest_step, List.drop_tail]

namespace Reader

variable {α : Type}

/-- A value that cannot be read is one of the numbers that are too large, further on in the text. -/
abbrev Reads (reader : Reader α) : Prop :=
  FailsFor (fun cursor => Oversize cursor.rest) reader

theorem reads_advance (n : Nat) : Reads (advance n) :=
  failsFor_modify fun cursor _ hoversize =>
    hoversize.of_suffix (cursor.rest_drop n ▸ List.drop_suffix n cursor.rest)

theorem reads_peek : Reads peek := failsFor_get.bind fun _ => failsFor_pure _

theorem reads_takeWhile (p : Char → Bool) : Reads (takeWhile p) :=
  failsFor_get.bind fun _ => (reads_advance _).bind fun _ => failsFor_pure _

theorem reads_lineBreak? : Reads lineBreak? := by
  refine failsFor_get.bind fun cursor => ?_
  split
  · exact (reads_advance 2).bind fun _ => failsFor_pure _
  · split
    · exact (reads_advance 1).bind fun _ => failsFor_pure _
    · exact failsFor_pure _
  · exact failsFor_pure _

theorem reads_restOfLine : Reads restOfLine := by
  have hend : Reads (do
      if endsLine (← peek) then
        let _ ← lineBreak?
      else malformed) := by
    refine reads_peek.bind fun c => ?_
    split
    · exact reads_lineBreak?.bind fun _ => failsFor_pure _
    · exact failsFor_malformed
  refine (reads_takeWhile _).bind fun _ => reads_peek.bind fun c => ?_
  split
  · exact (reads_takeWhile _).bind fun _ => hend
  · exact hend

theorem reads_hexDigits (n : Nat) : Reads (hexDigits n) := by
  refine failsFor_get.bind fun cursor => ?_
  dsimp only
  split
  · exact (reads_advance n).bind fun _ => failsFor_pure _
  · exact failsFor_malformed

theorem hexDigit_lt {c : Char} (hdigit : isHexDigit c) :
    (if c.isDigit then c.toNat - 48 else c.toLower.toNat - 87) < 16 := by
  split
  · rename_i hdecimal
    have hmost : c.toNat ≤ '9'.toNat := (Char.isDigit_iff_toNat.mp hdecimal).2
    have : '9'.toNat = 57 := rfl
    omega
  · rename_i hletter
    simp only [isHexDigit, hletter, Bool.false_or, Bool.and_eq_true, decide_eq_true_eq] at hdigit
    have hmost : c.toLower.toNat ≤ 'f'.toNat := hdigit.2
    have : 'f'.toNat = 102 := rfl
    omega

theorem hexValue_lt {digits : List Char} (hdigits : digits.all isHexDigit) :
    hexValue digits < Nat.pow 16 digits.length := by
  have hfold (n : Nat) : digits.foldl (fun n c =>
      16 * n + (if c.isDigit then c.toNat - 48 else c.toLower.toNat - 87)) n <
      Nat.pow 16 digits.length * (n + 1) := by
    induction digits generalizing n with
    | nil => simp
    | cons c rest ih =>
      simp only [List.all_cons, Bool.and_eq_true] at hdigits
      have hdigit := hexDigit_lt hdigits.1
      refine Nat.lt_of_lt_of_le (ih hdigits.2 _) ?_
      have hpower : Nat.pow 16 (c :: rest).length = Nat.pow 16 rest.length * 16 := rfl
      rw [hpower, Nat.mul_assoc]
      exact Nat.mul_le_mul_left _ (by dsimp only; omega)
  have hvalue := hfold 0
  rwa [Nat.zero_add, Nat.mul_one] at hvalue

theorem reads_quotedBreaks (fuel : Nat) : Reads (quotedBreaks fuel) := by
  induction fuel with
  | zero => exact failsFor_pure _
  | succ fuel ih =>
    refine failsFor_get.bind fun cursor => ?_
    split
    · exact failsFor_malformed
    · refine (reads_takeWhile _).bind fun _ => reads_lineBreak?.bind fun found => ?_
      cases found with
      | some c => exact ih.bind fun _ => failsFor_pure _
      | none => exact failsFor_pure _

theorem reads_quotedSpaces (fuel : Nat) : Reads (quotedSpaces fuel) := by
  refine (reads_takeWhile _).bind fun gaps => failsFor_get.bind fun cursor => ?_
  split
  · exact failsFor_malformed
  · refine reads_lineBreak?.bind fun found => ?_
    cases found with
    | some first => exact (reads_quotedBreaks fuel).bind fun _ => failsFor_pure _
    | none => exact failsFor_pure _

theorem run_hexDigits_eq_ok {n code : Nat} {cursor after : Cursor}
    (hok : (hexDigits n).run cursor = .ok (code, after)) :
    ∃ digits, cursor.rest = digits ++ after.rest ∧ digits.length = n ∧ digits.all isHexDigit ∧
      code = hexValue digits := by
  change (if _ then _ else _ : Reader Nat).run cursor = _ at hok
  split at hok
  · rename_i hdigits
    cases hok
    refine ⟨cursor.rest.take n, ?_, hdigits.1, hdigits.2, rfl⟩
    rw [Cursor.rest_drop, List.take_append_drop]
  · cases hok

theorem of_lookup_numericEscapes {c : Char} {n : Nat} (hfound : numericEscapes.lookup c = some n) :
    n ≤ 4 ∨ c = 'U' ∧ n = 8 := by
  simp only [numericEscapes, lookup_cons_eq_ite] at hfound
  split at hfound
  · cases hfound
    exact .inl (by decide)
  · split at hfound
    · cases hfound
      exact .inl (by decide)
    · split at hfound
      · rename_i hletter
        cases hfound
        exact .inr ⟨hletter, rfl⟩
      · cases hfound

/-- A number that is no character takes more than five hexadecimal digits. -/
theorem lt_length_of_charOf {digits : List Char} {problem : Problem}
    (hdigits : digits.all isHexDigit)
    (hfailed : charOf (hexValue digits) = .error problem) : 5 < digits.length := by
  refine Nat.lt_of_not_le fun hshort => ?_
  have hvalue := hexValue_lt hdigits
  have hpower : Nat.pow 16 digits.length ≤ Nat.pow 16 5 :=
    Nat.pow_le_pow_right (by decide) (by omega)
  have hmost : Nat.pow 16 5 < 0x110000 := by decide
  rw [charOf, if_pos (by omega)] at hfailed
  cases hfailed

/-- Behind a backslash, only a character beyond Unicode cannot be read. -/
theorem blames_escape (fuel : Nat) (cursor : Cursor) :
    Blames (fun cursor => Oversize cursor.rest) (Oversize ('\\' :: cursor.rest)) (escape fuel)
      cursor := by
  have hcheap {α : Type} {reader : Reader α} (hreads : Reads reader) :
      Blames (fun cursor => Oversize cursor.rest) (Oversize ('\\' :: cursor.rest)) reader cursor :=
    hreads.blames fun _ hoversize => hoversize.of_suffix (List.suffix_cons _ _)
  unfold escape
  refine .bind nofun fun c after hok => ?_
  cases hok
  split
  · exact hcheap failsFor_malformed
  · rename_i c hpeek
    split
    · exact hcheap ((reads_advance 1).bind fun _ => failsFor_pure _)
    · rename_i n hnone hnumeric
      refine .bind nofun fun _ after hok => ?_
      cases hok
      refine .bind (fun failure hfailed => ?_) fun code after hok => ?_
      · refine ((reads_hexDigits n _).failed failure hfailed).of_suffix ?_
        exact ((cursor.rest_drop 1) ▸ List.drop_suffix 1 _).trans (List.suffix_cons _ _)
      · obtain ⟨digits, hrest, hlength, hdigits, rfl⟩ := run_hexDigits_eq_ok hok
        obtain ⟨rest, hcursor⟩ := List.head?_eq_some_iff.mp hpeek
        rw [Cursor.rest_drop, hcursor, List.drop_one, List.tail_cons] at hrest
        rw [hrest] at hcursor
        cases hchar : charOf (hexValue digits) with
        | error problem =>
          have hlong := lt_length_of_charOf hdigits hchar
          obtain hshort | ⟨rfl, rfl⟩ := of_lookup_numericEscapes hnumeric
          · omega
          · refine .bind (fun failure hfailed => ?_) nofun
            cases hfailed
            have htext : '\\' :: cursor.rest = [] ++ '\\' :: 'U' :: (digits ++ after.rest) := by
              rw [hcursor, List.nil_append]
            exact .escape htext hlength hdigits hchar
        | ok found =>
          refine (failsFor_pure [found]).blames fun _ hoversize => hoversize.of_suffix ?_
          exact ⟨'\\' :: c :: digits, by rw [hcursor]; rfl⟩
    · refine hcheap (reads_lineBreak?.bind fun found => ?_)
      cases found with
      | some _ => exact reads_quotedBreaks fuel
      | none => exact failsFor_malformed

theorem reads_quotedRest (quote : Char) (fuel : Nat) : Reads (quotedRest quote fuel) := by
  induction fuel with
  | zero => exact failsFor_malformed
  | succ fuel ih =>
    refine failsFor_get_bind fun cursor => ?_
    have hrest (front : List Char) : Reads (do return front ++ (← quotedRest quote fuel)) :=
      ih.bind fun _ => failsFor_pure _
    split
    · exact failsFor_malformed cursor
    · rename_i c rest hcursor
      split
      · split
        · exact ((reads_advance 2).bind fun _ => ih.bind fun _ => failsFor_pure _) cursor
        · exact ((reads_advance 1).bind fun _ => failsFor_pure _) cursor
      · split
        · exact ((reads_quotedSpaces fuel).bind fun _ => ih.bind fun _ => failsFor_pure _) cursor
        · split
          · rename_i hescape
            refine .bind (reads_advance 1 cursor).failed fun _ after hok => ?_
            cases hok
            obtain ⟨_, rfl⟩ := hescape
            -- The backslash is taken by now; as a cause it stands in front of what is left.
            have hblames := blames_escape fuel (cursor.drop 1)
            rw [Cursor.rest_drop, hcursor] at hblames
            refine .bind (fun failure hfailed => hcursor ▸ hblames.failed failure hfailed)
              fun meaning after hok => ?_
            exact (hrest meaning).blames fun failure hoversize =>
              hcursor ▸ hblames.left meaning after hok failure hoversize
          · exact ((reads_advance 1).bind fun _ => ih.bind fun _ => failsFor_pure _) cursor

theorem reads_quoted (quote : Char) : Reads (quoted quote) :=
  (reads_advance 1).bind fun _ => failsFor_get.bind fun _ =>
    (reads_quotedRest quote _).bind fun _ => failsFor_pure _

theorem reads_plainBreaks (fuel : Nat) : Reads (plainBreaks fuel) := by
  induction fuel with
  | zero => exact failsFor_pure _
  | succ fuel ih =>
    refine failsFor_get.bind fun cursor => ?_
    split
    · exact failsFor_pure _
    · refine (reads_takeWhile _).bind fun _ => reads_lineBreak?.bind fun found => ?_
      cases found with
      | some c => exact ih.bind fun _ => failsFor_pure _
      | none => exact failsFor_pure _

theorem reads_plainSpaces (fuel : Nat) : Reads (plainSpaces fuel) := by
  refine (reads_takeWhile _).bind fun gaps => reads_lineBreak?.bind fun found => ?_
  cases found with
  | none => exact failsFor_pure _
  | some first =>
    refine (reads_plainBreaks fuel).bind fun others => ?_
    cases others <;> exact failsFor_pure _

theorem reads_plainRuns (inFlow : Bool) (indent : Int) (fuel : Nat) :
    Reads (plainRuns inFlow indent fuel) := by
  induction fuel with
  | zero => exact failsFor_pure _
  | succ fuel ih =>
    refine failsFor_get.bind fun cursor =>
      failsFor_get.bind fun _ => (reads_advance _).bind fun _ =>
      (reads_plainSpaces fuel).bind fun _ => failsFor_get.bind fun here => ?_
    split
    · exact failsFor_pure _
    · exact ih.bind fun _ => failsFor_pure _

theorem reads_plain (inFlow : Bool) (indent : Int) : Reads (plain inFlow indent) :=
  failsFor_get.bind fun _ => (reads_plainRuns inFlow indent _).bind fun _ => failsFor_pure _

theorem reads_chomping? : Reads chomping? := by
  refine reads_peek.bind fun c => ?_
  split
  · exact (reads_advance 1).bind fun _ => failsFor_pure _
  · exact (reads_advance 1).bind fun _ => failsFor_pure _
  · exact failsFor_pure _

theorem reads_increment? : Reads increment? := by
  refine reads_peek.bind fun found => ?_
  cases found with
  | none => exact failsFor_pure _
  | some c =>
    dsimp only
    split
    · split
      · exact failsFor_malformed
      · exact (reads_advance 1).bind fun _ => failsFor_pure _
    · exact failsFor_pure _

theorem reads_blockHead : Reads blockHead := by
  have hend (late early : Option Chomping) (increment : Option Nat) : Reads (do
      if endsWord (← peek) then
        restOfLine
        pure ((early.or late).getD .clip, increment)
      else malformed) := by
    refine reads_peek.bind fun c => ?_
    split
    · exact reads_restOfLine.bind fun _ => failsFor_pure _
    · exact failsFor_malformed
  refine reads_chomping?.bind fun early => reads_increment?.bind fun increment => ?_
  split
  · exact reads_chomping?.bind fun late => hend late early increment
  · exact hend none early increment

theorem reads_leadingBreaks (deepest fuel : Nat) : Reads (leadingBreaks deepest fuel) := by
  induction fuel generalizing deepest with
  | zero => exact failsFor_pure _
  | succ fuel ih =>
    refine reads_peek.bind fun c => ?_
    split
    · exact (reads_takeWhile _).bind fun _ => failsFor_get.bind fun _ => ih _
    · refine reads_lineBreak?.bind fun found => ?_
      cases found with
      | some c => exact (ih deepest).bind fun _ => failsFor_pure _
      | none => exact failsFor_pure _

theorem reads_indentTo (column : Nat) : Reads (indentTo column) :=
  failsFor_get.bind fun _ => reads_advance _

theorem reads_blockBreaks (indent fuel : Nat) : Reads (blockBreaks indent fuel) := by
  induction fuel with
  | zero => exact failsFor_pure _
  | succ fuel ih =>
    refine (reads_indentTo indent).bind fun _ => reads_lineBreak?.bind fun found => ?_
    cases found with
    | some c => exact ih.bind fun _ => failsFor_pure _
    | none => exact failsFor_pure _

theorem reads_blockLines (folded : Bool) (chomping : Chomping) (indent : Nat)
    (before : List Char) (fuel : Nat) : Reads (blockLines folded chomping indent before fuel) := by
  induction fuel generalizing before with
  | zero => exact failsFor_malformed
  | succ fuel ih =>
    refine reads_peek.bind fun c => (reads_takeWhile _).bind fun line =>
      reads_lineBreak?.bind fun first => (reads_blockBreaks indent fuel).bind fun breaks =>
      failsFor_get.bind fun here => ?_
    dsimp only
    split
    · exact (ih breaks).bind fun _ => failsFor_pure _
    · exact failsFor_pure _

theorem reads_block (folded : Bool) (outer : Int) : Reads (block folded outer) := by
  have hlines (chomping : Chomping) (fuel : Nat) (breaks : List Char) (indent : Nat) : Reads (do
      let here ← get
      if here.column = indent && !here.rest.isEmpty then
        return String.ofList (← blockLines folded chomping indent breaks fuel)
      else
        pure (String.ofList (if chomping = .keep then breaks else []))) := by
    refine failsFor_get.bind fun here => ?_
    split
    · exact (reads_blockLines folded chomping indent breaks fuel).bind fun _ => failsFor_pure _
    · exact failsFor_pure _
  refine (reads_advance 1).bind fun _ => reads_blockHead.bind fun (chomping, increment) =>
    failsFor_get.bind fun here => ?_
  cases increment with
  | some n => exact (reads_blockBreaks _ _).bind fun breaks => hlines chomping _ breaks _
  | none => exact (reads_leadingBreaks 0 _).bind fun (breaks, deepest) => hlines chomping _ breaks _

theorem reads_percentBytes (fuel : Nat) : Reads (percentBytes fuel) := by
  induction fuel with
  | zero => exact failsFor_pure _
  | succ fuel ih =>
    refine reads_peek.bind fun c => ?_
    split
    · exact (reads_advance 1).bind fun _ => (reads_hexDigits 2).bind fun _ =>
        ih.bind fun _ => failsFor_pure _
    · exact failsFor_pure _

theorem reads_tagChars (fuel : Nat) : Reads (tagChars fuel) := by
  induction fuel with
  | zero => exact failsFor_pure _
  | succ fuel ih =>
    refine reads_peek.bind fun c => ?_
    split
    · refine (reads_percentBytes fuel).bind fun bytes => ?_
      split
      · exact ih.bind fun _ => failsFor_pure _
      · exact failsFor_malformed
    · split
      · exact (reads_advance 1).bind fun _ => ih.bind fun _ => failsFor_pure _
      · exact failsFor_pure _
    · exact failsFor_pure _

theorem reads_tagText : Reads tagText := by
  refine failsFor_get.bind fun _ => (reads_tagChars _).bind fun chars => ?_
  split
  · exact failsFor_malformed
  · exact failsFor_pure _

theorem reads_tagHandle : Reads tagHandle := by
  refine failsFor_get.bind fun cursor => ?_
  split
  · split
    · exact (reads_advance 1).bind fun _ => failsFor_pure _
    · dsimp only
      split
      · exact (reads_advance _).bind fun _ => failsFor_pure _
      · exact failsFor_malformed
  · exact failsFor_malformed

theorem reads_tag : Reads tag := by
  have hend (token : Token) : Reads (do
      if endsWord (← peek) then pure token else malformed) := by
    refine reads_peek.bind fun c => ?_
    split
    · exact failsFor_pure _
    · exact failsFor_malformed
  refine failsFor_get.bind fun here => ?_
  split
  · refine (reads_advance 2).bind fun _ =>
      reads_tagText.bind fun suffix => reads_peek.bind fun c => ?_
    split
    · exact (reads_advance 1).bind fun _ => hend _
    · exact failsFor_malformed
  · split
    · exact (reads_advance 1).bind fun _ => hend _
    · split
      · exact reads_tagHandle.bind fun _ => reads_tagText.bind fun _ => hend _
      · exact (reads_advance 1).bind fun _ => reads_tagText.bind fun _ => hend _

theorem reads_anchorName : Reads anchorName := by
  have hend (name : List Char) (ends : Bool) : Reads (do
      if !name.isEmpty && ends then pure (String.ofList name) else malformed) := by
    split
    · exact failsFor_pure _
    · exact failsFor_malformed
  exact (reads_advance 1).bind fun _ => (reads_takeWhile _).bind fun name =>
    reads_peek.bind fun c => by cases c <;> exact hend name _

/-- A number cannot be read only if it has too many digits. -/
theorem reads_digits : Reads digits := by
  intro cursor
  refine .bind nofun fun run after hok => ?_
  cases hok
  have hrest : cursor.rest = [] ++ (cursor.rest.takeWhile Char.isDigit ++
      cursor.rest.dropWhile Char.isDigit) := List.takeWhile_append_dropWhile.symm
  split
  · exact ⟨nofun, nofun⟩
  · split
    · rename_i hmany
      refine ⟨fun failure hfailed => ?_, nofun⟩
      exact .version hrest List.all_takeWhile hmany (Except.error.inj hfailed)
    · refine (failsFor_pure _).blames fun _ hoversize => hoversize.of_suffix ?_
      exact cursor.rest_drop _ ▸ List.drop_suffix _ _

theorem reads_directive : Reads directive := by
  have hend (token : Token) : Reads (do
      restOfLine
      pure token) := reads_restOfLine.bind fun _ => failsFor_pure _
  have hword (token : Token) : Reads (do
      let token ← if endsWord (← peek) then pure token else malformed
      restOfLine
      pure token) := by
    refine reads_peek.bind fun c => ?_
    split
    · exact hend token
    · exact failsFor_malformed
  refine (reads_advance 1).bind fun _ => (reads_takeWhile _).bind fun name =>
    reads_peek.bind fun c => ?_
  split
  · exact failsFor_malformed
  · split
    · refine (reads_takeWhile _).bind fun _ => reads_digits.bind fun major =>
        reads_peek.bind fun c => ?_
      split
      · exact (reads_advance 1).bind fun _ => reads_digits.bind fun _ => hword _
      · exact failsFor_malformed
    · split
      · refine (reads_takeWhile _).bind fun _ => reads_tagHandle.bind fun handle =>
          reads_peek.bind fun c => ?_
        split
        · exact (reads_takeWhile _).bind fun _ => reads_tagText.bind fun _ => hword _
        · exact failsFor_malformed
      · exact (reads_takeWhile _).bind fun _ => hend _

end Reader

end AllowPolicy.Yaml
