import AllowPolicy.Proofs.Yaml.Reading
import AllowPolicy.Yaml.Token.Scan

namespace AllowPolicy.Yaml

namespace Scanner

variable {α : Type}

/-- A value that cannot be read is a number that is too large, further on in the text. -/
abbrev Scans (scanner : Scanner α) : Prop :=
  FailsFor (fun scan : Scan => Oversize scan.cursor.rest) scanner

/-- Only reading takes something from the text. -/
theorem scans_modify {change : Scan → Scan} (hchange : ∀ s, (change s).cursor = s.cursor) :
    Scans (modify change) :=
  failsFor_modify fun s _ hoversize => hchange s ▸ hoversize

theorem scans_read {reader : Reader α} (hreads : reader.Reads) : Scans (read reader) := by
  refine failsFor_get_bind fun s => ?_
  have hblames := hreads s.cursor
  cases hrun : reader.run s.cursor with
  | error problem =>
    refine .bind (fun failure hfailed => ?_) nofun
    cases hfailed
    exact hblames.failed failure hrun
  | ok result =>
    obtain ⟨a, cursor⟩ := result
    refine .bind nofun fun _ after hok => ?_
    cases hok
    refine .bind nofun fun _ after hok => ?_
    cases hok
    exact (failsFor_pure a).blames (hblames.left a cursor hrun)

theorem scans_emit (token : Token) : Scans (emit token) := scans_modify fun _ => rfl

theorem scans_insert (place : Nat) (token : Token) : Scans (insert place token) :=
  scans_modify fun _ => rfl

theorem scans_allowKey (allowed : Bool) : Scans (allowKey allowed) := scans_modify fun _ => rfl

theorem scans_dropPending : Scans dropPending := by
  refine failsFor_get_bind fun s => ?_
  split
  · exact failsFor_malformed s
  · exact blames_set fun _ hoversize => hoversize

theorem scans_savePending : Scans savePending := by
  refine failsFor_get.bind fun s => ?_
  split
  · exact scans_dropPending.bind fun _ => scans_modify fun _ => rfl
  · exact failsFor_pure _

theorem scans_dropStale : Scans dropStale := by
  refine failsFor_get_bind fun s => ?_
  dsimp only
  split
  · exact failsFor_malformed s
  · exact blames_set fun _ hoversize => hoversize

theorem scans_unwind (column : Int) : Scans (unwind column) := by
  refine scans_modify fun s => ?_
  split <;> rfl

theorem scans_openBlock (column : Int) : Scans (openBlock column) := by
  refine failsFor_get_bind fun s => ?_
  split
  · refine .bind nofun fun _ after hok => ?_
    cases hok
    exact (failsFor_pure true).blames fun _ hoversize => hoversize
  · exact failsFor_pure _ s

theorem scans_separation (fuel : Nat) : Scans (separation fuel) := by
  induction fuel with
  | zero => exact failsFor_pure _
  | succ fuel ih =>
    have hend : Scans (do
        if (← read Reader.lineBreak?).isSome then
          if (← get).flow = 0 then allowKey true
          separation fuel) := by
      refine (scans_read Reader.reads_lineBreak?).bind fun found => ?_
      split
      · refine failsFor_get.bind fun s => ?_
        split
        · exact (scans_allowKey true).bind fun _ => ih
        · exact ih
      · exact failsFor_pure _
    refine (scans_read (Reader.reads_takeWhile _)).bind fun _ => failsFor_get.bind fun s => ?_
    split
    · exact (scans_read (Reader.reads_takeWhile _)).bind fun _ => hend
    · exact hend

theorem scans_emitMark (token : Token) : Scans (emitMark token) :=
  (scans_read (Reader.reads_advance 1)).bind fun _ => scans_emit token

theorem scans_marker (token : Token) : Scans (marker token) :=
  (scans_unwind _).bind fun _ => scans_dropPending.bind fun _ => (scans_allowKey _).bind fun _ =>
    (scans_read (Reader.reads_advance 3)).bind fun _ => scans_emit token

theorem scans_openFlow (token : Token) : Scans (openFlow token) := by
  refine scans_savePending.bind fun _ => FailsFor.bind (scans_modify fun s => ?_) fun _ =>
    (scans_allowKey _).bind fun _ => scans_emitMark token
  rfl

theorem scans_closeFlow (token : Token) : Scans (closeFlow token) := by
  have hend : Scans (do
      modify fun s => { s with flow := s.flow - 1 }
      allowKey false
      emitMark token) := by
    refine FailsFor.bind (scans_modify fun s => ?_) fun _ =>
      (scans_allowKey _).bind fun _ => scans_emitMark token
    rfl
  refine scans_dropPending.bind fun _ => failsFor_get.bind fun s => ?_
  exact .ite (failsFor_malformed.bind fun _ => hend) hend

theorem scans_enterBlock (start : Token) : Scans (enterBlock start) := by
  have hopen (column : Nat) : Scans (do if ← openBlock column then emit start) := by
    refine (scans_openBlock _).bind fun opened => ?_
    split
    · exact scans_emit start
    · exact failsFor_pure _
  refine failsFor_get.bind fun s => ?_
  split
  · split
    · exact failsFor_malformed.bind fun _ => hopen _
    · exact hopen _
  · exact failsFor_pure _

theorem scans_item : Scans item :=
  (scans_enterBlock _).bind fun _ => (scans_allowKey _).bind fun _ =>
    scans_dropPending.bind fun _ => scans_emitMark _

theorem scans_key : Scans key :=
  (scans_enterBlock _).bind fun _ => failsFor_get.bind fun _ => (scans_allowKey _).bind fun _ =>
    scans_dropPending.bind fun _ => scans_emitMark _

theorem scans_value : Scans value := by
  have hend : Scans (do
      allowKey false
      emitMark .value) := (scans_allowKey _).bind fun _ => scans_emitMark _
  refine failsFor_get_bind fun s => ?_
  split
  · rename_i found _
    refine .bind nofun fun _ after hok => ?_
    cases hok
    refine FailsFor.blames ((scans_insert _ _).bind fun _ => ?_) fun _ hoversize => hoversize
    refine .ite ((scans_openBlock _).bind fun _ => ?_) hend
    exact .ite ((scans_insert _ _).bind fun _ => hend) hend
  · exact ((scans_enterBlock _).bind fun _ => (scans_allowKey _).bind fun _ =>
      scans_dropPending.bind fun _ => scans_emitMark _) s

theorem scans_keyLike {reader : Reader Token} (hreads : reader.Reads) : Scans (keyLike reader) :=
  scans_savePending.bind fun _ => (scans_allowKey _).bind fun _ =>
    (scans_read hreads).bind fun token => scans_emit token

theorem scans_blockScalar (folded : Bool) : Scans (blockScalar folded) :=
  (scans_allowKey _).bind fun _ => scans_dropPending.bind fun _ => failsFor_get.bind fun s =>
    (scans_read (Reader.reads_block folded s.indent)).bind fun _ => scans_emit _

theorem scans_plainScalar : Scans plainScalar :=
  scans_savePending.bind fun _ => failsFor_get.bind fun _ =>
    (scans_read (Reader.reads_plain _ _)).bind fun _ =>
      (scans_allowKey _).bind fun _ => scans_emit _

theorem scans_tokenAt (s : Scan) (c : Char) : Scans (tokenAt s c) := by
  have hdirective : Scans (do
      unwind (-1)
      dropPending
      allowKey false
      emit (← read Reader.directive)) :=
    (scans_unwind _).bind fun _ => scans_dropPending.bind fun _ => (scans_allowKey _).bind fun _ =>
      (scans_read Reader.reads_directive).bind fun _ => scans_emit _
  have hcomma : Scans (do
      allowKey true
      dropPending
      emitMark .comma) :=
    (scans_allowKey _).bind fun _ => scans_dropPending.bind fun _ => scans_emitMark _
  have hname (token : String → Token) : Scans (keyLike (return token (← Reader.anchorName))) :=
    scans_keyLike (Reader.reads_anchorName.bind fun _ => failsFor_pure _)
  have hquoted : Scans (keyLike (return .scalar (← Reader.quoted c) false)) :=
    scans_keyLike ((Reader.reads_quoted c).bind fun _ => failsFor_pure _)
  exact .ite hdirective <| .ite (scans_marker _) <| .ite (scans_marker _) <|
    .ite (scans_openFlow _) <| .ite (scans_openFlow _) <| .ite (scans_closeFlow _) <|
    .ite (scans_closeFlow _) <| .ite hcomma <| .ite scans_item <| .ite scans_key <|
    .ite scans_value <| .ite (hname .alias) <| .ite (hname .anchor) <|
    .ite (scans_keyLike Reader.reads_tag) <| .ite (scans_blockScalar _) <|
    .ite (scans_blockScalar _) <| .ite hquoted <| .ite scans_plainScalar failsFor_malformed

theorem scans_scanAll (fuel : Nat) : Scans (scanAll fuel) := by
  induction fuel with
  | zero => exact failsFor_malformed
  | succ fuel ih =>
    refine failsFor_get.bind fun _ =>
      (scans_separation _).bind fun _ => scans_dropStale.bind fun _ =>
      failsFor_get.bind fun _ => (scans_unwind _).bind fun _ => failsFor_get.bind fun s => ?_
    split
    · exact (scans_unwind _).bind fun _ => scans_dropPending
    · exact (scans_tokenAt s _).bind fun _ => ih

end Scanner

/-- A text whose tokens cannot be told for a value has a number in it that is too large. -/
theorem oversize_of_scan {text : String} {failure : Failure}
    (hfailed : Token.scan text = .error (.failed failure)) : Oversize text.toList failure := by
  simp only [Token.scan] at hfailed
  split at hfailed
  · cases hfailed
  · split at hfailed
    · cases hfailed
    · rename_i problem hscan
      cases hfailed
      refine ((Scanner.scans_scanAll _ _).failed failure hscan).of_suffix ?_
      dsimp only
      split
      · exact Cursor.rest_step _ ▸ List.tail_suffix _
      · exact List.suffix_rfl

end AllowPolicy.Yaml
