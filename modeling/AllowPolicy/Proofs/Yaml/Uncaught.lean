import AllowPolicy.Command.Session
import AllowPolicy.Proofs.Yaml.Checking
import AllowPolicy.Proofs.Yaml.Composing
import AllowPolicy.Proofs.Yaml.Form
import AllowPolicy.Proofs.Yaml.Scanning

namespace AllowPolicy.Yaml

open Command.Run (fault?)

namespace Scalar

variable {α β : Type}

/-- No failure for a value is one that the program reports. -/
def Unreported (x : Except Problem α) : Prop :=
  ∀ failure, x = .error (.failed failure) → fault? failure = none

theorem unreported_ok (a : α) : Unreported (.ok a) := by
  intro failure hfailed
  cases hfailed

theorem unreported_failed {failure : Failure} (hfault : fault? failure = none) :
    Unreported (failed failure : Except Problem α) := by
  intro other hother
  cases hother
  exact hfault

theorem unreported_malformed : Unreported (.error .malformed : Except Problem α) := by
  intro failure hfailed
  cases hfailed

theorem Unreported.bind {x : Except Problem α} {next : α → Except Problem β} (hx : Unreported x)
    (hnext : ∀ a, Unreported (next a)) : Unreported (x >>= next) := by
  intro failure hfailed
  obtain hfailed | ⟨a, _, hfailed⟩ := eq_error_of_bind hfailed
  · exact hx failure hfailed
  · exact hnext a failure hfailed

theorem Unreported.map {x : Except Problem α} (hx : Unreported x) (f : α → β) :
    Unreported (f <$> x) :=
  fun failure hfailed => hx failure (eq_error_of_map hfailed)

theorem unreported_mapM {f : α → Except Problem β} (hf : ∀ a, Unreported (f a)) (parts : List α) :
    Unreported (parts.mapM f) := by
  intro failure hfailed
  obtain ⟨part, _, hfailed⟩ := failed_mapM hfailed
  exact hf part failure hfailed

theorem unreported_signed (s : List Char) : Unreported (signed s) := by
  unfold signed
  split
  · exact unreported_failed rfl
  · exact unreported_ok _

theorem unreported_inBase (base : Nat) (mark : Char) (s : List Char) :
    Unreported (inBase base mark s) := by
  unfold inBase
  dsimp only
  split
  · exact unreported_ok _
  · exact unreported_failed rfl

theorem unreported_decimal (digits : List Char) : Unreported (decimal digits) := by
  unfold decimal
  cases Decimal.spelled (.ofList digits) with
  | ok n => exact unreported_ok _
  | error message => exact unreported_failed rfl

theorem unreported_unsignedInt (s : List Char) : Unreported (unsignedInt s) := by
  unfold unsignedInt
  split
  · exact unreported_ok _
  · exact unreported_inBase _ _ _
  · exact unreported_inBase _ _ _
  · exact unreported_inBase _ _ _
  · exact unreported_failed rfl
  · split
    · exact (unreported_mapM unreported_decimal _).bind fun _ => unreported_ok _
    · exact unreported_decimal _

theorem unreported_int (s : List Char) : Unreported (int s) :=
  (unreported_signed s).bind fun _ => (unreported_unsignedInt _).bind fun _ => unreported_ok _

theorem unreported_pointed (s : List Char) : Unreported (pointed s) := by
  unfold pointed
  split
  · exact unreported_ok _
  · exact unreported_failed rfl

theorem unreported_sixtieths (parts : List Float) (base : Nat) (sum : Float) :
    Unreported (sixtieths parts base sum) := by
  fun_induction sixtieths parts base sum with
  | case1 => exact unreported_ok _
  | case2 _ _ _ _ _ _ ih => exact ih
  | case3 => exact unreported_failed rfl

theorem unreported_unsignedReal (s : List Char) : Unreported (unsignedReal s) := by
  unfold unsignedReal
  split
  · exact unreported_ok _
  · split
    · exact unreported_ok _
    · split
      · exact (unreported_mapM unreported_pointed _).bind fun _ => unreported_sixtieths _ _ _
      · exact unreported_pointed _

theorem unreported_real (s : List Char) : Unreported (real s) :=
  (unreported_signed _).bind fun _ => (unreported_unsignedReal _).bind fun _ => unreported_ok _

theorem unreported_bytes (count held pads : Nat) (s : List Char) :
    Unreported (bytes count held pads s) := by
  fun_induction bytes count held pads s with
  | case1 => exact unreported_ok _
  | case2 => exact unreported_malformed
  | case3 => exact unreported_ok _
  | case4 _ _ _ _ _ ih => exact ih
  | case5 _ _ _ _ _ _ _ ih => exact ih
  | case6 _ _ _ _ _ _ _ _ ih => exact ih.bind fun _ => unreported_ok _
  | case7 _ _ _ _ _ _ _ _ _ _ ih => exact ih

/-- A scalar without a value fails in a way that the program does not report. -/
theorem unreported_value (tag : Tag) (text : String) : Unreported (value tag text) := by
  unfold value
  dsimp only
  split
  · exact unreported_ok _
  · split
    · exact unreported_ok _
    · exact unreported_failed rfl
  · exact (unreported_int _).map _
  · exact (unreported_real _).map _
  · exact unreported_ok _
  · split
    · exact unreported_failed rfl
    · split
      · exact unreported_failed rfl
      · exact unreported_ok _
  · split
    · exact (unreported_bytes 0 0 0 _).map _
    · exact unreported_malformed
  · exact unreported_malformed

end Scalar

theorem Oversize.unreported {text : List Char} {failure : Failure}
    (hoversize : Oversize text failure) :
    fault? failure = none := by
  cases hoversize with
  | escape _ _ _ hfailed =>
    unfold Reader.charOf at hfailed
    split at hfailed
    · cases hfailed
    · split at hfailed <;>
      · cases hfailed
        rfl
  | version _ _ _ hfailed =>
    cases hfailed
    rfl

theorem Node.Spoilt.unreported {node : Node} {failure : Failure} (hspoilt : node.Spoilt failure) :
    fault? failure = none := by
  obtain ⟨-, text, -, ⟨-, -, rfl⟩ | hfailed⟩ := hspoilt
  · rfl
  · exact Scalar.unreported_value node.tag text failure hfailed

/-- The document of a text is given up with this failure, and the node in it fails in this way. -/
inductive FailsAt (text : String) (failure : Failure) (node : Node) : Prop
  | of {tokens document} (hscan : Token.scan text = .ok tokens)
      (hdocument : Document.ofTokens tokens = .ok (some document))
      (hcheck : document.expanded.check = .error (.failed failure))
      (hwithin : Node.Within node document.expanded) (hspoilt : node.Spoilt failure) :
      FailsAt text failure node

/-- A text is no data because of one value in it: a number is too large where it stands, or a scalar
    is no value of the kind that its form shows, or none of the kind that is written before it, or
    something stands in for a date. -/
inductive Uncaught (text : String) (failure : Failure) : Prop
  | oversize (hscan : Token.scan text = .error (.failed failure))
      (hoversize : Oversize text.toList failure)
  | unvalued {part s} (hfails : FailsAt text failure part) (htext : part.text? = some s)
      (hplain : part.tag = .ofPlain s) (hform : Scalar.Unvalued s.toList failure)
  | mistagged {part s} (hfails : FailsAt text failure part) (htext : part.text? = some s)
      (htagged : part.tag ≠ .ofPlain s)
  | misplaced {part} (hfails : FailsAt text failure part) (htag : part.tag = .stamp)
      (hmapping : part.isMapping = true)

variable {text : String} {failure : Failure}

theorem FailsAt.read {part : Node} (hfails : FailsAt text failure part) :
    read text = .error (.failed failure) := by
  obtain ⟨hscan, hdocument, hcheck⟩ := hfails
  simp only [Yaml.read, hscan, hdocument, hcheck, bind, Except.bind]

theorem Uncaught.read (huncaught : Uncaught text failure) :
    read text = .error (.failed failure) := by
  cases huncaught with
  | oversize hscan =>
    rw [Yaml.read, hscan]
    rfl
  | unvalued hfails => exact hfails.read
  | mistagged hfails => exact hfails.read
  | misplaced hfails => exact hfails.read

theorem uncaught_of_read (hfailed : read text = .error (.failed failure)) :
    Uncaught text failure := by
  obtain hscan | ⟨tokens, hscan, hfailed⟩ := eq_error_of_bind hfailed
  · exact .oversize hscan (oversize_of_scan hscan)
  · obtain hdocument | ⟨document?, hdocument, hfailed⟩ := eq_error_of_bind hfailed
    · exact absurd hdocument (Document.ofTokens_ne_failed tokens failure)
    · cases document? with
      | none => cases hfailed
      | some document =>
        obtain hcheck | ⟨_, _, hfailed⟩ := eq_error_of_bind hfailed
        · obtain ⟨part, hwithin, hspoilt⟩ := Node.spoilt_of_check hcheck
          have hfails : FailsAt text failure part := .of hscan hdocument hcheck hwithin hspoilt
          obtain ⟨s, htext, ⟨htag, hmapping, -⟩ | hvalue⟩ := hspoilt.failed
          · exact .misplaced hfails htag hmapping
          -- Only for a tag that the form gives does the form say what is wrong.
          · by_cases hplain : part.tag = .ofPlain s
            · exact .unvalued hfails htext hplain (Scalar.unvalued_of_ofPlain (hplain ▸ hvalue))
            · exact .mistagged hfails htext hplain
        · cases hfailed

/-- Reading fails for such a value, and for nothing else. -/
theorem read_eq_failed_iff : read text = .error (.failed failure) ↔ Uncaught text failure :=
  ⟨uncaught_of_read, Uncaught.read⟩

theorem FailsAt.unreported {part : Node} (hfails : FailsAt text failure part) :
    fault? failure = none := by
  obtain ⟨-, -, -, -, hspoilt⟩ := hfails
  exact hspoilt.unreported

theorem Uncaught.unreported (huncaught : Uncaught text failure) : fault? failure = none := by
  cases huncaught with
  | oversize _ hoversize => exact hoversize.unreported
  | unvalued hfails => exact hfails.unreported
  | mistagged hfails => exact hfails.unreported
  | misplaced hfails => exact hfails.unreported

/-- What a reader fails by, if not by the rules of the language, is nothing that is reported. -/
def Reads.Unreported [Reads] : Prop :=
  ∀ text failure, Reads.read text = .error (.failed failure) → fault? failure = none

theorem unreported_read : Reads.Unreported :=
  fun _ _ hfailed => (read_eq_failed_iff.mp hfailed).unreported

end AllowPolicy.Yaml
