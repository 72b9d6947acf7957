import AllowPolicy.Decimal.Integer
import AllowPolicy.Failure

namespace AllowPolicy.Yaml

/-- Why a text gives no document. -/
inductive Problem where
  /-- The text breaks the rules of the language, or uses a tag that is not known. -/
  | malformed
  /-- A scalar has the form of a value of its kind and is none. -/
  | failed (failure : Failure)

/-- A number to base ten has too many digits. -/
def Problem.tooManyDigits (count : Nat) : Problem :=
  .failed (.badValue (Decimal.tooManyDigits count))

/-- A place in a text, with the number of characters and lines before it. -/
structure Cursor where
  rest : List Char
  index : Nat := 0
  line : Nat := 0
  column : Nat := 0

abbrev Reader := StateT Cursor (Except Problem)

def malformed {α : Type} {m : Type → Type} [MonadExcept Problem m] : m α := throw .malformed

/-- The character ends a line. -/
def isBreak (c : Char) : Bool :=
  c = '\n' || c = '\r' || c = '\x85' || c = '\u2028' || c = '\u2029'

/-- The character is a blank or a tab. -/
def isGap (c : Char) : Bool := c = ' ' || c = '\t'

/-- Here the line ends, or the text. -/
def endsLine (c : Option Char) : Bool := c.all isBreak

/-- Here a word ends: by a blank, with its line, or with the text. -/
def endsWord (c : Option Char) : Bool := c.all fun c => c = ' ' || isBreak c

/-- Here a word ends, by a tab too. -/
def endsToken (c : Option Char) : Bool := c.all fun c => isGap c || isBreak c

namespace Cursor

def peek (cursor : Cursor) : Option Char := cursor.rest.head?

/-- The character `n` places further on. -/
def peekAt (cursor : Cursor) (n : Nat) : Option Char := cursor.rest[n]?

/-- One character further. A carriage return ends a line unless a line feed follows, and a byte
    order mark takes no column. -/
def step (cursor : Cursor) : Cursor :=
  match cursor.rest with
  | [] => cursor
  | c :: rest =>
    let ends := isBreak c && !(c = '\r' && rest.head? = some '\n')
    { rest
      index := cursor.index + 1
      line := if ends then cursor.line + 1 else cursor.line
      column := if ends then 0 else if c = '\ufeff' then cursor.column else cursor.column + 1 }

def drop (cursor : Cursor) : Nat → Cursor
  | 0 => cursor
  | n + 1 => cursor.step.drop n

/-- The line begins with three of these characters and a word end: a document marker. -/
def atMarker (cursor : Cursor) (c : Char) : Bool :=
  cursor.rest.take 3 == [c, c, c] && endsToken (cursor.peekAt 3)

/-- A document begins or ends here. -/
def atBoundary (cursor : Cursor) : Bool := cursor.atMarker '-' || cursor.atMarker '.'

end Cursor

namespace Reader

def peek : Reader (Option Char) := return (← get).peek

def advance (n : Nat) : Reader Unit := modify (·.drop n)

/-- Takes the characters that satisfy `p`, up to the first that does not. -/
def takeWhile (p : Char → Bool) : Reader (List Char) := do
  let taken := (← get).rest.takeWhile p
  advance taken.length
  pure taken

/-- Takes a line end, if there is one here. Only the separators of Unicode stay what they are. -/
def lineBreak? : Reader (Option Char) := do
  match (← get).rest with
  | '\r' :: '\n' :: _ => advance 2; pure (some '\n')
  | c :: _ =>
    if isBreak c then
      advance 1
      pure (some (if c = '\u2028' ∨ c = '\u2029' then c else '\n'))
    else pure none
  | [] => pure none

/-- Takes the rest of a line that may only hold blanks and a comment. -/
def restOfLine : Reader Unit := do
  let _ ← takeWhile (· = ' ')
  if (← peek) = some '#' then
    let _ ← takeWhile (!isBreak ·)
  if endsLine (← peek) then
    let _ ← lineBreak?
  else malformed

end Reader

/-- The characters of names of anchors and of tag handles. -/
def isNameChar (c : Char) : Bool := c.isAlphanum || c = '-' || c = '_'

end AllowPolicy.Yaml
