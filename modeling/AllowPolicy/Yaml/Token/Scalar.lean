import AllowPolicy.Yaml.Cursor

namespace AllowPolicy.Yaml.Reader

def hexValue (digits : List Char) : Nat :=
  digits.foldl (fun n c => 16 * n + (if c.isDigit then c.toNat - 48 else c.toLower.toNat - 87)) 0

def isHexDigit (c : Char) : Bool := c.isDigit || ('a' ≤ c.toLower && c.toLower ≤ 'f')

def hexDigits (n : Nat) : Reader Nat := do
  let digits := (← get).rest.take n
  if digits.length = n ∧ digits.all isHexDigit then
    advance n
    pure (hexValue digits)
  else malformed

/-- The character of a number, which has to be a code point. The sign of replacement stands for a
    surrogate. -/
def charOf (code : Nat) : Except Problem Char :=
  if code < 0x110000 then .ok (if code.isValidChar then Char.ofNat code else '\ufffd')
  else if code < Nat.pow 2 31 then .error (.failed (.badValue "chr() arg not in range(0x110000)"))
  else .error (.failed (.overflow "Python int too large to convert to C int"))

def escapes : List (Char × Char) := [
    ('0', '\x00'), ('a', '\x07'), ('b', '\x08'), ('t', '\t'), ('\t', '\t'), ('n', '\n'),
    ('v', '\x0b'), ('f', '\x0c'), ('r', '\r'), ('e', '\x1b'), (' ', ' '), ('"', '"'),
    ('\\', '\\'), ('/', '/'), ('N', '\x85'), ('_', '\xa0'), ('L', '\u2028'), ('P', '\u2029')]

/-- The number of digits behind the letter of a numeric escape. -/
def numericEscapes : List (Char × Nat) := [('x', 2), ('u', 4), ('U', 8)]

/-- Takes the line ends between two lines of a quoted scalar. -/
def quotedBreaks : (fuel : Nat) → Reader (List Char)
  | 0 => pure []
  | fuel + 1 => do
    if (← get).atBoundary then malformed
    else
      let _ ← takeWhile isGap
      match ← lineBreak? with
      | some c => return c :: (← quotedBreaks fuel)
      | none => pure []

/-- What a first line end and the ones behind it stand for: a single one is folded to a blank. -/
def fold (first : Char) (others : List Char) : List Char :=
  (if first ≠ '\n' then [first] else if others.isEmpty then [' '] else []) ++ others

/-- Takes blanks inside a quoted scalar, which count unless the line ends behind them. -/
def quotedSpaces (fuel : Nat) : Reader (List Char) := do
  let gaps ← takeWhile isGap
  if (← get).rest.isEmpty then malformed
  else
    match ← lineBreak? with
    | some first => return fold first (← quotedBreaks fuel)
    | none => pure gaps

/-- Takes an escape, of which the backslash is taken already. -/
def escape (fuel : Nat) : Reader (List Char) := do
  match ← peek with
  | none => malformed
  | some c =>
    match escapes.lookup c, numericEscapes.lookup c with
    | some meaning, _ => advance 1; pure [meaning]
    | none, some n =>
      advance 1
      return [← charOf (← hexDigits n)]
    | none, none =>
      match ← lineBreak? with
      | some _ => quotedBreaks fuel
      | none => malformed

/-- Takes the rest of a quoted scalar with its closing quote. -/
def quotedRest (quote : Char) : (fuel : Nat) → Reader (List Char)
  | 0 => malformed
  | fuel + 1 => do
    match (← get).rest with
    | [] => malformed
    | c :: rest =>
      if c = quote then
        if quote = '\'' ∧ rest.head? = some '\'' then
          advance 2
          return '\'' :: (← quotedRest quote fuel)
        else
          advance 1
          pure []
      else if isGap c || isBreak c then
        let spaces ← quotedSpaces fuel
        return spaces ++ (← quotedRest quote fuel)
      else if quote = '"' ∧ c = '\\' then
        advance 1
        let meaning ← escape fuel
        return meaning ++ (← quotedRest quote fuel)
      else
        advance 1
        return c :: (← quotedRest quote fuel)

def quoted (quote : Char) : Reader String := do
  advance 1
  return .ofList (← quotedRest quote ((← get).rest.length + 1))

/-- The characters that end a plain scalar inside a flow collection. -/
def flowStops : List Char := [',', '?', '[', ']', '\x7b', '\x7d']

/-- The length of the next run of a plain scalar. -/
def plainLength (inFlow : Bool) : List Char → Nat
  | [] => 0
  | c :: rest =>
    let stop := isGap c || isBreak c || (inFlow && flowStops.contains c) ||
      (c = ':' && (endsToken rest.head? ||
        (inFlow && rest.head?.any [',', '[', ']', '\x7b', '\x7d'].contains)))
    if stop then 0 else plainLength inFlow rest + 1

/-- Takes the line ends and indentation between two lines of a plain scalar; none where a document
    ends. -/
def plainBreaks : (fuel : Nat) → Reader (Option (List Char))
  | 0 => pure none
  | fuel + 1 => do
    if (← get).atBoundary then pure none
    else
      let _ ← takeWhile (· = ' ')
      match ← lineBreak? with
      | some c => return (← plainBreaks fuel).map (c :: ·)
      | none => pure (some [])

/-- Takes what stands between two runs of a plain scalar: what it counts for, and whether a line
    ends in it. -/
def plainSpaces (fuel : Nat) : Reader (List Char × Bool) := do
  let gaps ← takeWhile (· = ' ')
  match ← lineBreak? with
  | none => pure (gaps, false)
  | some first =>
    match ← plainBreaks fuel with
    | some others => pure (fold first others, true)
    | none => pure ([], true)

/-- Takes the runs of a plain scalar; tells whether a line end follows the last one. -/
def plainRuns (inFlow : Bool) (indent : Int) : (fuel : Nat) → Reader (List Char × Bool)
  | 0 => pure ([], false)
  | fuel + 1 => do
    let run := (← get).rest.take (plainLength inFlow (← get).rest)
    advance run.length
    let (spaces, crossed) ← plainSpaces fuel
    let here ← get
    if spaces.isEmpty || here.peek = some '#' || (!inFlow && here.column < indent)
        || plainLength inFlow here.rest = 0 then
      pure (run, crossed)
    else
      let (more, crossed) ← plainRuns inFlow indent fuel
      pure (run ++ spaces ++ more, crossed)

/-- Takes a plain scalar; tells whether a line end follows it. -/
def plain (inFlow : Bool) (indent : Int) : Reader (String × Bool) := do
  let (text, crossed) ← plainRuns inFlow indent ((← get).rest.length + 1)
  pure (.ofList text, crossed)

/-- What becomes of the line ends behind a block scalar. -/
inductive Chomping where
  | strip
  | clip
  | keep
  deriving DecidableEq

/-- Takes the sign for the chomping, if there is one. -/
def chomping? : Reader (Option Chomping) := do
  match ← peek with
  | some '+' => advance 1; pure (some .keep)
  | some '-' => advance 1; pure (some .strip)
  | _ => pure none

/-- Takes the digit for the indentation, if there is one. -/
def increment? : Reader (Option Nat) := do
  match ← peek with
  | some c =>
    if c.isDigit then
      if c = '0' then malformed
      else
        advance 1
        pure (some (c.toNat - '0'.toNat))
    else pure none
  | none => pure none

/-- Takes the head of a block scalar: sign and digit in either order, and the rest of its line. -/
def blockHead : Reader (Chomping × Option Nat) := do
  let early ← chomping?
  let increment ← increment?
  let late ← if early.isNone && increment.isSome then chomping? else pure none
  if endsWord (← peek) then
    restOfLine
    pure ((early.or late).getD .clip, increment)
  else malformed

/-- Takes empty lines at the start of a block scalar: their ends, and the deepest indentation. -/
def leadingBreaks (deepest : Nat) : (fuel : Nat) → Reader (List Char × Nat)
  | 0 => pure ([], deepest)
  | fuel + 1 => do
    if (← peek) = some ' ' then
      let _ ← takeWhile (· = ' ')
      leadingBreaks (max deepest (← get).column) fuel
    else
      match ← lineBreak? with
      | some c =>
        let (others, deepest) ← leadingBreaks deepest fuel
        pure (c :: others, deepest)
      | none => pure ([], deepest)

/-- Takes blanks up to a column. -/
def indentTo (column : Nat) : Reader Unit := do
  let here ← get
  let blanks := (here.rest.takeWhile (· = ' ')).length
  advance (min blanks (column - here.column))

/-- Takes the line ends of empty lines inside a block scalar, and the indentation behind them. -/
def blockBreaks (indent : Nat) : (fuel : Nat) → Reader (List Char)
  | 0 => pure []
  | fuel + 1 => do
    indentTo indent
    match ← lineBreak? with
    | some c => return c :: (← blockBreaks indent fuel)
    | none => pure []

/-- Takes the lines of a block scalar, before which the line ends `before` stand. -/
def blockLines (folded : Bool) (chomping : Chomping) (indent : Nat) (before : List Char) :
    (fuel : Nat) → Reader (List Char)
  | 0 => malformed
  | fuel + 1 => do
    let leadingText := !(← peek).any isGap
    let line ← takeWhile (!isBreak ·)
    let first := (← lineBreak?).toList
    let breaks ← blockBreaks indent fuel
    let here ← get
    if here.column = indent && !here.rest.isEmpty then
      let joint :=
        if folded && first = ['\n'] && leadingText && !here.peek.any isGap then
          if breaks.isEmpty then [' '] else []
        else first
      return before ++ line ++ joint ++ (← blockLines folded chomping indent breaks fuel)
    else
      let tail := match chomping with
        | .strip => []
        | .clip => first
        | .keep => first ++ breaks
      pure (before ++ line ++ tail)

/-- Takes a block scalar inside a block of the given indentation. -/
def block (folded : Bool) (outer : Int) : Reader String := do
  advance 1
  let (chomping, increment) ← blockHead
  let least := (max (outer + 1) 1).toNat
  let fuel := (← get).rest.length + 1
  let (breaks, indent) ← match increment with
    | some n =>
      let indent := least + n - 1
      pure (← blockBreaks indent fuel, indent)
    | none =>
      let (breaks, deepest) ← leadingBreaks 0 fuel
      pure (breaks, max least deepest)
  let here ← get
  if here.column = indent && !here.rest.isEmpty then
    return .ofList (← blockLines folded chomping indent breaks fuel)
  else
    pure (.ofList (if chomping = .keep then breaks else []))

end AllowPolicy.Yaml.Reader
