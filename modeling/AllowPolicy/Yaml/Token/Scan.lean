import AllowPolicy.Yaml.Token.Tag

namespace AllowPolicy.Yaml

/-- A place where a key may have begun, to be confirmed by a colon on the same line. -/
structure Scan.PendingKey where
  /-- The number of tokens before the key. -/
  place : Nat
  /-- A key has to be here: the place is as far in as the block around it. -/
  required : Bool
  index : Nat
  line : Nat
  column : Nat

/-- The state between two tokens. -/
structure Scan where
  cursor : Cursor
  /-- The number of open flow collections. -/
  flow : Nat := 0
  /-- The column of the innermost open block, and those of the blocks around it. -/
  indent : Int := -1
  outer : List Int := []
  keyAllowed : Bool := true
  /-- The place of a possible key on each level of flow collections. -/
  pending : List (Nat × Scan.PendingKey) := []
  /-- The tokens so far, the last one first. -/
  tokens : List Token := []

abbrev Scanner := StateT Scan (Except Problem)

namespace Scanner

/-- The farthest that a colon may be from the start of its key. -/
def longestKey : Nat := 1024

def emit (token : Token) : Scanner Unit := modify fun s => { s with tokens := token :: s.tokens }

/-- Adds a token in front of those from `place` on. -/
def insert (place : Nat) (token : Token) : Scanner Unit := modify fun s =>
  let after := s.tokens.length - place
  { s with tokens := s.tokens.take after ++ token :: s.tokens.drop after }

/-- Reads at the cursor. -/
def read {α : Type} (reader : Reader α) : Scanner α := do
  let s ← get
  let (a, cursor) ← reader.run s.cursor
  set { s with cursor }
  pure a

/-- Sets whether a key may begin here. -/
def allowKey (allowed : Bool) : Scanner Unit := modify fun s => { s with keyAllowed := allowed }

/-- Gives up the possible key of this level; a required one is missing then. -/
def dropPending : Scanner Unit := do
  let s ← get
  if (s.pending.lookup s.flow).any (·.required) then malformed
  else set { s with pending := s.pending.filter (·.1 ≠ s.flow) }

/-- Remembers that a key may begin here. -/
def savePending : Scanner Unit := do
  if (← get).keyAllowed then
    dropPending
    modify fun s =>
      let here := s.cursor
      let key : Scan.PendingKey :=
        { place := s.tokens.length, required := s.flow = 0 && s.indent = here.column
          index := here.index, line := here.line, column := here.column }
      { s with pending := (s.flow, key) :: s.pending }

/-- Gives up the possible keys that are too far away or on an earlier line. -/
def dropStale : Scanner Unit := do
  let s ← get
  let isStale (key : Scan.PendingKey) : Bool :=
    key.line ≠ s.cursor.line || longestKey < s.cursor.index - key.index
  if s.pending.any fun (_, key) => isStale key && key.required then malformed
  else set { s with pending := s.pending.filter fun (_, key) => !isStale key }

/-- The tokens and state after closing the blocks that are further in than `column`. -/
def closeBlocks (column : Int) : (indent : Int) → (outer : List Int) → List Token →
    Int × List Int × List Token
  | indent, [], tokens => (indent, [], tokens)
  | indent, next :: outer, tokens =>
    if column < indent then closeBlocks column next outer (.blockEnd :: tokens)
    else (indent, next :: outer, tokens)

/-- Closes the blocks that are further in than `column`. -/
def unwind (column : Int) : Scanner Unit := modify fun s =>
  if s.flow ≠ 0 then s
  else
    let (indent, outer, tokens) := closeBlocks column s.indent s.outer s.tokens
    { s with indent, outer, tokens }

/-- Opens a block at `column` unless one is open there; tells whether it did. -/
def openBlock (column : Int) : Scanner Bool := do
  let s ← get
  if s.indent < column then
    set { s with indent := column, outer := s.indent :: s.outer }
    pure true
  else pure false

/-- Takes what separates tokens: blanks, comments and line ends. A new line may begin with a key. -/
def separation : (fuel : Nat) → Scanner Unit
  | 0 => pure ()
  | fuel + 1 => do
    let _ ← read (Reader.takeWhile (· = ' '))
    if (← get).cursor.peek = some '#' then
      let _ ← read (Reader.takeWhile (!isBreak ·))
    if (← read Reader.lineBreak?).isSome then
      if (← get).flow = 0 then allowKey true
      separation fuel

/-- Adds a token that is a single character. -/
def emitMark (token : Token) : Scanner Unit := do
  read (Reader.advance 1)
  emit token

/-- Takes a marker between documents. -/
def marker (token : Token) : Scanner Unit := do
  unwind (-1)
  dropPending
  allowKey false
  read (Reader.advance 3)
  emit token

def openFlow (token : Token) : Scanner Unit := do
  savePending
  modify fun s => { s with flow := s.flow + 1 }
  allowKey true
  emitMark token

def closeFlow (token : Token) : Scanner Unit := do
  dropPending
  if (← get).flow = 0 then malformed
  modify fun s => { s with flow := s.flow - 1 }
  allowKey false
  emitMark token

/-- In a block, opens one of this kind here, which has to be a place for it. -/
def enterBlock (start : Token) : Scanner Unit := do
  let s ← get
  if s.flow = 0 then
    if !s.keyAllowed then malformed
    if ← openBlock s.cursor.column then emit start

def item : Scanner Unit := do
  enterBlock .blockSequence
  allowKey true
  dropPending
  emitMark .item

def key : Scanner Unit := do
  enterBlock .blockMapping
  allowKey ((← get).flow = 0)
  dropPending
  emitMark .key

/-- Takes the colon before a value. The possible key of this level is one then. -/
def value : Scanner Unit := do
  let s ← get
  match s.pending.lookup s.flow with
  | some found =>
    set { s with pending := s.pending.filter (·.1 ≠ s.flow) }
    insert found.place .key
    if s.flow = 0 then
      if ← openBlock found.column then insert found.place .blockMapping
    allowKey false
  | none =>
    enterBlock .blockMapping
    allowKey (s.flow = 0)
    dropPending
  emitMark .value

/-- Takes a token that may be a key or begin one. -/
def keyLike (reader : Reader Token) : Scanner Unit := do
  savePending
  allowKey false
  emit (← read reader)

def blockScalar (folded : Bool) : Scanner Unit := do
  allowKey true
  dropPending
  emit (.scalar (← read (Reader.block folded (← get).indent)) false)

def plainScalar : Scanner Unit := do
  savePending
  let s ← get
  let (text, crossed) ← read (Reader.plain (s.flow ≠ 0) (s.indent + 1))
  allowKey crossed
  emit (.scalar text true)

/-- A plain scalar may begin with `c` before `next`. -/
def beginsPlain (inFlow : Bool) (c : Char) (next : Option Char) : Bool :=
  !(isGap c || isBreak c || "-?:,[]\x7b\x7d#&*!|>'\"%@\x60".toList.contains c) ||
    (!endsToken next && (c = '-' || (!inFlow && (c = '?' || c = ':'))))

def tokenAt (s : Scan) (c : Char) : Scanner Unit :=
  let here := s.cursor
  let next := here.peekAt 1
  let inFlow := s.flow ≠ 0
  let atStart := here.column = 0
  if c = '%' ∧ atStart then do
    unwind (-1)
    dropPending
    allowKey false
    emit (← read Reader.directive)
  else if atStart ∧ here.atMarker '-' then marker .documentStart
  else if atStart ∧ here.atMarker '.' then marker .documentEnd
  else if c = '[' then openFlow .flowSequence
  else if c = '\x7b' then openFlow .flowMapping
  else if c = ']' then closeFlow .flowSequenceEnd
  else if c = '\x7d' then closeFlow .flowMappingEnd
  else if c = ',' then do
    allowKey true
    dropPending
    emitMark .comma
  else if c = '-' ∧ endsToken next then item
  else if c = '?' ∧ (inFlow ∨ endsToken next) then key
  else if c = ':' ∧ (inFlow ∨ endsToken next) then value
  else if c = '*' then keyLike (return .alias (← Reader.anchorName))
  else if c = '&' then keyLike (return .anchor (← Reader.anchorName))
  else if c = '!' then keyLike Reader.tag
  else if c = '|' ∧ !inFlow then blockScalar false
  else if c = '>' ∧ !inFlow then blockScalar true
  else if c = '\'' ∨ c = '"' then keyLike (return .scalar (← Reader.quoted c) false)
  else if beginsPlain inFlow c next then plainScalar
  else malformed

/-- Takes the tokens up to the end of the text. -/
def scanAll : (fuel : Nat) → Scanner Unit
  | 0 => malformed
  | fuel + 1 => do
    separation ((← get).cursor.rest.length + 1)
    dropStale
    unwind (← get).cursor.column
    let s ← get
    match s.cursor.peek with
    | none =>
      unwind (-1)
      dropPending
    | some c =>
      tokenAt s c
      scanAll fuel

end Scanner

/-- The character may stand in a document. -/
def isAllowed (c : Char) : Bool :=
  let n := c.toNat
  n = 0x09 || n = 0x0a || n = 0x0d || (0x20 ≤ n && n ≤ 0x7e) || n = 0x85 ||
    (0xa0 ≤ n && n ≤ 0xd7ff) || (0xe000 ≤ n && n ≤ 0xfffd) || 0x10000 ≤ n

/-- The tokens of a text. A byte order mark at its very start is no part of it. -/
def Token.scan (text : String) : Except Problem (List Token) :=
  let chars := text.toList
  if !chars.all isAllowed then .error .malformed
  else
    let cursor : Cursor := { rest := chars }
    let start := if chars.head? = some '\ufeff' then cursor.step else cursor
    match (Scanner.scanAll (chars.length + 1)).run { cursor := start } with
    | .ok (_, s) => .ok s.tokens.reverse
    | .error problem => .error problem

end AllowPolicy.Yaml
