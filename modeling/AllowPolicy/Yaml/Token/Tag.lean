import AllowPolicy.Yaml.Token
import AllowPolicy.Yaml.Token.Scalar

namespace AllowPolicy.Yaml.Reader

/-- The characters of the written form of a tag. -/
def isTagChar (c : Char) : Bool := c.isAlphanum || "-;/?:@&=+$,_.!~*'()[]%".toList.contains c

/-- Takes bytes that are each written as a percent sign and two hexadecimal digits. -/
def percentBytes : (fuel : Nat) → Reader (List UInt8)
  | 0 => pure []
  | fuel + 1 => do
    if (← peek) = some '%' then
      advance 1
      let b ← hexDigits 2
      return b.toUInt8 :: (← percentBytes fuel)
    else pure []

def tagChars : (fuel : Nat) → Reader (List Char)
  | 0 => pure []
  | fuel + 1 => do
    match ← peek with
    | some '%' =>
      match String.fromUTF8? ⟨(← percentBytes fuel).toArray⟩ with
      | some text => return text.toList ++ (← tagChars fuel)
      | none => malformed
    | some c =>
      if isTagChar c then
        advance 1
        return c :: (← tagChars fuel)
      else pure []
    | none => pure []

/-- Takes the written form of a tag, which is not empty. -/
def tagText : Reader String := do
  let chars ← tagChars ((← get).rest.length + 1)
  if chars.isEmpty then malformed else pure (.ofList chars)

/-- Takes a tag handle: one exclamation mark, or a name between two. -/
def tagHandle : Reader String := do
  match (← get).rest with
  | '!' :: rest =>
    if rest.head? = some ' ' then
      advance 1
      pure "!"
    else
      let name := rest.takeWhile isNameChar
      if rest[name.length]? = some '!' then
        advance (name.length + 2)
        pure (.ofList ('!' :: name ++ ['!']))
      else malformed
  | _ => malformed

def tag : Reader Token := do
  let here ← get
  let token ←
    if here.peekAt 1 = some '<' then
      advance 2
      let suffix ← tagText
      if (← peek) = some '>' then
        advance 1
        pure (Token.tag none suffix)
      else malformed
    else if endsToken (here.peekAt 1) then
      advance 1
      pure (Token.tag none "!")
    else if ((here.rest.drop 1).takeWhile fun c => c ≠ ' ' && !isBreak c).contains '!' then
      let handle ← tagHandle
      pure (Token.tag (some handle) (← tagText))
    else
      advance 1
      pure (Token.tag (some "!") (← tagText))
  if endsWord (← peek) then pure token else malformed

/-- Takes the name of an anchor or alias, of which the mark stands here. -/
def anchorName : Reader String := do
  advance 1
  let name ← takeWhile isNameChar
  let ends := match ← peek with
    | none => true
    | some c => isGap c || isBreak c || "?:,]\x7d%@\x60".toList.contains c
  if !name.isEmpty && ends then pure (.ofList name) else malformed

def digits : Reader Nat := do
  let digits ← takeWhile Char.isDigit
  if digits.isEmpty then malformed
  else if Decimal.mostDigits < digits.length then throw (.tooManyDigits digits.length)
  else pure (digits.foldl (fun n c => 10 * n + (c.toNat - '0'.toNat)) 0)

def directive : Reader Token := do
  advance 1
  let name ← takeWhile isNameChar
  if name.isEmpty || !endsWord (← peek) then malformed
  else
    let token ←
      if name = "YAML".toList then
        let _ ← takeWhile (· = ' ')
        let major ← digits
        if (← peek) = some '.' then
          advance 1
          let _ ← digits
          if endsWord (← peek) then pure (Token.version major) else malformed
        else malformed
      else if name = "TAG".toList then
        let _ ← takeWhile (· = ' ')
        let handle ← tagHandle
        if (← peek) = some ' ' then
          let _ ← takeWhile (· = ' ')
          let meaning ← tagText
          if endsWord (← peek) then pure (Token.handle handle meaning) else malformed
        else malformed
      else
        let _ ← takeWhile (!isBreak ·)
        pure Token.otherDirective
    restOfLine
    pure token

end AllowPolicy.Yaml.Reader
