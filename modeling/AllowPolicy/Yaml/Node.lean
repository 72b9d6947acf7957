import AllowPolicy.Yaml.Tag
import AllowPolicy.Yaml.Token.Scan

namespace AllowPolicy.Yaml

/-- A part of a document. -/
inductive Node where
  | scalar (tag : Tag) (text : String)
  | sequence (tag : Tag) (items : List Node)
  | mapping (tag : Tag) (entries : List (Node × Node))
  /-- The part that bears this anchor, once more. -/
  | alias (name : String)

instance : Inhabited Node := ⟨.alias ""⟩

/-- A document as it is written, with the parts that bear anchors. -/
structure Document where
  root : Node
  anchors : List (String × Node)

/-- What is left to read of a document, and what is known of it. -/
structure Reading where
  tokens : List Token
  /-- What the handles of tags stand for. -/
  handles : List (String × String)
  /-- The anchors so far, also of parts that are still open. -/
  names : List String := []
  anchors : List (String × Node) := []

abbrev Composer := StateT Reading (Except Problem)

namespace Composer

def peek : Composer (Option Token) := return (← get).tokens.head?

def skip : Composer Unit := modify fun r => { r with tokens := r.tokens.drop 1 }

/-- The scalar that stands where nothing is written. -/
def nothing : Node := .scalar (.ofPlain "") ""

/-- Takes an anchor, if there is one here. An anchor must be new. -/
def anchor? : Composer (Option String) := do
  match ← peek with
  | some (.anchor name) => skip; pure (some name)
  | _ => pure none

/-- Takes the full name of a tag, if there is one here. -/
def tag? : Composer (Option String) := do
  match ← peek with
  | some (.tag handle suffix) =>
    skip
    match handle with
    | none => pure (some suffix)
    | some handle =>
      match (← get).handles.lookup handle with
      | some meaning => pure (some (meaning ++ suffix))
      | none => malformed
  | _ => pure none

/-- Takes an anchor and a tag, in either order. -/
def properties : Composer (Option String × Option String) := do
  match ← anchor? with
  | some name => pure (some name, ← tag?)
  | none =>
    let tag ← tag?
    pure (← anchor?, tag)

/-- Declares the anchor of a part that begins. -/
def declare (anchor : Option String) : Composer Unit := do
  match anchor with
  | none => pure ()
  | some name =>
    if (← get).names.contains name then malformed
    modify fun r => { r with names := name :: r.names }

/-- Keeps a finished part under its anchor. -/
def keep (anchor : Option String) (node : Node) : Composer Node := do
  if let some name := anchor then
    modify fun r => { r with anchors := (name, node) :: r.anchors }
  pure node

/-- The tag as it is given, or else the one that the form shows. -/
def tagOr (given : Option String) (shown : Tag) : Tag :=
  match given with
  | none | some "!" => shown
  | some name => .ofName name

def scalarTag (given : Option String) (text : String) (isPlain : Bool) : Tag :=
  match given with
  | none => if isPlain then .ofPlain text else .text
  | some "!" => .ofPlain text
  | some name => .ofName name

/-- Where a node stands: this decides which collections may begin. -/
inductive Place where
  | flow
  | block
  /-- In a block mapping, where items may stand no further in than their key. -/
  | blockEntry
  deriving DecidableEq

/-- One of the tokens comes next. -/
def isNext (tokens : List Token) : Composer Bool := return (← peek).any tokens.contains

mutual

/-- Takes a node. -/
def node (place : Place) : (fuel : Nat) → Composer Node
  | 0 => malformed
  | fuel + 1 => do
    match ← peek with
    | some (.alias name) =>
      skip
      if (← get).names.contains name then pure (.alias name) else malformed
    | _ =>
      let (anchor, tag) ← properties
      let seq (items : Composer (List Node)) : Composer Node := do
        declare anchor
        keep anchor (.sequence (tagOr tag .sequence) (← items))
      let map (entries : Composer (List (Node × Node))) : Composer Node := do
        declare anchor
        keep anchor (.mapping (tagOr tag .mapping) (← entries))
      match ← peek, place with
      | some .item, .blockEntry => seq (openItems fuel)
      | some (.scalar text isPlain), _ =>
        skip
        declare anchor
        keep anchor (.scalar (scalarTag tag text isPlain) text)
      | some .flowSequence, _ => skip; seq (flowItems true fuel)
      | some .flowMapping, _ => skip; map (flowEntries true fuel)
      | some .blockSequence, .block | some .blockSequence, .blockEntry =>
        skip
        seq (blockItems fuel)
      | some .blockMapping, .block | some .blockMapping, .blockEntry =>
        skip
        map (blockEntries fuel)
      | _, _ =>
        if anchor.isNone && tag.isNone then malformed
        else
          declare anchor
          keep anchor (.scalar (tagOr tag (.ofPlain "")) "")

/-- Takes a node, or nothing before one of the tokens. -/
def nodeUnless (stops : List Token) (place : Place) : (fuel : Nat) → Composer Node
  | 0 => malformed
  | fuel + 1 => do
    if ← isNext stops then pure nothing else node place fuel

/-- Takes the items of a block sequence with its end. -/
def blockItems : (fuel : Nat) → Composer (List Node)
  | 0 => malformed
  | fuel + 1 => do
    match ← peek with
    | some .item =>
      skip
      let item ← nodeUnless [.item, .blockEnd] .block fuel
      return item :: (← blockItems fuel)
    | some .blockEnd => skip; pure []
    | _ => malformed

/-- Takes items that stand directly in a block mapping. -/
def openItems : (fuel : Nat) → Composer (List Node)
  | 0 => malformed
  | fuel + 1 => do
    match ← peek with
    | some .item =>
      skip
      let item ← nodeUnless [.item, .key, .value, .blockEnd] .block fuel
      return item :: (← openItems fuel)
    | _ => pure []

/-- Takes the entries of a block mapping with its end. -/
def blockEntries : (fuel : Nat) → Composer (List (Node × Node))
  | 0 => malformed
  | fuel + 1 => do
    let stops : List Token := [.key, .value, .blockEnd]
    match ← peek with
    | some .key =>
      skip
      let key ← nodeUnless stops .blockEntry fuel
      let value ← blockValue fuel
      return (key, value) :: (← blockEntries fuel)
    | some .blockEnd => skip; pure []
    | _ => malformed

/-- Takes the value of an entry of a block mapping; nothing if no colon stands here. -/
def blockValue : (fuel : Nat) → Composer Node
  | 0 => malformed
  | fuel + 1 => do
    match ← peek with
    | some .value => skip; nodeUnless [.key, .value, .blockEnd] .blockEntry fuel
    | _ => pure nothing

/-- Takes the value of an entry inside brackets; nothing if no colon stands here. -/
def flowValue (close : Token) : (fuel : Nat) → Composer Node
  | 0 => malformed
  | fuel + 1 => do
    match ← peek with
    | some .value => skip; nodeUnless [.comma, close] .flow fuel
    | _ => pure nothing

/-- Takes the items of a flow sequence with its end. An item with a key is a mapping of its own. -/
def flowItems (isFirst : Bool) : (fuel : Nat) → Composer (List Node)
  | 0 => malformed
  | fuel + 1 => do
    if (← peek) = some .flowSequenceEnd then
      skip
      pure []
    else
      if !isFirst then
        if (← peek) = some .comma then skip else malformed
      match ← peek with
      | some .flowSequenceEnd => skip; pure []
      | some .key =>
        skip
        let key ← nodeUnless [.value, .comma, .flowSequenceEnd] .flow fuel
        let value ← flowValue .flowSequenceEnd fuel
        return .mapping .mapping [(key, value)] :: (← flowItems false fuel)
      | _ =>
        let item ← node .flow fuel
        return item :: (← flowItems false fuel)

/-- Takes the entries of a flow mapping with its end. -/
def flowEntries (isFirst : Bool) : (fuel : Nat) → Composer (List (Node × Node))
  | 0 => malformed
  | fuel + 1 => do
    if (← peek) = some .flowMappingEnd then
      skip
      pure []
    else
      if !isFirst then
        if (← peek) = some .comma then skip else malformed
      match ← peek with
      | some .flowMappingEnd => skip; pure []
      | some .key =>
        skip
        let key ← nodeUnless [.value, .comma, .flowMappingEnd] .flow fuel
        let value ← flowValue .flowMappingEnd fuel
        return (key, value) :: (← flowEntries false fuel)
      | _ =>
        let key ← node .flow fuel
        return (key, nothing) :: (← flowEntries false fuel)

end

/-- Takes the directives before a document: what the handles stand for. -/
def directives (versions : Nat) (handles : List (String × String)) :
    List Token → Except Problem (List (String × String) × List Token)
  | .version major :: rest =>
    if versions ≠ 0 ∨ major ≠ 1 then .error .malformed else directives 1 handles rest
  | .handle handle meaning :: rest =>
    if (handles.lookup handle).isSome then .error .malformed
    else directives versions ((handle, meaning) :: handles) rest
  | .otherDirective :: rest => directives versions handles rest
  | tokens => .ok (handles, tokens)

/-- The handles that need no directive. -/
def usualHandles : List (String × String) := [("!", "!"), ("!!", Tag.standard)]

end Composer

/-- The token belongs to the head of a document. -/
def Token.isDirective : Token → Bool
  | .version _ | .handle _ _ | .otherDirective => true
  | _ => false

/-- The one document of a text; none for a text without any. -/
def Document.ofTokens (tokens : List Token) : Except Problem (Option Document) := do
  let begins (ts : List Token) : Bool := match ts with
    | t :: _ => t.isDirective || t = .documentStart
    | [] => true
  let compose (place : Reading) : Except Problem (Option Document) := do
    let (root, r) ← (Composer.node .block (4 * tokens.length + 4)).run place
    let rest := (r.tokens.dropWhile (· = .documentEnd))
    if rest.isEmpty then pure (some ⟨root, r.anchors⟩) else throw .malformed
  if tokens.isEmpty then pure none
  else if !begins tokens then compose { tokens, handles := Composer.usualHandles }
  else
    let (given, rest) ← Composer.directives 0 [] tokens
    match rest with
    | .documentStart :: body =>
      let handles := given ++ Composer.usualHandles
      if begins body || body.head? = some .documentEnd then
        if (body.dropWhile (· = .documentEnd)).isEmpty then
          pure (some ⟨Composer.nothing, []⟩)
        else throw .malformed
      else compose { tokens := body, handles }
    | _ => throw .malformed

end AllowPolicy.Yaml
