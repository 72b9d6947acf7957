import AllowPolicy.Yaml.Node
import AllowPolicy.Yaml.Scalar

namespace AllowPolicy.Yaml

namespace Node

mutual

/-- The node with `behind` in place of what its references name. -/
def expand (behind : String → Node) : Node → Node
  | .scalar tag text => .scalar tag text
  | .sequence tag items => .sequence tag (expandItems behind items)
  | .mapping tag entries => .mapping tag (expandEntries behind entries)
  | .alias name => behind name

def expandItems (behind : String → Node) : List Node → List Node
  | [] => []
  | item :: rest => expand behind item :: expandItems behind rest

def expandEntries (behind : String → Node) : List (Node × Node) → List (Node × Node)
  | [] => []
  | (key, value) :: rest => (expand behind key, expand behind value) :: expandEntries behind rest

end

/-- The text of a scalar. A mapping is read as the scalar that stands in for it. -/
def text? : Node → Option String
  | .scalar _ text => some text
  | .mapping _ entries => standIn? entries
  | _ => none
where
  /-- The text of the entry that stands in for its mapping. -/
  standIn? : List (Node × Node) → Option String
    | [] => none
    | (.scalar .standIn _, value) :: _ => text? value
    | _ :: rest => standIn? rest

/-- The node is the key of a merge. -/
def isMerge : Node → Bool
  | .scalar tag _ | .sequence tag _ | .mapping tag _ => tag = .merge
  | .alias _ => false

/-- A key that would stand in for its mapping is plain text in a mapping that is read as one. -/
def asKey : Node → Node
  | .scalar .standIn text => .scalar .text text
  | node => node

mutual

/-- The entries of a mapping, those of its merges first; a later entry for a key counts. -/
def merged? : Node → Option (List (Node × Node))
  | .mapping _ entries => do
    let (early, own) ← mergedEntries? entries
    pure (early ++ own)
  | _ => none

/-- What is merged into a mapping by its entries, and the others. -/
def mergedEntries? : List (Node × Node) → Option (List (Node × Node) × List (Node × Node))
  | [] => some ([], [])
  | (key, value) :: rest => do
    let (early, own) ← mergedEntries? rest
    if key.isMerge then
      let here ← match value with
        | .sequence _ items => mergedItems? items
        | .mapping tag entries => merged? (.mapping tag entries)
        | _ => none
      pure (here ++ early, own)
    else pure (early, (key.asKey, value) :: own)

/-- The entries of several mappings, those of the first last, as they count most. -/
def mergedItems? : List Node → Option (List (Node × Node))
  | [] => some []
  | item :: rest => do
    let here ← merged? item
    let later ← mergedItems? rest
    pure (later ++ here)

end

def tag : Node → Tag
  | .scalar tag _ | .sequence tag _ | .mapping tag _ => tag
  | .alias _ => .unknown

/-- The node stands for a collection; such a value is no key. -/
def isCollection (node : Node) : Bool :=
  [Tag.sequence, .mapping, .set, .orderedMap, .pairs].contains node.tag

def isMapping : Node → Bool
  | .mapping _ _ => true
  | _ => false

/-- The scalar value of a node. For a date nothing may stand in: its form is looked for in what the
    node itself holds. -/
def scalar? (node : Node) : Except Problem Value :=
  match node.text? with
  | none => .error .malformed
  | some text =>
    if node.tag = .stamp && node.isMapping then
      Scalar.failed (.badType "expected string or bytes-like object, got 'list'")
    else Scalar.value node.tag text

/-- The only entry of each item. -/
def pairs? : List Node → Option (List (Node × Node))
  | [] => some []
  | .mapping _ [entry] :: rest => (pairs? rest).map (entry :: ·)
  | _ => none

/-- Looks at a node on its own: a scalar has to have a value, a collection is looked into later. -/
def visit (node : Node) : Except Problem (List Node) :=
  if node.isCollection then .ok [node]
  else match node.scalar? with
    | .ok _ => .ok []
    | .error problem => .error problem

/-- Looks at nodes in order. -/
def visitAll : List Node → Except Problem (List Node)
  | [] => .ok []
  | node :: rest => return (← node.visit) ++ (← visitAll rest)

/-- Looks at keys and values in order; no key may be a collection. -/
def visitEntries : List (Node × Node) → Except Problem (List Node)
  | [] => .ok []
  | (key, value) :: rest => do
    let _ ← key.visit
    if key.isCollection then .error .malformed
    else return (← value.visit) ++ (← visitEntries rest)

/-- Looks into a collection, one level deep: the collections in it. -/
def lookInto (node : Node) : Except Problem (List Node) :=
  match node.tag, node with
  | .sequence, .sequence _ items => visitAll items
  | .mapping, .mapping _ _ | .set, .mapping _ _ =>
    match node.merged? with
    | some entries => visitEntries entries
    | none => .error .malformed
  | .orderedMap, .sequence _ items | .pairs, .sequence _ items =>
    match pairs? items with
    | some entries => visitAll (entries.flatMap fun (key, value) => [key, value])
    | none => .error .malformed
  | _, _ => .error .malformed

mutual

def size : Node → Nat
  | .scalar _ _ | .alias _ => 1
  | .sequence _ items => sizeItems items + 1
  | .mapping _ entries => sizeEntries entries + 1

def sizeItems : List Node → Nat
  | [] => 0
  | item :: rest => size item + sizeItems rest

def sizeEntries : List (Node × Node) → Nat
  | [] => 0
  | (key, value) :: rest => size key + size value + sizeEntries rest

end

/-- Looks into collections level by level, so that of two faults the outer one is reported. -/
def checkAll : (fuel : Nat) → List Node → Except Problem Unit
  | 0, _ => .ok ()
  | _, [] => .ok ()
  | fuel + 1, node :: rest => do
    let inner ← node.lookInto
    checkAll fuel (rest ++ inner)

/-- Every scalar in the node has a value, and every collection its form. -/
def check (node : Node) : Except Problem Unit := do
  checkAll (node.size + 1) (← node.visit)

/-- The value of a scalar, or of a collection from those of its parts. -/
def assemble (node : Node) (items : List Value) (entries : List (Value × Value)) : Value :=
  match node.tag with
  | .sequence => .list items
  | .mapping => .table (entries.foldl (fun table (key, value) => Value.put table key value) [])
  | .set => .list (entries.map (·.1))
  | .orderedMap | .pairs => .list (items.flatMap fun
      | .table entries => entries.map fun (key, value) => .list [key, value]
      | _ => [])
  | _ =>
    match node.scalar? with
    | .ok v => v
    | .error _ => .null

/-- The value of a node within `depth` levels; what lies deeper is left out. -/
def value : (depth : Nat) → Node → Value
  | 0, _ => .null
  | depth + 1, node =>
    let items := match node with
      | .sequence _ items => items.map (value depth)
      | _ => []
    let entries := match node.merged? with
      | some entries => entries.map fun (key, v) => (value depth key, value depth v)
      | none => []
    assemble node items entries

end Node

namespace Document

/-- What anchors stand for when at most `hops` references are followed on any way down. -/
def behind (document : Document) : (hops : Nat) → String → Node
  | 0, _ => .scalar .null ""
  | hops + 1, name =>
    ((document.anchors.lookup name).map (Node.expand (document.behind hops))).getD
      (.scalar .null "")

/-- The document without references. As many are followed on any way down as there are anchors; a
    document that contains itself is left out from there on. -/
def expanded (document : Document) : Node :=
  document.root.expand (document.behind document.anchors.length)

end Document

/-- The value that a text stands for; nothing for a text without a document. -/
def read (text : String) : Except Problem Value := do
  match ← Document.ofTokens (← Token.scan text) with
  | none => pure .null
  | some document =>
    let root := document.expanded
    root.check
    pure (root.value (root.size + 1))

end AllowPolicy.Yaml
