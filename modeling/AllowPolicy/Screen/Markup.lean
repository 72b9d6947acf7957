import AllowPolicy.Failure
import AllowPolicy.Screen.Pictograph
import AllowPolicy.Text.Split

namespace AllowPolicy.Screen

/-- A part of a text for the screen: what is shown, or a mark for how it is shown. -/
inductive Piece where
  | plain (text : List Char)
  | mark (name : List Char)
  deriving DecidableEq, Repr

/-- The mark in brackets at the start of a text, and what follows it. A mark starts with a small
    letter or one of three signs. -/
def markAt? : List Char → Option (List Char × List Char)
  | '[' :: c :: rest =>
    if ('a' ≤ c && c ≤ 'z') || c = '#' || c = '/' || c = '@' then
      let name := rest.takeWhile fun c => c ≠ ']' && c ≠ '['
      match rest.dropWhile fun c => c ≠ ']' && c ≠ '[' with
      | ']' :: after => some (c :: name, after)
      | _ => none
    else none
  | _ => none

/-- The parts of a text, of which at most `fuel` are read. A backslash before a mark makes it plain
    text, and two backslashes there are one. -/
def piecesWithin : (fuel : Nat) → (passed : List Char) → List Char → List Piece
  | 0, passed, s => [.plain (passed.reverse ++ s)]
  | _, passed, [] => [.plain passed.reverse]
  | fuel + 1, passed, c :: rest =>
    let s := c :: rest
    let slashes := s.takeWhile (· = '\\')
    let bare := s.drop slashes.length
    match markAt? bare with
    | some (name, after) =>
      let kept := List.replicate (slashes.length / 2) '\\'
      let piece : Piece :=
        if slashes.length % 2 = 1 then .plain ('[' :: name ++ [']']) else .mark name
      .plain passed.reverse :: .plain kept :: piece :: piecesWithin fuel [] after
    | none =>
      if slashes.isEmpty then piecesWithin fuel (c :: passed) rest
      else piecesWithin fuel (slashes ++ passed) bare

def pieces (s : List Char) : List Piece := piecesWithin s.length [] s

/-- The words for how a text looks, short and long, in the order of the long ones. -/
def lookWords : List (String × List String) := [
  ("bold", ["bold", "b"]), ("dim", ["dim", "d"]), ("italic", ["italic", "i"]),
  ("underline", ["underline", "u"]), ("blink", ["blink"]), ("blink2", ["blink2"]),
  ("reverse", ["reverse", "r"]), ("conceal", ["conceal", "c"]), ("strike", ["strike", "s"]),
  ("underline2", ["underline2", "uu"]), ("frame", ["frame"]), ("encircle", ["encircle"]),
  ("overline", ["overline", "o"])]

/-- The long word for a look. -/
def look? (word : String) : Option String :=
  (lookWords.find? fun (_, words) => words.contains word).map (·.1)

def colours : List String :=
  let plain := ["black", "red", "green", "yellow", "blue", "magenta", "cyan", "white"]
  "default" :: plain ++ plain.map ("bright_" ++ ·)

/-- The word names a colour, or gives it in six hexadecimal digits. -/
def isColour (word : String) : Bool :=
  colours.contains word ||
    match word.toList with
    | '#' :: digits =>
      digits.length = 6 && digits.all fun c => c.isDigit || ('a' ≤ c && c ≤ 'f')
    | _ => false

structure Style where
  looks : List (String × Bool) := []
  colour : Option String := none
  ground : Option String := none
  link : Option String := none

/-- The style that words describe, added to a style; nothing if a word is not known. -/
def Style.read? (style : Style) : List String → Option Style
  | [] => some style
  | given :: rest =>
    let word := String.ofList (Text.lower given.toList)
    match word, rest with
    | "on", colour :: rest =>
      let colour := String.ofList (Text.lower colour.toList)
      if isColour colour then { style with ground := some colour }.read? rest else none
    | "not", word :: rest =>
      match look? word with
      | some name => { style with looks := (name, false) :: style.looks }.read? rest
      | none => none
    | "link", address :: rest => { style with link := some address }.read? rest
    | word, rest =>
      match look? word with
      | some name => { style with looks := (name, true) :: style.looks }.read? rest
      | none => if isColour word then { style with colour := some word }.read? rest else none

/-- The words of a style, in one order. -/
def Style.words (style : Style) : List String :=
  let look (name : String) : List String :=
    match style.looks.lookup name with
    | some true => [name]
    | some false => ["not", name]
    | none => []
  let words := lookWords.flatMap (fun (name, _) => look name) ++ style.colour.toList ++
    (style.ground.map (["on", ·])).getD [] ++ (style.link.map (["link", ·])).getD []
  if words.isEmpty then ["none"] else words

/-- Blanks between words. -/
def isSpace (c : Char) : Bool := c.isWhitespace || Text.isBlank c

def wordsOf (s : List Char) : List String :=
  ((s.splitOnP isSpace).filter (· ≠ [])).map String.ofList

/-- The name of a mark in the form in which an opening and a closing mark are compared. -/
def normal (mark : List Char) : String :=
  let words := wordsOf mark
  let style? := if words = ["none"] then some {} else Style.read? {} words
  match style? with
  | some style => " ".intercalate style.words
  | none => String.ofList (Text.lower (Text.trim isSpace mark))

/-- The name of a mark without what stands behind an equals sign. -/
def nameOf (mark : List Char) : List Char := mark.takeWhile (· ≠ '=')

/-- Plain text as it is shown: a bracket that starts no mark may have a backslash before it. -/
def unescaped : List Char → List Char
  | '\\' :: '[' :: rest => '[' :: unescaped rest
  | c :: rest => c :: unescaped rest
  | [] => []

/-- The failure for a closing mark that closes nothing. -/
def unclosable (mark : List Char) : Failure :=
  .badMarkup ("closing tag '[" ++ String.ofList mark ++ "]' doesn't match any open tag")

/-- Shows parts in order; `opened` are the names of the open marks, the innermost first. -/
def show? (opened : List String) : List Piece → Outcome (List Char)
  | [] => .ok []
  | .plain text :: rest => (depict (unescaped text) ++ ·) <$> show? opened rest
  | .mark mark :: rest =>
    match nameOf mark with
    | '/' :: name =>
      if name.all isSpace then
        match opened with
        | [] => .error (unclosable mark)
        | _ :: outer => show? outer rest
      else
        let name := normal (Text.trim isSpace name)
        if opened.contains name then show? (opened.erase name) rest else .error (unclosable mark)
    | name => show? (normal name :: opened) rest

/-- The characters that no screen takes: bell, backspace, and three ends of lines or pages. -/
def isDropped (c : Char) : Bool :=
  c = '\x07' || c = '\x08' || c = '\x0b' || c = '\x0c' || c = '\r'

/-- The text that a marked text shows. -/
def render (marked : String) : Outcome (List Char) :=
  (·.filter (!isDropped ·)) <$>
    (if marked.toList.contains '[' then show? [] (pieces marked.toList)
    else .ok (depict marked.toList))

end AllowPolicy.Screen
