import AllowPolicy.Screen.Markup
import AllowPolicy.Screen.Width

namespace AllowPolicy.Screen

/-- The distance of tab stops. -/
def tabStop : Nat := 8

/-- A text with blanks in place of tabs; it starts in a column. -/
def expandTabs (column : Nat) : List Char → List Char
  | [] => []
  | c :: rest =>
    if c = '\t' then
      let blanks := tabStop - column % tabStop
      List.replicate blanks ' ' ++ expandTabs (column + blanks) rest
    else c :: expandTabs (if c = '\n' then 0 else column + charWidth c) rest

/-- The line or lines that a marked text makes on the screen. -/
def print (marked : String) : Outcome String :=
  (fun shown => String.ofList (expandTabs 0 shown ++ ['\n'])) <$> render marked

/-- A column of a table, as wide as its widest cell if no width is given. -/
structure Column where
  title : String
  width : Option Nat := none

/-- The characters that end a line when the width of a text is taken. -/
def endsLine (c : Char) : Bool :=
  c = '\n' || ('\x1c' ≤ c && c ≤ '\x1e') || c = '\x85' || c = '\u2028' || c = '\u2029'

/-- The width of a shown text: that of its widest line. Tabs count for nothing. -/
def textWidth (shown : List Char) : Nat :=
  ((shown.splitOnP endsLine).map width).foldl max 0

/-- The words of a line, each with the blanks behind it, the first also with those before it. -/
def lineWords (line : List Char) : List (List Char) :=
  match line.splitBy fun a b => !isSpace a || isSpace b with
  | blanks :: first :: rest =>
    if blanks.all isSpace then (blanks ++ first) :: rest else blanks :: first :: rest
  | words => words

/-- Words put into lines of a width; `line` is the line begun, of which `used` columns are taken. -/
def fill (wide used : Nat) (line : List Char) : List (List Char) → List (List Char)
  | [] => [line]
  | word :: rest =>
    if used + width (Text.dropTrailing isSpace word) ≤ wide then
      fill wide (used + width word) (line ++ word) rest
    else if line.isEmpty then fill wide (width word) word rest
    else line :: fill wide (width word) word rest

/-- A line without the blanks at its end that go beyond so many characters. -/
def trimEnd (wide : Nat) (line : List Char) : List Char :=
  let blanks := (line.reverse.takeWhile isSpace).length
  line.take (line.length - min blanks (line.length - wide))

/-- The start of a line, in exactly so many columns. -/
def cut : (wide : Nat) → List Char → List Char
  | wide, [] => List.replicate wide ' '
  | wide, c :: rest =>
    if charWidth c ≤ wide then
      if charWidth c = wide then [c] else c :: cut (wide - charWidth c) rest
    else List.replicate wide ' '

/-- A line that fits into a width; an ellipsis stands for what is left out. -/
def shorten (wide : Nat) (line : List Char) : List Char :=
  if wide < width line then cut (wide - 1) line ++ ['…'] else line

/-- The lines of a shown text in a column of a width. -/
def wrap (wide : Nat) (shown : List Char) : List (List Char) :=
  ((expandTabs 0 shown).splitOn '\n').flatMap fun line =>
    (fill wide 0 [] (lineWords line)).map fun line => shorten wide (trimEnd wide line)

/-- A line filled up to a width, with a blank on either side. -/
def pad (wide : Nat) (line : List Char) : List Char :=
  ' ' :: line ++ List.replicate (wide - width line) ' ' ++ [' ']

/-- One line of a table: the sign at the left, the cells with a sign between them, and the sign at
    the right. -/
def ruleLine (left between right : Char) (cells : List (List Char)) : List Char :=
  left :: [between].intercalate cells ++ [right, '\n']

/-- A horizontal line of a table with columns of these widths. -/
def border (left line between right : Char) (widths : List Nat) : List Char :=
  ruleLine left between right (widths.map fun wide => List.replicate (wide + 2) line)

/-- The lines of a row, as many as its highest cell has. -/
def rowLines (bar : Char) (widths : List Nat) (cells : List (List Char)) : List Char :=
  let wrapped := (widths.zip cells).map fun (wide, cell) => (wide, wrap wide cell)
  let height := (wrapped.map (·.2.length)).foldl max 0
  (List.range height).flatMap fun i =>
    ruleLine bar bar bar (wrapped.map fun (wide, lines) => pad wide ((lines[i]?).getD []))

/-- The width of a column with these cells. -/
def fittedWidth (column : Column) (cells : List (List Char)) : Nat :=
  column.width.getD ((cells.map textWidth).foldl max (textWidth column.title.toList))

/-- A table with a heading, of which every cell is a marked text. -/
def table (columns : List Column) (rows : List (List String)) : Outcome String := do
  let cells ← rows.mapM (·.mapM render)
  let widths := columns.mapIdx fun i column => fittedWidth column (cells.filterMap (·[i]?))
  pure (String.ofList (border '┏' '━' '┳' '┓' widths ++
    rowLines '┃' widths (columns.map (·.title.toList)) ++ border '┡' '━' '╇' '┩' widths ++
    cells.flatMap (rowLines '│' widths) ++ border '└' '─' '┴' '┘' widths))

end AllowPolicy.Screen
