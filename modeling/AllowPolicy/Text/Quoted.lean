import AllowPolicy.Text.Printable

namespace AllowPolicy.Text

/-- The hexadecimal digits of `n`, lower case, padded with zeros to `width`. -/
def hexPadded (width n : Nat) : List Char :=
  let digits := Nat.toDigits 16 n
  List.replicate (width - digits.length) '0' ++ digits

/-- A text is quoted with single quotes, unless it has a single quote and no double quote. -/
def quoteFor (s : List Char) : Char :=
  if s.contains '\'' && !s.contains '"' then '"' else '\''

/-- How one character is written between the quotes `quote`: the quote itself and the backslash
    behind a backslash, tab and line ends by letter, and what cannot be shown by its number. -/
def escapeChar (quote c : Char) : List Char :=
  if c = quote ∨ c = '\\' then ['\\', c]
  else if c = '\t' then ['\\', 't']
  else if c = '\n' then ['\\', 'n']
  else if c = '\r' then ['\\', 'r']
  else if isPrintable c then [c]
  else if c.toNat < 0x100 then '\\' :: 'x' :: hexPadded 2 c.toNat
  else if c.toNat < 0x10000 then '\\' :: 'u' :: hexPadded 4 c.toNat
  else '\\' :: 'U' :: hexPadded 8 c.toNat

/-- The text between quotes, so that no control or invisible character is left in it. -/
def quoteChars (s : List Char) : List Char :=
  quoteFor s :: s.flatMap (escapeChar (quoteFor s)) ++ [quoteFor s]

/-- The quoted form of a text, as messages show it. -/
def quoted (s : String) : String := String.ofList (quoteChars s.toList)

end AllowPolicy.Text
