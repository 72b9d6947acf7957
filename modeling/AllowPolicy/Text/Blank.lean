import AllowPolicy.Text.Ranges

namespace AllowPolicy.Text

/-- White space around a number: the ASCII blanks and the spaces of Unicode, but not the four
    information separators U+001C to U+001F. -/
def blankRanges : List (Nat × Nat) := [
    (0x0009, 0x000d), (0x0020, 0x0020), (0x0085, 0x0085), (0x00a0, 0x00a0), (0x1680, 0x1680),
    (0x2000, 0x200a), (0x2028, 0x2029), (0x202f, 0x202f), (0x205f, 0x205f), (0x3000, 0x3000)]

def isBlank (c : Char) : Bool := inRanges blankRanges c

end AllowPolicy.Text
