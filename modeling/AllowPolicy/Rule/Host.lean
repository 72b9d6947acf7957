import AllowPolicy.Text.Lowercase
import AllowPolicy.Text.Split

namespace AllowPolicy.Host

open AllowPolicy.Text

/-- A host name as it is compared: lower case, without trailing dots. -/
def normal (host : List Char) : List Char := dropTrailing (· = '.') (lower host)

/-- A normal host name against a lower-case pattern. A pattern `*.b` stands for `b` and every name
    that ends in a dot and `b`; any other pattern stands for itself. -/
def matchesNormal (pattern host : List Char) : Bool :=
  match after? ['*', '.'] pattern with
  | some base => ('.' :: base).isSuffixOf host || host == base
  | none => host == pattern

/-- The host name matches the pattern; letter case and trailing dots of the host do not count. -/
def isMatch (pattern host : String) : Bool :=
  matchesNormal (lower pattern.toList) (normal host.toList)

end AllowPolicy.Host
