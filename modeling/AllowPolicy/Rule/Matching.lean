import AllowPolicy.Rule
import AllowPolicy.Rule.Host
import AllowPolicy.Net.Ipv4

namespace AllowPolicy

/-- Where a connection goes: a host name, an address, or both. -/
structure Destination where
  host : Option String := none
  ip : Option String := none

/-- A domain rule looks at the host name only, an address rule at the address only. -/
def Rule.allows (rule : Rule) (target : Destination) : Bool :=
  match rule.kind with
  | .domain => target.host.any (Host.isMatch rule.pattern)
  | .ipv4 => target.ip.any (Ipv4.isMatch rule.pattern)

end AllowPolicy
