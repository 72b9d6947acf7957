import AllowPolicy.Identity

namespace AllowPolicy

/-- Where the identities of applications come from. -/
inductive Settings.Source where
  | static
  | system
  deriving DecidableEq, Repr

def Settings.Source.name : Source → String
  | .static => "static"
  | .system => "system"

/-- How the toggle runs. -/
structure Settings.Toggling where
  enabled : Bool := false
  interval : Float := 5
  startEnabled : Bool := true

/-- What the filter in front of the network is to do. -/
structure Settings.Preferences where
  filter : Bool := true
  logApp : Bool := true
  screenOn : Bool := false
  screenOnWifi : Bool := false
  screenOnOther : Bool := false
  whitelistWifi : Bool := true
  whitelistOther : Bool := true
  whitelistRoaming : Bool := false
  lockdown : Bool := false
  lockdownWifi : Bool := false
  lockdownOther : Bool := false
  deriving DecidableEq, Repr

/-- All that can be set. -/
structure Settings where
  /-- The file of the rule store. -/
  database : String := "netrules.db"
  toggle : Settings.Toggling := {}
  level : Level := .info
  source : Settings.Source := .static
  /-- The identities of the static source. -/
  identities : List (String × Int) := []
  preferences : Settings.Preferences := {}

namespace Settings

/-- The resolver that the settings choose; the accounts are those of the system. -/
def resolver (settings : Settings) (accounts : List (String × Int)) : Resolver :=
  match settings.source with
  | .static => .ofTable settings.identities
  | .system => .ofAccounts accounts

end Settings

end AllowPolicy
