import AllowPolicy.Settings
import AllowPolicy.Validation.Scalar

namespace AllowPolicy.Settings

open Validation

/-- A letter in upper case, as far as the names of log levels go: the dotless i is an i. -/
def upper (c : Char) : Char := if c = 'ı' then 'I' else c.toUpper

/-- The level of the given name, in any case. -/
def levelOf? (name : String) : Option Level :=
  Level.all.find? fun level => level.name.toList == name.toList.map upper

def readLevel (v : Value) : Checked Level :=
  (readText v).andThen fun name =>
    match levelOf? name with
    | some level => .fits level
    | none => .issue (.domain ("Unknown log level: " ++ name))

def readSource (v : Value) : Checked Source :=
  match textOf? v with
  | some "static" => .fits .static
  | some "system" => .fits .system
  | _ => .issue (.choice "static" "system")

def readDatabase (v : Value) : Checked String :=
  (Fields.ofValue "DatabaseSettings" v).andThen fun fields =>
    (fun path _ => path)
      <$> fields.optional "path" ({} : Settings).database readNonEmpty
      <*> fields.only ["path"]

def readToggling (v : Value) : Checked Toggling :=
  (Fields.ofValue "ToggleSettings" v).andThen fun fields =>
    (fun enabled interval startEnabled _ => { enabled, interval, startEnabled })
      <$> fields.optional "enabled" ({} : Toggling).enabled readBool
      <*> fields.optional "interval_seconds" ({} : Toggling).interval readPositive
      <*> fields.optional "start_enabled" ({} : Toggling).startEnabled readBool
      <*> fields.only ["enabled", "interval_seconds", "start_enabled"]

def readLogging (v : Value) : Checked Level :=
  (Fields.ofValue "LoggingSettings" v).andThen fun fields =>
    (fun level _ => level)
      <$> fields.optional "level" ({} : Settings).level readLevel
      <*> fields.only ["level"]

/-- The identities with one more; a name that is there keeps its place. -/
def putIdentity (identities : List (String × Int)) (name : String) (uid : Int) :
    List (String × Int) :=
  if identities.any (·.1 = name) then
    identities.map fun (n, u) => if n = name then (n, uid) else (n, u)
  else identities ++ [(name, uid)]

/-- Reads one identity under its name. -/
def readIdentity (entry : Value × Value) : Checked (String × Int) :=
  let step := Issue.Step.ofKey entry.1
  Checked.both Prod.mk
    (((readText entry.1).under (.name "[key]")).under step)
    ((readInt entry.2).under step)

/-- Reads identities, none of which may be zero or less. -/
def readIdentities : Value → Checked (List (String × Int))
  | .table entries =>
    (Checked.all (entries.map readIdentity)).andThen fun read =>
      let identities := read.foldl (fun table (name, uid) => putIdentity table name uid) []
      match identities.find? (·.2 ≤ 0) with
      | some (name, uid) =>
        .issue (.domain ("Identity for " ++ name ++ " must be positive, got " ++ toString uid))
      | none => .fits identities
  | _ => .issue .dictType

/-- The names of the preferences in order. -/
def preferenceNames : List String :=
  ["filter", "log_app", "screen_on", "screen_on_wifi", "screen_on_other", "whitelist_wifi",
    "whitelist_other", "whitelist_roaming", "lockdown", "lockdown_wifi", "lockdown_other"]

def readPreferences (v : Value) : Checked Preferences :=
  let usual : Preferences := {}
  (Fields.ofValue "Preferences" v).andThen fun fields =>
    (fun filter logApp screenOn screenOnWifi screenOnOther whitelistWifi whitelistOther
        whitelistRoaming lockdown lockdownWifi lockdownOther _ =>
      { filter, logApp, screenOn, screenOnWifi, screenOnOther, whitelistWifi, whitelistOther,
        whitelistRoaming, lockdown, lockdownWifi, lockdownOther })
      <$> fields.optional "filter" usual.filter readBool
      <*> fields.optional "log_app" usual.logApp readBool
      <*> fields.optional "screen_on" usual.screenOn readBool
      <*> fields.optional "screen_on_wifi" usual.screenOnWifi readBool
      <*> fields.optional "screen_on_other" usual.screenOnOther readBool
      <*> fields.optional "whitelist_wifi" usual.whitelistWifi readBool
      <*> fields.optional "whitelist_other" usual.whitelistOther readBool
      <*> fields.optional "whitelist_roaming" usual.whitelistRoaming readBool
      <*> fields.optional "lockdown" usual.lockdown readBool
      <*> fields.optional "lockdown_wifi" usual.lockdownWifi readBool
      <*> fields.optional "lockdown_other" usual.lockdownOther readBool
      <*> fields.only preferenceNames

def readSections (v : Value) : Checked Settings :=
  (Fields.ofValue "Settings" v).andThen fun fields =>
    (fun database toggle level source identities preferences _ =>
      { database, toggle, level, source, identities, preferences })
      <$> fields.optional "database" ({} : Settings).database readDatabase
      <*> fields.optional "toggle" {} readToggling
      <*> fields.optional "logging" ({} : Settings).level readLogging
      <*> fields.optional "resolver" ({} : Settings).source readSource
      <*> fields.optional "identities" [] readIdentities
      <*> fields.optional "preferences" {} readPreferences
      <*> fields.only ["database", "toggle", "logging", "resolver", "identities", "preferences"]

/-- The settings that data describes, or why it describes none. -/
def ofValue (v : Value) : Except Refusal Settings := (readSections v).toExcept "Settings"

def Toggling.toValue (toggle : Toggling) : Value :=
  .record [("enabled", .bool toggle.enabled), ("interval_seconds", .real toggle.interval),
    ("start_enabled", .bool toggle.startEnabled)]

def Preferences.toValue (p : Preferences) : Value :=
  .record [("filter", .bool p.filter), ("log_app", .bool p.logApp), ("screen_on", .bool p.screenOn),
    ("screen_on_wifi", .bool p.screenOnWifi), ("screen_on_other", .bool p.screenOnOther),
    ("whitelist_wifi", .bool p.whitelistWifi), ("whitelist_other", .bool p.whitelistOther),
    ("whitelist_roaming", .bool p.whitelistRoaming), ("lockdown", .bool p.lockdown),
    ("lockdown_wifi", .bool p.lockdownWifi), ("lockdown_other", .bool p.lockdownOther)]

def toValue (settings : Settings) : Value :=
  .record [("database", .record [("path", .text settings.database)]),
    ("toggle", settings.toggle.toValue),
    ("logging", .record [("level", .text settings.level.name)]),
    ("resolver", .text settings.source.name),
    ("identities", .record (settings.identities.map fun (name, uid) => (name, .int uid))),
    ("preferences", settings.preferences.toValue)]

end AllowPolicy.Settings
