import AllowPolicy.Calendar
import AllowPolicy.Text.Digit

namespace AllowPolicy.Yaml

/-- A time of day, with its distance from universal time in minutes if that is given. -/
structure Clock where
  hour : Nat
  minute : Nat
  second : Nat
  micro : Nat := 0
  offset : Option Int := none
  deriving DecidableEq, Repr

/-- A date, or a date and time, as it is written. It need not exist. -/
structure Stamp where
  year : Nat
  month : Nat
  day : Nat
  clock : Option Clock := none
  /-- Month and day are written with two digits each. -/
  padded : Bool := true
  deriving DecidableEq, Repr

namespace Stamp

/-- Between `least` and `most` digits at the start: their value, their number and the rest. -/
def digits? (least most : Nat) (s : List Char) : Option (Nat × Nat × List Char) :=
  let run := (s.take most).takeWhile Char.isDigit
  if least ≤ run.length then
    some (run.foldl (fun n c => 10 * n + (c.toNat - '0'.toNat)) 0, run.length, s.drop run.length)
  else none

/-- The rest after a fixed character. -/
def after? (c : Char) : List Char → Option (List Char)
  | d :: rest => if d = c then some rest else none
  | [] => none

def isGap (c : Char) : Bool := c = ' ' || c = '\t'

/-- The fraction of a second in millionths, further digits cut off, and the rest. -/
def fraction (s : List Char) : Nat × List Char :=
  match s with
  | '.' :: rest =>
    let run := rest.takeWhile Char.isDigit
    let six := (run ++ List.replicate 6 '0').take 6
    (six.foldl (fun n c => 10 * n + (c.toNat - '0'.toNat)) 0, rest.dropWhile Char.isDigit)
  | s => (0, s)

/-- The distance from universal time, up to the end of the text. -/
def offset? (s : List Char) : Option (Option Int) :=
  if s.isEmpty then some none
  else match s.dropWhile isGap with
    | ['Z'] => some (some 0)
    | sign :: rest =>
      if sign ≠ '+' ∧ sign ≠ '-' then none
      else do
        let (hours, _, rest) ← digits? 1 2 rest
        let minutes ←
          if rest.isEmpty then some 0
          else do
            let (minutes, _, rest) ← digits? 2 2 (← after? ':' rest)
            if rest.isEmpty then some minutes else none
        let total : Int := hours * 60 + minutes
        some (some (if sign = '-' then -total else total))
    | [] => none

def clock? (s : List Char) : Option Clock := do
  let (hour, _, rest) ← digits? 1 2 s
  let (minute, _, rest) ← digits? 2 2 (← after? ':' rest)
  let (second, _, rest) ← digits? 2 2 (← after? ':' rest)
  let (micro, rest) := fraction rest
  let offset ← offset? rest
  pure { hour, minute, second, micro, offset }

def read? (s : List Char) : Option Stamp := do
  let (year, _, rest) ← digits? 4 4 s
  let (month, monthWidth, rest) ← digits? 1 2 (← after? '-' rest)
  let (day, dayWidth, rest) ← digits? 1 2 (← after? '-' rest)
  let padded := monthWidth = 2 && dayWidth = 2
  match rest with
  | [] => pure { year, month, day, padded }
  | c :: more =>
    let time ←
      if c = 'T' ∨ c = 't' then some more
      else if isGap c then some (more.dropWhile isGap)
      else none
    pure { year, month, day, padded, clock := some (← clock? time) }

/-- The distance from universal time in millionths of a second. -/
def micros (clock : Clock) : Option Int := clock.offset.map (60000000 * ·)

/-- What is wrong with a date or time that does not exist. The distance from universal time counts
    before the date. -/
def fault? (stamp : Stamp) : Option String :=
  let date := Calendar.dateFault? stamp.year stamp.month stamp.day
  match stamp.clock with
  | none => date
  | some clock =>
    ((micros clock).bind Calendar.offsetFault?).or
      (date.or (Calendar.timeFault? clock.hour clock.minute clock.second))

def shown (stamp : Stamp) : String :=
  let date := [stamp.year, stamp.month, stamp.day].map toString
  match stamp.clock with
  | none => "datetime.date(" ++ ", ".intercalate date ++ ")"
  | some clock =>
    let late := if clock.micro ≠ 0 then [clock.second, clock.micro]
      else if clock.second ≠ 0 then [clock.second] else []
    let time := ([clock.hour, clock.minute] ++ late).map toString
    let zone := (micros clock).toList.map fun n => "tzinfo=" ++ Calendar.shownOffset n
    "datetime.datetime(" ++ ", ".intercalate (date ++ time ++ zone) ++ ")"

end Stamp

end AllowPolicy.Yaml
