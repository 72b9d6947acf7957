import AllowPolicy.Calendar
import AllowPolicy.Text.Split

namespace AllowPolicy.Calendar

/-- The parts of a time of day, and whether something stands behind it. -/
structure ClockParts where
  hour : Nat
  minute : Nat
  second : Nat
  micro : Nat
  more : Bool

namespace Moment

def valueOf (digits : List Char) : Nat :=
  digits.foldl (fun n c => 10 * n + (c.toNat - '0'.toNat)) 0

/-- Exactly `n` digits at the start: their value and the rest. -/
def digits? (n : Nat) (s : List Char) : Option (Nat × List Char) :=
  let run := s.take n
  if run.length = n ∧ run.all Char.isDigit then some (valueOf run, s.drop n) else none

/-- A fraction of a second behind the time, digits beyond the sixth cut off. -/
def fraction? (parts : List Nat) (atEnd : Bool) (s : List Char) : Option ClockParts :=
  let run := s.take 6
  if !run.all Char.isDigit then none
  else
    let micro := valueOf ((run ++ List.replicate 6 '0').take 6)
    let rest := (s.drop 6).dropWhile Char.isDigit
    some { hour := parts.getD 0 0, minute := parts.getD 1 0, second := parts.getD 2 0
           micro, more := !rest.isEmpty || !atEnd }

/-- Up to `left` more parts of a time, each in two digits. Whether colons stand between them shows
    behind the first. `atEnd` says whether the text ends behind `s`. -/
def parts? (atEnd : Bool) (colons : Option Bool) (found : List Nat) :
    (left : Nat) → List Char → Option ClockParts
  | 0, s => fraction? found atEnd s
  | left + 1, s => do
    let (n, rest) ← digits? 2 s
    let found := found ++ [n]
    let ended (more : Bool) : ClockParts :=
      { hour := found.getD 0 0, minute := found.getD 1 0, second := found.getD 2 0
        micro := 0, more }
    match rest with
    | [] => pure (ended !atEnd)
    | c :: others =>
      if others.isEmpty ∧ c.toNat < 128 then return ended true
      let withColons := colons.getD (c = ':')
      if withColons && c = ':' then parts? atEnd (some withColons) found left others
      else if c = '.' ∨ c = ',' then fraction? found atEnd others
      else if withColons then none
      else parts? atEnd (some withColons) found left rest

def clock? (atEnd : Bool) (s : List Char) : Option ClockParts := parts? atEnd none [] 3 s

/-- The character begins the distance from universal time. -/
def beginsOffset (c : Char) : Bool := c = '+' || c = '-' || c = 'Z'

/-- A time of day with the distance from universal time in millionths of a second. -/
def time? (s : List Char) : Option (ClockParts × Option Int) := do
  let own := s.takeWhile (!beginsOffset ·)
  match s.dropWhile (!beginsOffset ·) with
  | [] =>
    let clock ← clock? true own
    if clock.more then none else pure (clock, none)
  | sign :: rest =>
    let clock ← clock? false own
    if sign = 'Z' then
      if rest.isEmpty then return (clock, some 0) else none
    let offset ← clock? true rest
    if offset.more then none
    else
      let seconds : Int := 3600 * offset.hour + 60 * offset.minute + offset.second
      let micros := if seconds = 0 then 0 else 1000000 * seconds + offset.micro
      pure (clock, some (if sign = '-' then -micros else micros))

/-- Where the date ends: each way to write it has its own length. -/
def dateLength? (s : List Char) : Option Nat :=
  let isDigitAt (n : Nat) := s[n]?.any Char.isDigit
  if s.length = 7 then some 7
  else if s[4]? = some '-' then
    if s[5]? ≠ some 'W' then some 10
    else if s[8]? ≠ some '-' then some 8
    else if s.length = 9 then none
    else if isDigitAt 10 then some 8
    else some 10
  else if s[4]? = some 'W' then
    let stop := 7 + ((s.drop 7).takeWhile Char.isDigit).length
    if stop < 9 then some stop else if stop % 2 = 0 then some 7 else some 8
  else some 8

/-- A date: its year, month and day. A day of a week is only checked to exist, and stands for the
    first of January of its year; a week before the first year has no month. -/
def date? (s : List Char) : Option (Nat × Nat × Nat) := do
  let (year, rest) ← digits? 4 s
  let dashes := rest.head? = some '-'
  let rest := if dashes then rest.drop 1 else rest
  let dash? (s : List Char) : Option (List Char) := if dashes then Text.after? ['-'] s else some s
  match rest with
  | 'W' :: rest =>
    let (week, rest) ← digits? 2 rest
    let day ← if rest.isEmpty then some 1 else (do
      let (day, _) ← digits? 1 (← dash? rest)
      pure day)
    if year = 0 then pure (1, 0, 0)
    else if week = 0 ∨ weeks year < week ∨ day = 0 ∨ 7 < day then none
    else pure (yearOfWeek year week day, 1, 1)
  | rest =>
    let (month, rest) ← digits? 2 rest
    let (day, _) ← digits? 2 (← dash? rest)
    pure (year, month, day)

/-- The message for a text that is no moment at all. -/
def unreadable (text : String) (shown : String → String) : String :=
  "Invalid isoformat string: " ++ shown text

/-- What is wrong with a text that should be a moment in one of the ways of ISO 8601: a date, and
    perhaps a character and a time. `shown` quotes the text. -/
def fault? (shown : String → String) (text : String) : Option String :=
  let s := text.toList
  let read : Option (Option String) := do
    if text.utf8ByteSize < 7 then none
    else
      let length ← dateLength? s
      let (year, month, day) ← date? (s.take length)
      let rest := s.drop length
      let (clock, offset) ← if rest.isEmpty then
          some ({ hour := 0, minute := 0, second := 0, micro := 0, more := false }, none)
        else time? (rest.drop 1)
      pure ((offset.bind offsetFault?).or
        ((dateFault? year month day).or (timeFault? clock.hour clock.minute clock.second)))
  read.getD (some (unreadable text shown))

end Moment

end AllowPolicy.Calendar
