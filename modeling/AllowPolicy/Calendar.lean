namespace AllowPolicy.Calendar

def isLeap (year : Nat) : Bool := year % 4 = 0 && (year % 100 ≠ 0 || year % 400 = 0)

def monthDays (year month : Nat) : Nat :=
  if month = 2 then if isLeap year then 29 else 28
  else if month = 4 ∨ month = 6 ∨ month = 9 ∨ month = 11 then 30
  else 31

def lastYear : Nat := 9999

/-- What is wrong with a date that does not exist. -/
def dateFault? (year month day : Nat) : Option String :=
  if year = 0 ∨ lastYear < year then some ("year " ++ toString year ++ " is out of range")
  else if month = 0 ∨ 12 < month then some "month must be in 1..12"
  else if day = 0 ∨ monthDays year month < day then some "day is out of range for month"
  else none

/-- What is wrong with a time of day that does not exist. -/
def timeFault? (hour minute second : Nat) : Option String :=
  if 23 < hour then some "hour must be in 0..23"
  else if 59 < minute then some "minute must be in 0..59"
  else if 59 < second then some "second must be in 0..59"
  else none

def dayMicros : Int := 86400000000

/-- A span of millionths of a second as messages show it: in days, seconds and millionths, only the
    days below zero. -/
def shownSpan (micros : Int) : String :=
  let days := Int.fdiv micros dayMicros
  let rest := Int.fmod micros dayMicros
  let part (name : String) (n : Int) : List String :=
    if n = 0 then [] else [name ++ "=" ++ toString n]
  let parts := part "days" days ++ part "seconds" (rest / 1000000) ++
    part "microseconds" (rest % 1000000)
  "datetime.timedelta(" ++ (if parts.isEmpty then "0" else ", ".intercalate parts) ++ ")"

/-- What is wrong with a distance from universal time of a day or more. -/
def offsetFault? (micros : Int) : Option String :=
  if dayMicros ≤ micros.natAbs then
    some ("offset must be a timedelta strictly between -timedelta(hours=24) and " ++
      "timedelta(hours=24), not " ++ shownSpan micros ++ ".")
  else none

/-- A distance from universal time as messages show it. -/
def shownOffset (micros : Int) : String :=
  if micros = 0 then "datetime.timezone.utc"
  else "datetime.timezone(" ++ shownSpan micros ++ ")"

def daysBefore (year : Nat) : Nat :=
  let y := year - 1
  365 * y + y / 4 - y / 100 + y / 400

/-- The weekday of the first day of a year, Monday being zero. -/
def firstWeekday (year : Nat) : Nat := daysBefore year % 7

/-- The number of weeks of a year: the first week is the one with the first Thursday. -/
def weeks (year : Nat) : Nat :=
  if firstWeekday year = 3 ∨ (firstWeekday year = 2 ∧ isLeap year) then 53 else 52

/-- The day of the year on which the first week begins, counted from zero; it may lie in the year
    before. -/
def firstMonday (year : Nat) : Int :=
  let weekday := firstWeekday year
  if weekday ≤ 3 then -(weekday : Int) else 7 - weekday

/-- The year in which a day of a week lies. -/
def yearOfWeek (year week day : Nat) : Nat :=
  let offset := firstMonday year + 7 * (week - 1) + (day - 1)
  let length : Int := if isLeap year then 366 else 365
  if offset < 0 then year - 1 else if length ≤ offset then year + 1 else year

end AllowPolicy.Calendar
