import PolicyStudio.Text.Digit

/-!
# Dates and times of day

Dates are written as year, month and day; a point in time adds the time of day
and, when it is known, the distance from universal time.  The written form shows
fractions of a second, and seconds of the distance, only when there are any.
-/

namespace PolicyStudio
namespace Calendar

/-- A day of the calendar. -/
structure Date where
  year : Nat
  month : Nat
  day : Nat
deriving Repr, DecidableEq

/-- A day with a time of day; the distance from universal time is in microseconds. -/
structure DateTime where
  date : Date
  hour : Nat
  minute : Nat
  second : Nat
  microsecond : Nat
  distance : Option Int
deriving Repr, DecidableEq

namespace Date

/-- The year has a day more than usual. -/
def isLeap (year : Nat) : Bool :=
  year % 4 = 0 && (year % 100 ≠ 0 || year % 400 = 0)

/-- The number of days of a month. -/
def daysIn (year month : Nat) : Nat :=
  if month = 2 then (if isLeap year then 29 else 28)
  else if month = 4 ∨ month = 6 ∨ month = 9 ∨ month = 11 then 30
  else 31

/-- The day is in the calendar. -/
def isValid (d : Date) : Bool :=
  1 ≤ d.year && d.year ≤ 9999 && 1 ≤ d.month && d.month ≤ 12 && 1 ≤ d.day &&
    d.day ≤ daysIn d.year d.month

/-- The written form, `2024-01-31`. -/
def write (d : Date) : String :=
  Text.padded 4 d.year ++ "-" ++ Text.padded 2 d.month ++ "-" ++ Text.padded 2 d.day

/-- The number of days of the years before a year. -/
def daysBefore (year : Nat) : Nat :=
  let past := year - 1
  past * 365 + past / 4 - past / 100 + past / 400

/-- The number of days up to this one since the start of the first year. -/
def ordinal (d : Date) : Nat :=
  let months := (List.range (d.month - 1)).foldl (fun sum m => sum + daysIn d.year (m + 1)) 0
  daysBefore d.year + months + d.day

/-- The day with a number within a year; `months` are those that are left, and `day`
counts from the start of the first of them. -/
def within (year : Nat) : (months day : Nat) → Date
  | 0, day => ⟨year, 12, day⟩
  | months + 1, day =>
    let month := 12 - months
    if day ≤ daysIn year month then ⟨year, month, day⟩
    else within year months (day - daysIn year month)

/-- The day with a number since the start of the first year. -/
def ofOrdinal (n : Nat) : Date :=
  let guess := n / 366 + 1
  let year := (List.range (n / 365 / 366 + 3)).foldl (fun year _ =>
    if daysBefore (year + 1) < n then year + 1 else year) guess
  within year 12 (n - daysBefore year)

end Date

namespace DateTime

/-- A fraction of a second, if there is any. -/
def writeFraction (microsecond : Nat) : String :=
  if microsecond = 0 then "" else "." ++ Text.padded 6 microsecond

/-- The distance from universal time, `+02:00` or `-05:30:15`. -/
def writeDistance (distance : Int) : String :=
  let microsecond := distance.natAbs % 1000000
  let seconds := distance.natAbs / 1000000
  let tail := if seconds % 60 = 0 ∧ microsecond = 0 then ""
    else ":" ++ Text.padded 2 (seconds % 60) ++ writeFraction microsecond
  (if distance < 0 then "-" else "+") ++ Text.padded 2 (seconds / 3600) ++ ":" ++
    Text.padded 2 (seconds / 60 % 60) ++ tail

/-- The time of day. -/
def writeClock (t : DateTime) : String :=
  Text.padded 2 t.hour ++ ":" ++ Text.padded 2 t.minute ++ ":" ++ Text.padded 2 t.second ++
    writeFraction t.microsecond

/-- The written form, with `mark` between the day and the time. -/
def writeWith (mark : String) (t : DateTime) : String :=
  t.date.write ++ mark ++ t.writeClock ++
    (match t.distance with
    | none => ""
    | some distance => writeDistance distance)

/-- The written form, `2024-01-31T10:20:30`. -/
def write (t : DateTime) : String :=
  t.writeWith "T"

/-- Microseconds since the start of the first year, on the clock of the place. -/
def moment (t : DateTime) : Int :=
  ((t.date.ordinal * 86400 + t.hour * 3600 + t.minute * 60 + t.second : Nat) : Int) * 1000000 +
    t.microsecond

end DateTime

end Calendar
end PolicyStudio
