import PolicyStudio.Calendar.Date
import PolicyStudio.Decimal.Layout
import PolicyStudio.Text.Quoted

/-!
# Written dates

Days and points in time are read from the forms of the standard for dates: with marks
between the parts or without, by months or by weeks, and with a distance from
universal time that may have seconds.  A text that has one of these forms may still
name a day or a time that there is not.
-/

namespace PolicyStudio
namespace Calendar

/-- Why a text is no date. -/
inductive DateFault where
  | malformed (text : String)
  | year (year : Nat)
  | month
  | day
  | hour
  | minute
  | second
  /-- A distance from universal time, in microseconds, is a day or more. -/
  | distance (distance : Int)
deriving Repr, DecidableEq

/-- A duration in microseconds, by its days, seconds and microseconds. -/
def durationText (duration : Int) : String :=
  let days := Int.fdiv duration 86400000000
  let rest := (duration - days * 86400000000).toNat
  let parts := [("days=", days), ("seconds=", (rest / 1000000 : Nat)),
    ("microseconds=", (rest % 1000000 : Nat))].filter fun part => part.2 != 0
  let shown := parts.map fun part => part.1 ++ Decimal.intText part.2
  "datetime.timedelta(" ++ (if shown.isEmpty then "0" else ", ".intercalate shown) ++ ")"

/-- The wording of a fault. -/
def DateFault.message : DateFault → String
  | .malformed text => "Invalid isoformat string: " ++ Text.quoted text
  | .year n => "year " ++ n.repr ++ " is out of range"
  | .month => "month must be in 1..12"
  | .day => "day is out of range for month"
  | .hour => "hour must be in 0..23"
  | .minute => "minute must be in 0..59"
  | .second => "second must be in 0..59"
  | .distance size =>
    "offset must be a timedelta strictly between -timedelta(hours=24) and timedelta(hours=24), not " ++
      durationText size ++ "."

namespace Written

/-! ## Bytes -/

/-- The byte at a place; behind the text there is nothing but zero. -/
def byteAt (text : ByteArray) (place : Nat) : Nat :=
  (text.data[place]?.getD 0).toNat

/-- The byte at a place is a character. -/
def has (text : ByteArray) (place : Nat) (c : Char) : Bool :=
  byteAt text place = c.toNat

/-- The digit at a place. -/
def digitAt? (text : ByteArray) (place : Nat) : Option Nat :=
  let byte := byteAt text place
  if 48 ≤ byte ∧ byte ≤ 57 then some (byte - 48) else none

/-- The number that so many digits from a place on write. -/
def numberAt? (text : ByteArray) (place count : Nat) : Option Nat :=
  (List.range count).foldlM (fun n i => return 10 * n + (← digitAt? text (place + i))) 0

/-- The place after the digits from a place on; `steps` bounds them. -/
def afterDigits (text : ByteArray) : Nat → Nat → Nat
  | 0, place => place
  | steps + 1, place =>
    if (digitAt? text place).isSome then afterDigits text steps (place + 1) else place

/-! ## Days -/

/-- The weekday on which a year begins, from zero for Monday. -/
def firstWeekday (year : Nat) : Nat :=
  Date.daysBefore year % 7

/-- The year has 53 weeks. -/
def isLong (year : Nat) : Bool :=
  firstWeekday year = 3 || (firstWeekday year = 2 && Date.isLeap year)

/-- A day by its year, its week and its place in the week, if there is one.  The first
week is the one with the first Thursday.  Before the first year there are no months. -/
def ofWeek? (year week day : Nat) : Option Date :=
  if week = 0 ∨ (if isLong year then 53 else 52) < week ∨ day = 0 ∨ 7 < day then none
  else if year = 0 then some ⟨1, 0, 0⟩
  else
    let first := firstWeekday year
    let start := Date.daysBefore year + (week - 1) * 7 + day
    some (Date.ofOrdinal (if first ≤ 3 then start - first else start + 7 - first))

/-- Read a day of a text that is `length` bytes long.  Its parts are not checked. -/
def day? (text : ByteArray) (length : Nat) : Option Date := do
  let year ← numberAt? text 0 4
  let isMarked := has text 4 '-'
  let place := if isMarked then 5 else 4
  if has text place 'W' then
    let week ← numberAt? text (place + 1) 2
    let place := place + 3
    if place < length then
      if isMarked && !has text place '-' then none
      else ofWeek? year week (← numberAt? text (if isMarked then place + 1 else place) 1)
    else ofWeek? year week 1
  else
    let month ← numberAt? text place 2
    let place := place + 2
    if isMarked && !has text place '-' then none
    else return ⟨year, month, ← numberAt? text (if isMarked then place + 1 else place) 2⟩

/-- Refuse a day that there is not. -/
def checkDay (d : Date) : Except DateFault Unit := do
  if d.year < 1 ∨ 9999 < d.year then throw (.year d.year)
  if d.month < 1 ∨ 12 < d.month then throw .month
  if d.day < 1 ∨ Date.daysIn d.year d.month < d.day then throw .day

/-! ## Times of day -/

/-- A time of day as far as it is written. -/
structure Clock where
  hour : Nat
  minute : Nat
  second : Nat
  microsecond : Nat
  /-- Something comes after it. -/
  isFollowed : Bool

/-- What comes after the hours, minutes and seconds. -/
inductive AfterUnits where
  | ending (isFollowed : Bool)
  | fraction (place : Nat)

/-- Read hours, minutes and seconds, as many as are written before `stop`.  The first
mark decides whether there are any. -/
def units? (text : ByteArray) (stop : Nat) (isMarked : Bool) (found : List Nat) :
    Nat → Nat → Option (List Nat × AfterUnits)
  | 0, place => some (found, .fraction place)
  | count + 1, place => do
    let value ← numberAt? text place 2
    let mark := byteAt text (place + 2)
    let isMarked := if found.isEmpty then mark == ':'.toNat else isMarked
    let found := found ++ [value]
    if stop ≤ place + 3 then some (found, .ending (mark != 0))
    else if isMarked && mark == ':'.toNat then units? text stop isMarked found count (place + 3)
    else if mark == '.'.toNat || mark == ','.toNat then some (found, .fraction (place + 3))
    else if isMarked then none
    else units? text stop isMarked found count (place + 2)

/-- Read a time of day between two places. -/
def clock? (text : ByteArray) (start stop : Nat) : Option Clock := do
  let (found, after) ← units? text stop false [] 3 start
  let unit := fun (i : Nat) => found[i]?.getD 0
  match after with
  | .ending isFollowed => some ⟨unit 0, unit 1, unit 2, 0, isFollowed⟩
  | .fraction place => do
    let count := min 6 (stop - place)
    let value ← numberAt? text place count
    let behind := afterDigits text text.size (place + count)
    some ⟨unit 0, unit 1, unit 2, value * 10 ^ (6 - count), byteAt text behind != 0⟩

/-- The place where the distance from universal time begins, from a place on. -/
def distancePlace (text : ByteArray) (start : Nat) : Nat :=
  let places := (List.range (text.size - start)).map (start + ·)
  (places.find? fun place =>
    has text place '+' || has text place '-' || has text place 'Z').getD (max text.size start)

/-- Read a time of day from a place on, and the distance from universal time. -/
def time? (text : ByteArray) (start : Nat) : Option (Clock × Option Int) := do
  let place := distancePlace text start
  let clock ← clock? text start place
  if place = text.size then
    if clock.isFollowed then none else some (clock, none)
  else if has text place 'Z' then
    if byteAt text (place + 1) = 0 then some (clock, some 0) else none
  else
    let away ← clock? text (place + 1) text.size
    if away.isFollowed then none
    else
      let seconds := away.hour * 3600 + away.minute * 60 + away.second
      let size : Int := if seconds = 0 then 0 else (seconds * 1000000 + away.microsecond : Nat)
      some (clock, some (if has text place '-' then -size else size))

/-- Refuse a time of day that there is not. -/
def checkClock (clock : Clock) : Except DateFault Unit := do
  if 24 ≤ clock.hour then throw .hour
  if 60 ≤ clock.minute then throw .minute
  if 60 ≤ clock.second then throw .second

/-! ## Where the day ends -/

/-- The place of the mark between a day and a time.  A day by weeks may end with the
week; whether it does is told by what looks like a time of day after it. -/
def markPlace (text : ByteArray) : Nat :=
  let isDigit := fun place => (digitAt? text place).isSome
  if text.size = 7 then 7
  else if has text 4 '-' then
    if has text 5 'W' then
      if has text 8 '-' && !isDigit 10 then 10 else 8
    else 10
  else if has text 4 'W' then
    let place := min text.size (afterDigits text text.size 7)
    if place < 9 then place
    else if place % 2 = 0 then 7
    else 8
  else 8

/-- The number of bytes of the character that begins with a byte. -/
def width (byte : Nat) : Nat :=
  if byte < 128 then 1
  else if byte / 16 = 14 then 3
  else if byte / 16 = 15 then 4
  else 2

end Written

open Written

/-- Read a day. -/
def Date.read (text : String) : Except DateFault Date := do
  let bytes := text.toUTF8
  let length := bytes.size
  if length = 7 ∨ length = 8 ∨ length = 10 then
    match day? bytes length with
    | some d =>
      checkDay d
      return d
    | none => throw (.malformed text)
  else throw (.malformed text)

/-- Read a point in time.  A day alone counts as midnight. -/
def DateTime.read (text : String) : Except DateFault DateTime := do
  let bytes := text.toUTF8
  if bytes.size < 7 then throw (.malformed text)
  let mark := markPlace bytes
  match day? bytes mark with
  | none => throw (.malformed text)
  | some d =>
    let found := if bytes.size ≤ mark then some (⟨0, 0, 0, 0, false⟩, none)
      else time? bytes (mark + width (byteAt bytes mark))
    match found with
    | none => throw (.malformed text)
    | some (clock, distance) =>
      if distance.any fun size => 86400000000 ≤ size.natAbs then
        throw (.distance (distance.getD 0))
      checkDay d
      checkClock clock
      return ⟨d, clock.hour, clock.minute, clock.second, clock.microsecond, distance⟩

end Calendar
end PolicyStudio
