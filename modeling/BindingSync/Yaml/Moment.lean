import BindingSync.Text.Digits

/-!
# Dates and times

A date is a day of a year.  A timestamp is a time on a day; if its distance from universal time
is known, it is an instant, and two timestamps of one instant are the same.
-/

namespace BindingSync.Yaml

open BindingSync.Text

/-- A day of a year. -/
structure Date where
  year : Nat
  month : Nat
  day : Nat
deriving DecidableEq, Repr, Inhabited

namespace Date

/-- The year has a day more. -/
def isLeap (year : Nat) : Bool :=
  year % 4 = 0 && (year % 100 != 0 || year % 400 = 0)

/-- The number of days of a month. -/
def daysIn (year month : Nat) : Nat :=
  if month = 2 then if isLeap year then 29 else 28
  else if [4, 6, 9, 11].contains month then 30
  else 31

/-- There is such a day. -/
def isValid (date : Date) : Bool :=
  1 ≤ date.year && date.year ≤ 9999 && 1 ≤ date.month && date.month ≤ 12 && 1 ≤ date.day &&
    date.day ≤ daysIn date.year date.month

/-- The number of days before a year. -/
def daysBefore (year : Nat) : Nat :=
  let last := year - 1
  last * 365 + last / 4 - last / 100 + last / 400

/-- The number of days from the start of the calendar on. -/
def ordinal (date : Date) : Nat :=
  let daysBeforeMonth := (List.range' 1 (date.month - 1)).map (daysIn date.year)
  daysBefore date.year + daysBeforeMonth.foldl (· + ·) 0 + date.day

/-- The form of a date in messages. -/
def describe (date : Date) : String :=
  s!"datetime.date({date.year}, {date.month}, {date.day})"

end Date

/-- A time on a day and, if it is known, the distance in minutes from universal time. -/
structure Timestamp where
  date : Date
  hour : Nat
  minute : Nat
  second : Nat
  microsecond : Nat
  zone : Option Int
deriving DecidableEq, Repr, Inhabited

namespace Timestamp

/-- There is such a day and such a time. -/
def isValid (stamp : Timestamp) : Bool :=
  stamp.date.isValid && stamp.hour < 24 && stamp.minute < 60 && stamp.second < 60 &&
    stamp.zone.all fun zone => zone.natAbs < 24 * 60

/-- The number of microseconds from the start of the calendar on, in universal time if the zone
is known. -/
def instant (stamp : Timestamp) : Int :=
  let minutes := (stamp.date.ordinal * 24 + stamp.hour) * 60 + stamp.minute
  ((minutes : Int) - stamp.zone.getD 0) * 60000000 + stamp.second * 1000000 + stamp.microsecond

/-- Of both timestamps the zone is known, or of none. -/
def isComparable (a b : Timestamp) : Bool :=
  a.zone.isSome = b.zone.isSome

/-- Two timestamps are the same. -/
def same (a b : Timestamp) : Bool :=
  isComparable a b && a.instant = b.instant

/-- The form of a distance from universal time. -/
def describeZone (minutes : Int) : String :=
  if minutes = 0 then "datetime.timezone.utc"
  else if minutes < 0 then
    s!"datetime.timezone(datetime.timedelta(days=-1, seconds={(1440 + minutes) * 60}))"
  else s!"datetime.timezone(datetime.timedelta(seconds={minutes * 60}))"

/-- The parts of a timestamp, without seconds that are zero. -/
def parts (stamp : Timestamp) : List Nat :=
  let parts := [stamp.date.year, stamp.date.month, stamp.date.day, stamp.hour, stamp.minute]
  if stamp.microsecond ≠ 0 then parts ++ [stamp.second, stamp.microsecond]
  else if stamp.second ≠ 0 then parts ++ [stamp.second]
  else parts

/-- The form of a timestamp in messages. -/
def describe (stamp : Timestamp) : String :=
  let parts := stamp.parts.map toString ++
    stamp.zone.toList.map fun zone => "tzinfo=" ++ describeZone zone
  let parts := ", ".intercalate parts
  s!"datetime.datetime({parts})"

end Timestamp

/-- A date, or a time on one. -/
inductive Moment where
  | date (date : Date)
  | timestamp (timestamp : Timestamp)
deriving DecidableEq, Repr, Inhabited

namespace Moment

/-- There is such a moment. -/
def isValid : Moment → Bool
  | date day => day.isValid
  | timestamp stamp => stamp.isValid

/-- Two moments are the same. -/
def same : Moment → Moment → Bool
  | date a, date b => a = b
  | timestamp a, timestamp b => a.same b
  | _, _ => false

/-- A moment is before another one, if there is an order between them. -/
def lt? : Moment → Moment → Option Bool
  | date a, date b => some (a.ordinal < b.ordinal)
  | timestamp a, timestamp b =>
    if a.isComparable b then some (a.instant < b.instant) else none
  | _, _ => none

/-- The form of a moment in messages. -/
def describe : Moment → String
  | date day => day.describe
  | timestamp stamp => stamp.describe

/-! ### Reading -/

/-- A number of digits between two bounds at the front, as many as there are. -/
def digitsUpTo (least most : Nat) (text : List Char) : Option (Nat × List Char) :=
  let found := (text.take most).takeWhile Char.isDigit
  if least ≤ found.length then some (decimalNumber found, text.drop found.length) else none

/-- What is left behind a character. -/
def mark? (c : Char) : List Char → Option (List Char)
  | [] => none
  | d :: rest => if c = d then some rest else none

/-- A space or a tab. -/
def isGap (c : Char) : Bool :=
  c = ' ' || c = '\t'

/-- The date at the front, with at least the given numbers of digits for month and day. -/
def dateFrom? (least : Nat) (text : List Char) : Option (Date × List Char) := do
  let (year, rest) ← digitsUpTo 4 4 text
  let (month, rest) ← digitsUpTo least 2 (← mark? '-' rest)
  let (day, rest) ← digitsUpTo least 2 (← mark? '-' rest)
  return (⟨year, month, day⟩, rest)

/-- The zone at the end of a timestamp. -/
def zone? (text : List Char) : Option (Option Int) :=
  match text.dropWhile isGap with
  | [] => if text.isEmpty then some none else none
  | ['Z'] => some (some 0)
  | c :: rest =>
    if c = '+' || c = '-' then do
      let (hours, rest) ← digitsUpTo 1 2 rest
      let (minutes, rest) ← if rest.isEmpty then some (0, []) else
        digitsUpTo 2 2 (← mark? ':' rest)
      let minutes : Int := hours * 60 + minutes
      if rest.isEmpty then return some (if c = '-' then -minutes else minutes) else none
    else none

/-- The microseconds that the digits of a fraction write. -/
def microseconds (digits : List Char) : Nat :=
  decimalNumber (digits.take 6 ++ List.replicate (6 - digits.length) '0')

/-- The time behind a date. -/
def time? (date : Date) (text : List Char) : Option Timestamp := do
  let rest ← match text with
    | 'T' :: rest => some rest
    | 't' :: rest => some rest
    | c :: rest => if isGap c then some (rest.dropWhile isGap) else none
    | [] => none
  let (hour, rest) ← digitsUpTo 1 2 rest
  let (minute, rest) ← digitsUpTo 2 2 (← mark? ':' rest)
  let (second, rest) ← digitsUpTo 2 2 (← mark? ':' rest)
  let (fraction, rest) := match rest with
    | '.' :: rest => (rest.takeWhile Char.isDigit, rest.dropWhile Char.isDigit)
    | rest => ([], rest)
  return ⟨date, hour, minute, second, microseconds fraction, ← zone? rest⟩

/-- The moment that a text writes: a date, or a date and a time. -/
def ofText? (text : List Char) : Option Moment := do
  let (day, rest) ← dateFrom? 1 text
  if rest.isEmpty then return .date day else return .timestamp (← time? day rest)

/-- A text is written like a moment: two digits for the month and the day of a date alone. -/
def isWritten (text : List Char) : Bool :=
  match ofText? text with
  | some (.date _) => (dateFrom? 2 text).isSome
  | some (.timestamp _) => true
  | none => false

end Moment

end BindingSync.Yaml
