/-
  Dates and moments.

  A date is a day of the calendar that has a leap year every four years, not in three of four
  centuries, and is used for all years from 1 to 9999.  A moment is a date, a time of day to the
  microsecond, and, if it is known, the distance of local time from universal time.  Two moments
  with known distances are one if they are one instant.
-/
import Respell.Numeral

namespace Respell

/-- Why numbers make no date or moment. -/
inductive CalendarError where
  | year (y : Nat)
  | month
  | day
  | hour
  | minute
  | second
  /-- The distance from universal time, in seconds, is a day or more. -/
  | distance (seconds : Int)
  deriving DecidableEq, Repr

namespace CalendarError

/-- A number of seconds as days and the seconds left over. -/
def spanText (seconds : Int) : String :=
  let rest := seconds % 86400
  "datetime.timedelta(days=" ++ toString (seconds / 86400) ++
    (if rest = 0 then "" else ", seconds=" ++ toString rest) ++ ")"

/-- What is said about numbers that make no date or moment. -/
def message : CalendarError → String
  | year y => "year " ++ toString y ++ " is out of range"
  | month => "month must be in 1..12"
  | day => "day is out of range for month"
  | hour => "hour must be in 0..23"
  | minute => "minute must be in 0..59"
  | second => "second must be in 0..59"
  | distance s =>
    "offset must be a timedelta strictly between -timedelta(hours=24) and " ++
      "timedelta(hours=24), not " ++ spanText s ++ "."

end CalendarError

/-- A day of the calendar. -/
structure Date where
  year : Nat
  month : Nat
  day : Nat
  deriving DecidableEq, Repr

/-- A time of a day, with the distance in seconds of local from universal time if it is known. -/
structure Moment where
  date : Date
  hour : Nat
  minute : Nat
  second : Nat
  micro : Nat
  distance : Option Int
  deriving DecidableEq, Repr

/-- A natural number with zeros in front to `n` digits. -/
def paddedNat (n v : Nat) : Text := Text.padLeft n '0' (Numeral.digitsText 10 v)

namespace Date

/-- Whether a year has a leap day. -/
def isLeap (y : Nat) : Bool := y % 4 = 0 && (y % 100 ≠ 0 || y % 400 = 0)

/-- The number of days of a month. -/
def daysIn (y m : Nat) : Nat :=
  match m with
  | 2 => if isLeap y then 29 else 28
  | 4 => 30
  | 6 => 30
  | 9 => 30
  | 11 => 30
  | _ => 31

/-- The day with a year, a month and a number. -/
def make (y m d : Nat) : Except CalendarError Date :=
  if y < 1 ∨ 9999 < y then .error (.year y)
  else if m < 1 ∨ 12 < m then .error .month
  else if d < 1 ∨ daysIn y m < d then .error .day
  else .ok ⟨y, m, d⟩

example : make 2000 2 29 = .ok ⟨2000, 2, 29⟩ ∧ make 1900 2 29 = .error .day := by decide

/-- The number of days from the first day of year 1 to a date. -/
def ordinal (d : Date) : Nat :=
  let y := d.year - 1
  let months := (List.range (d.month - 1)).map fun m => daysIn d.year (m + 1)
  y * 365 + y / 4 - y / 100 + y / 400 + months.foldr (· + ·) 0 + (d.day - 1)

/-- A date as it is written. -/
def text (d : Date) : Text :=
  paddedNat 4 d.year ++ '-' :: paddedNat 2 d.month ++ '-' :: paddedNat 2 d.day

/-- The numbers of a date, as a call that makes it would list them. -/
def numbers (d : Date) : List Nat := [d.year, d.month, d.day]

end Date

/-- Numbers with commas between them. -/
def commaList (ns : List Nat) : String := ", ".intercalate (ns.map toString)

namespace Moment

/-- The moment with a date, a time and a distance. -/
def make (y mo d h mi s micro : Nat) (distance : Option Int) : Except CalendarError Moment := do
  match distance with
  | some k => if 86400 ≤ k.natAbs then .error (.distance k)
  | none => pure ()
  let date ← Date.make y mo d
  if 23 < h then .error .hour
  else if 59 < mi then .error .minute
  else if 59 < s then .error .second
  else .ok ⟨date, h, mi, s, micro, distance⟩

/-- The microseconds since the first day of year 1 in local time. -/
def localMicros (m : Moment) : Int :=
  ((((m.date.ordinal * 24 + m.hour) * 60 + m.minute) * 60 + m.second) * 1000000 + m.micro : Nat)

/-- Whether two moments are one. -/
def same (m n : Moment) : Bool :=
  match m.distance, n.distance with
  | none, none => m.localMicros = n.localMicros
  | some a, some b => m.localMicros - a * 1000000 = n.localMicros - b * 1000000
  | _, _ => false

/-- A distance as it is written behind a time: sign, hours, minutes. -/
def distanceText (k : Int) : Text :=
  let minutes := k.natAbs / 60
  (if k < 0 then '-' else '+') :: paddedNat 2 (minutes / 60) ++ ':' :: paddedNat 2 (minutes % 60)

/-- A moment as it is written. -/
def text (m : Moment) : Text :=
  m.date.text ++ ' ' :: paddedNat 2 m.hour ++ ':' :: paddedNat 2 m.minute ++
    ':' :: paddedNat 2 m.second ++
    (if m.micro = 0 then [] else '.' :: paddedNat 6 m.micro) ++
    (match m.distance with
    | none => []
    | some k => distanceText k)

/-- The numbers of a moment, without seconds and microseconds that are zero. -/
def numbers (m : Moment) : List Nat :=
  m.date.numbers ++ [m.hour, m.minute] ++
    (if m.micro = 0 then (if m.second = 0 then [] else [m.second]) else [m.second, m.micro])

/-- A distance as a call that makes it. -/
def zoneText (k : Int) : String :=
  if k = 0 then "datetime.timezone.utc"
  else
    let days := k / 86400
    let rest := k % 86400
    let seconds := "seconds=" ++ toString rest
    "datetime.timezone(datetime.timedelta(" ++
      (if days = 0 then seconds
       else "days=" ++ toString days ++ (if rest = 0 then "" else ", " ++ seconds)) ++ "))"

end Moment

end Respell
