/-
  The time in front of a line of the log.

  A time is counted in milliseconds from the first moment of 1970.  It is written as date, time of
  day, a comma and milliseconds.  A year is taken to begin with March, so that the day that some
  years have more is their last, and four hundred years always have the same number of days.
-/
import Respell.Calendar

namespace Respell.Stamp

/-- The days from the first of March of year 0 to the first day of 1970. -/
def daysBefore : Nat := 719468

/-- The days of four hundred years. -/
def cycleDays : Nat := 146097

/-- The year, counted from a March, of a day of a cycle. -/
def yearOfCycle (day : Nat) : Nat := (day - day / 1460 + day / 36524 - day / 146096) / 365

/-- The date that lies a number of days after the first day of 1970. -/
def dateOf (days : Nat) : Date :=
  let day := (days + daysBefore) % cycleDays
  let year := yearOfCycle day
  let ofYear := day - (365 * year + year / 4 - year / 100)
  let month := (5 * ofYear + 2) / 153
  let years := year + (days + daysBefore) / cycleDays * 400
  let ofMonth := ofYear - (153 * month + 2) / 5 + 1
  if month < 10 then ⟨years, month + 3, ofMonth⟩ else ⟨years + 1, month - 9, ofMonth⟩

example : dateOf 0 = ⟨1970, 1, 1⟩ ∧ dateOf 11016 = ⟨2000, 2, 29⟩ := by decide
example : dateOf 11017 = ⟨2000, 3, 1⟩ ∧ dateOf 19722 = ⟨2023, 12, 31⟩ := by decide

/-- A number of milliseconds as it stands in the log. -/
def text (millis : Nat) : String :=
  let seconds := millis / 1000
  let two (n : Nat) : Text := paddedNat 2 n
  String.ofList ((dateOf (seconds / 86400)).text ++ [' '] ++
    Text.join [':'] [two (seconds / 3600 % 24), two (seconds / 60 % 60), two (seconds % 60)] ++
    [','] ++ paddedNat 3 (millis % 1000))

example : text 1704067200123 = "2024-01-01 00:00:00,123" := by decide +kernel

end Respell.Stamp
