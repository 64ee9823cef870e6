/-!
# Time stamps

A moment, counted in seconds since the beginning of 1970, as the log shows it: date and time of day
in the Gregorian calendar and in universal time.
-/

namespace Bootstrapper.Log

def padded (width n : Nat) : String :=
  let digits := toString n
  String.ofList (List.replicate (width - digits.length) '0') ++ digits

/-- The year, month and day of a day counted since the beginning of 1970. Years begin in March
here, so the leap day is the last of its year; an era is the 400 years after which dates repeat. -/
def civil (day : Nat) : Nat × Nat × Nat :=
  -- counted from the first of March in the year 0
  let shifted := day + 719468
  let era := shifted / 146097
  let dayOfEra := shifted % 146097
  -- the leap days: one every four years, none every century, one every era
  let yearOfEra := (dayOfEra - dayOfEra / 1460 + dayOfEra / 36524 - dayOfEra / 146096) / 365
  let dayOfYear := dayOfEra - (365 * yearOfEra + yearOfEra / 4 - yearOfEra / 100)
  -- every five months from March on have 153 days
  let month := (5 * dayOfYear + 2) / 153
  let dayOfMonth := dayOfYear - (153 * month + 2) / 5 + 1
  if month < 10 then (yearOfEra + era * 400, month + 3, dayOfMonth)
  else (yearOfEra + era * 400 + 1, month - 9, dayOfMonth)

def stamp (seconds : Nat) : String :=
  let date := civil (seconds / 86400)
  let time := seconds % 86400
  padded 4 date.1 ++ "-" ++ padded 2 date.2.1 ++ "-" ++ padded 2 date.2.2 ++ "T"
    ++ padded 2 (time / 3600) ++ ":" ++ padded 2 (time / 60 % 60) ++ ":" ++ padded 2 (time % 60)
    ++ "Z"

example : stamp 0 = "1970-01-01T00:00:00Z" := by decide +kernel

example : stamp 951782400 = "2000-02-29T00:00:00Z" := by decide +kernel

end Bootstrapper.Log
