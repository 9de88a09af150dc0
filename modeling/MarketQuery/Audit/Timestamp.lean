import MarketQuery.Decimal.Numeral

/-!
Points in time as they are logged: date and time of day in UTC, down to the millisecond. Years are
counted from March, so that the day added in a leap year comes last.
-/
namespace MarketQuery.Audit

/-- Digits with zeros in front, up to a width. -/
def padded (width n : Nat) : String :=
  let s := Decimal.digits n
  String.ofList (List.replicate (width - s.length) '0' ++ s)

/-- Year, month and day of the day that is so many days after 1970-01-01. -/
def civil (days : Nat) : Nat × Nat × Nat :=
  let shifted := days + 719468
  let era := shifted / 146097
  let day := shifted % 146097
  let year := (day - day / 1460 + day / 36524 - day / 146096) / 365
  let dayOfYear := day - (365 * year + year / 4 - year / 100)
  let month := (5 * dayOfYear + 2) / 153
  let dayOfMonth := dayOfYear - (153 * month + 2) / 5 + 1
  if month < 10 then (era * 400 + year, month + 3, dayOfMonth)
  else (era * 400 + year + 1, month - 9, dayOfMonth)

/-- The text of a point in time, given in milliseconds since the start of 1970. -/
def timestamp (ms : Nat) : String :=
  let seconds := ms / 1000
  let (year, month, day) := civil (seconds / 86400)
  padded 4 year ++ "-" ++ padded 2 month ++ "-" ++ padded 2 day ++ "T" ++
    padded 2 (seconds / 3600 % 24) ++ ":" ++ padded 2 (seconds / 60 % 60) ++ ":" ++
    padded 2 (seconds % 60) ++ "." ++ padded 3 (ms % 1000) ++ "Z"

example : timestamp 951827696789 = "2000-02-29T12:34:56.789Z" := by decide +kernel

end MarketQuery.Audit
