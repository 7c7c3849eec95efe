import DocQuery.Decimal.Layout

/- The proleptic Gregorian date and time of day of a moment that is given in milliseconds since
   1970-01-01 in UTC. Years are counted here from March, so that the leap day is the last day of
   its year; four hundred years are then always 146097 days. -/

namespace DocQuery.Calendar

/-- A day of the calendar. -/
structure Date where
  year : Int
  month : Nat
  day : Nat
  deriving DecidableEq, Repr

/-- The days before the given month of a year that begins with month 0, March. -/
def daysBeforeMonth (month : Nat) : Nat := (153 * month + 2) / 5

/-- The date of a day that is counted from 1970-01-01, which is day 719468 since 0000-03-01. -/
def dateOfDay (day : Int) : Date :=
  let shifted := day + 719468
  let era := shifted.fdiv 146097
  let dayOfEra := (shifted.fmod 146097).toNat
  let yearOfEra := (dayOfEra - dayOfEra / 1460 + dayOfEra / 36524 - dayOfEra / 146096) / 365
  let dayOfYear := dayOfEra - (365 * yearOfEra + yearOfEra / 4 - yearOfEra / 100)
  let month := (5 * dayOfYear + 2) / 153
  let year := era * 400 + yearOfEra
  { year := if month < 10 then year else year + 1
    month := if month < 10 then month + 3 else month - 9
    day := dayOfYear - daysBeforeMonth month + 1 }

/-- A year with at least four digits, behind a sign if it is negative. -/
def yearText (year : Int) : List Char :=
  (if year < 0 then ['-'] else []) ++ Decimal.padded 4 year.natAbs

/-- A count of thousandths without trailing zeros, but with one digit at least. -/
def thousandthsText (n : Nat) : List Char :=
  let digits := Decimal.padded 3 n
  digits.take 1 ++ ((digits.drop 1).reverse.dropWhile (· == '0')).reverse

/-- The text of a moment in UTC: the date, the time with the hour not filled up, the fraction of
    the second, and the offset. -/
def momentText (millis : Int) : String :=
  let day := millis.fdiv 86400000
  let rest := (millis.fmod 86400000).toNat
  let date := dateOfDay day
  String.ofList <|
    yearText date.year ++ '-' :: Decimal.padded 2 date.month ++ '-' :: Decimal.padded 2 date.day ++
    ' ' :: Decimal.digitsOf (rest / 3600000) ++ ':' :: Decimal.padded 2 (rest / 60000 % 60) ++
    ':' :: Decimal.padded 2 (rest / 1000 % 60) ++ '.' :: thousandthsText (rest % 1000) ++
    [' ', '+', '0', '0', ':', '0', '0', ':', '0', '0']

end DocQuery.Calendar
