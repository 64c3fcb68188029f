import Ballroom.Number.Decimal
import Ballroom.Text.Splitting

/-! # Dates and instants

Dates of the proleptic Gregorian calendar: the date of a day number, the day number of a
date, the written form `year-month-day` and its reading.  Years before 0 and after 9999
are written with a sign.  An instant is a number of seconds, kept within the years of the
calendar, and falls on a date. -/

namespace Ballroom

/-- A date of the proleptic Gregorian calendar; the year 0 precedes the year 1. -/
structure Date where
  year : Int
  month : Nat
  day : Nat
  deriving DecidableEq, Repr

namespace Date

/-- The years that dates are kept for. -/
def minYear : Int := -262143

/-- The last of these years. -/
def maxYear : Int := 262142

/-- Whether a year has 366 days. -/
def isLeap (year : Int) : Bool :=
  year % 4 = 0 && (year % 100 != 0 || year % 400 = 0)

/-- The number of days of a month. -/
def monthLength (year : Int) : Nat → Nat
  | 2 => if isLeap year then 29 else 28
  | 4 => 30
  | 6 => 30
  | 9 => 30
  | 11 => 30
  | _ => 31

/-- Whether the calendar has the date. -/
def isValid (d : Date) : Bool :=
  minYear ≤ d.year && d.year ≤ maxYear && 1 ≤ d.month && d.month ≤ 12
    && 1 ≤ d.day && d.day ≤ monthLength d.year d.month

/-- The days from 1 January 1970 to the date. -/
def toDays (d : Date) : Int :=
  let y := if d.month ≤ 2 then d.year - 1 else d.year
  let era := y / 400
  let yearOfEra := y % 400
  let dayOfYear : Int := (153 * ((d.month + 9) % 12 : Nat) + 2) / 5 + d.day - 1
  let dayOfEra := yearOfEra * 365 + yearOfEra / 4 - yearOfEra / 100 + dayOfYear
  era * 146097 + dayOfEra - 719468

/-- The date that is `days` days after 1 January 1970.  Years are counted from March, so
that the leap day ends its year, in eras of 400 years. -/
def ofDays (days : Int) : Date :=
  -- 719468 days lie between 1 March of the year 0 and 1 January 1970.
  let z := days + 719468
  let era := z / 146097
  let dayOfEra := z % 146097
  let yearOfEra := (dayOfEra - dayOfEra / 1460 + dayOfEra / 36524 - dayOfEra / 146096) / 365
  let dayOfYear := dayOfEra - (365 * yearOfEra + yearOfEra / 4 - yearOfEra / 100)
  let marchMonth := (5 * dayOfYear + 2) / 153
  let day := dayOfYear - (153 * marchMonth + 2) / 5 + 1
  let month := if marchMonth < 10 then marchMonth + 3 else marchMonth - 9
  let year := yearOfEra + era * 400
  ⟨if month ≤ 2 then year + 1 else year, month.toNat, day.toNat⟩

/-- A year from 0 to 9999 in four digits; any other with its sign and at least four. -/
def yearText (year : Int) : String :=
  if 0 ≤ year ∧ year ≤ 9999 then Number.padded 4 year
  else if year < 0 then "-" ++ Number.padded 4 (-year)
  else "+" ++ Number.padded 4 year

/-- The written form of a date. -/
def text (d : Date) : String :=
  yearText d.year ++ "-" ++ Number.padded 2 d.month ++ "-" ++ Number.padded 2 d.day

/-- Reads a number of at most `width` digits after any blanks. -/
def readField? (width : Nat) (cs : List Char) : Option (Nat × List Char) :=
  let cs := Text.trimLeft cs
  let digits := (cs.take width).takeWhile Char.isDigit
  (Number.readDigits? digits).map fun n => (n, cs.drop digits.length)

/-- Reads a year after any blanks: four digits at most without a sign, any number of them
behind one. -/
def readYear? (cs : List Char) : Option (Int × List Char) :=
  match Text.trimLeft cs with
  | '-' :: rest => signed rest fun n => -(n : Int)
  | '+' :: rest => signed rest fun n => (n : Int)
  | cs => (readField? 4 cs).map fun (n, rest) => ((n : Int), rest)
where
  /-- The digits behind a sign. -/
  signed (cs : List Char) (value : Nat → Int) : Option (Int × List Char) :=
    let digits := cs.takeWhile Char.isDigit
    (Number.readDigits? digits).map fun n => (value n, cs.drop digits.length)

/-- Reads one character. -/
def readMark? (mark : Char) : List Char → Option (List Char)
  | c :: rest => if c = mark then some rest else none
  | [] => none

/-- The date that the whole text denotes.  Blanks may stand before each number. -/
def read? (s : String) : Option Date := do
  let (year, cs) ← readYear? s.toList
  let cs ← readMark? '-' cs
  let (month, cs) ← readField? 2 cs
  let cs ← readMark? '-' cs
  let (day, cs) ← readField? 2 cs
  let date : Date := ⟨year, month, day⟩
  if cs.isEmpty && date.isValid then some date else none

end Date

/-! ### Instants -/

/-- The first second of the first year of the calendar. -/
def firstSecond : Int := -8334601228800

/-- The last second of the last year of the calendar. -/
def lastSecond : Int := 8210266876799

/-- A moment: seconds since the start of 1 January 1970 in universal time. -/
structure Instant where
  seconds : Int
  first_le : firstSecond ≤ seconds := by decide
  le_last : seconds ≤ lastSecond := by decide
  deriving DecidableEq

namespace Instant

/-- The start of 1 January 1970. -/
def epoch : Instant := ⟨0, by decide, by decide⟩

/-- The moment `seconds` after the epoch, or the epoch if the calendar does not reach it. -/
def ofSeconds (seconds : Int) : Instant :=
  if h : firstSecond ≤ seconds ∧ seconds ≤ lastSecond then ⟨seconds, h.1, h.2⟩ else epoch

/-- The date of the moment. -/
def date (i : Instant) : Date := Date.ofDays (i.seconds / 86400)

/-- The seconds as a tag holds them. -/
def timestamp (i : Instant) : Int64 := Int64.ofInt i.seconds

end Instant

end Ballroom
