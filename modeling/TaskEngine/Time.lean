import TaskEngine.Text.Blank
import TaskEngine.Text.Split
import TaskEngine.Json.Decode

/-!
# Points in time

A point in time counts seconds since the start of 1970 in universal time, with nanoseconds. A leap
second shares the count of the second before it and shows as a nanosecond part of at least a
billion. Reading accepts the internet date format with some freedom in blanks and separators;
writing uses universal time.
-/

namespace TaskEngine

/-- A point in universal time. -/
structure Instant where
  /-- Seconds since 1970-01-01T00:00:00Z. -/
  seconds : Int
  /-- Nanoseconds within the second; from a billion on, a leap second. -/
  nanos : Nat
  deriving DecidableEq, Repr

/-- A number of milliseconds after the start of 1970. -/
def Instant.ofMillis (millis : Nat) : Instant := ⟨millis / 1000, millis % 1000 * 1000000⟩

/-- A day of the calendar. -/
structure CalendarDate where
  year : Int
  month : Nat
  day : Nat
  deriving DecidableEq, Repr

namespace CalendarDate

/-- Leap years have a twenty-ninth of February. -/
def isLeapYear (year : Int) : Bool := year % 4 = 0 && (year % 100 ≠ 0 || year % 400 = 0)

/-- The number of days of a month. -/
def daysInMonth (year : Int) (month : Nat) : Nat :=
  match month with
  | 2 => if isLeapYear year then 29 else 28
  | 4 | 6 | 9 | 11 => 30
  | _ => 31

/-- Days since 1970-01-01. Years are counted from March, so that a leap day ends its year. -/
def toDays (d : CalendarDate) : Int :=
  let year := if d.month ≤ 2 then d.year - 1 else d.year
  let era := Int.fdiv year 400
  let yearOfEra := year - era * 400
  let shifted := (d.month + 9) % 12
  let dayOfYear : Int := ((153 * shifted + 2) / 5 + d.day - 1 : Nat)
  era * 146097 + (yearOfEra * 365 + Int.fdiv yearOfEra 4 - Int.fdiv yearOfEra 100 + dayOfYear) -
    719468

/-- The day that lies this many days after 1970-01-01. -/
def ofDays (days : Int) : CalendarDate :=
  let z := days + 719468
  let era := Int.fdiv z 146097
  let dayOfEra := (z - era * 146097).toNat
  let yearOfEra := (dayOfEra - dayOfEra / 1460 + dayOfEra / 36524 - dayOfEra / 146096) / 365
  let dayOfYear := dayOfEra - (365 * yearOfEra + yearOfEra / 4 - yearOfEra / 100)
  let shifted := (5 * dayOfYear + 2) / 153
  let day := dayOfYear - (153 * shifted + 2) / 5 + 1
  let month := if shifted < 10 then shifted + 3 else shifted - 9
  let year : Int := yearOfEra + era * 400
  ⟨if month ≤ 2 then year + 1 else year, month, day⟩

end CalendarDate

namespace Instant

/-- The date of a point in time. -/
def date (t : Instant) : CalendarDate := CalendarDate.ofDays (Int.fdiv t.seconds 86400)

/-- Why a text is no point in time. -/
inductive ReadError where
  | tooShort
  | invalid
  | tooLong
  | outOfRange
  | impossible
  deriving DecidableEq, Repr

/-- The text of a reading error. -/
def ReadError.message : ReadError → String
  | .tooShort => "premature end of input"
  | .invalid => "input contains invalid characters"
  | .tooLong => "trailing input"
  | .outOfRange => "input is out of range"
  | .impossible => "no possible date and time matching input"

/-- At least one and at most `width` digits. -/
def readNumber (width : Nat) (cs : List Char) : Except ReadError (Nat × List Char) :=
  let digits := (cs.take width).takeWhile Char.isDigit
  if digits.isEmpty then .error (if cs.isEmpty then .tooShort else .invalid)
  else .ok (Nat.ofDigitChars 10 digits 0, cs.drop digits.length)

/-- A number within bounds, after blanks. -/
def readBounded (width low high : Nat) (cs : List Char) : Except ReadError (Nat × List Char) := do
  let (n, cs) ← readNumber width (Text.trimFront cs)
  if low ≤ n ∧ n ≤ high then .ok (n, cs) else .error .outOfRange

/-- The largest year of a point in time. -/
def maxYear : Int := 262142

/-- The smallest year of a point in time. -/
def minYear : Int := -262143

/-- A year: up to four digits, or any number of them after a sign. -/
def readYear (cs : List Char) : Except ReadError (Int × List Char) := do
  match Text.trimFront cs with
  | '-' :: rest => do
    let (n, rest) ← readNumber rest.length rest
    if n ≤ 0x80000000 then .ok (-(n : Int), rest) else .error .outOfRange
  | '+' :: rest => do
    let (n, rest) ← readNumber rest.length rest
    if n < 0x80000000 then .ok (n, rest) else .error .outOfRange
  | cs => do
    let (n, rest) ← readNumber 4 cs
    .ok (n, rest)

/-- A separator after blanks. -/
def readMark (mark : Char) (cs : List Char) : Except ReadError (List Char) :=
  match Text.trimFront cs with
  | [] => .error .tooShort
  | c :: rest => if c = mark then .ok rest else .error .invalid

/-- Nanoseconds after a point; digits past the ninth do not count. -/
def readNanos : List Char → Except ReadError (Nat × List Char)
  | '.' :: rest => do
    let (n, after) ← readNumber 9 rest
    let digits := rest.length - after.length
    .ok (n * Nat.pow 10 (9 - digits), after.dropWhile Char.isDigit)
  | cs => .ok (0, cs)

/-- Two decimal digits. -/
def readPair (low high : Char) : List Char → Except ReadError (Nat × List Char)
  | a :: b :: rest =>
    if low ≤ a ∧ a ≤ high ∧ b.isDigit then .ok (Nat.ofDigitChars 10 [a, b] 0, rest)
    else if a.isDigit ∧ b.isDigit then .error .outOfRange
    else .error .invalid
  | _ => .error .tooShort

/-- Hours and minutes of an offset, in seconds. -/
def readOffsetTime (cs : List Char) : Except ReadError (Nat × List Char) := do
  let (hours, cs) ← readPair '0' '9' cs
  let cs := cs.dropWhile fun c => c = ':' || Text.isBlankChar c
  let (minutes, cs) ← readPair '0' '5' cs
  .ok (hours * 3600 + minutes * 60, cs)

/-- An offset from universal time in seconds: the letter Z, the letters UTC, or a sign with hours
and minutes. -/
def readOffset (cs : List Char) : Except ReadError (Int × List Char) :=
  match cs with
  | 'Z' :: rest | 'z' :: rest => .ok (0, rest)
  | '+' :: rest => (readOffsetTime rest).map fun (n, rest) => ((n : Int), rest)
  | '-' :: rest | '−' :: rest => (readOffsetTime rest).map fun (n, rest) => (-(n : Int), rest)
  | a :: b :: c :: rest =>
    if [a, b, c].map Char.toUpper = ['U', 'T', 'C'] then .ok (0, rest) else .error .invalid
  | [] => .error .tooShort
  | _ => .error .invalid

/-- The point in time that a date and a clock show at an offset. The sixtieth second is a leap
second. -/
def ofClock (date : CalendarDate) (hour minute second nanos : Nat) (offset : Int) : Instant where
  seconds := date.toDays * 86400 +
    (hour * 3600 + minute * 60 + if second = 60 then 59 else second : Nat) - offset
  nanos := nanos + if second = 60 then 1000000000 else 0

/-- The point in time that a date and a clock show at an offset, when there is one. -/
def resolve (date : CalendarDate) (hour minute second nanos : Nat) (offset : Int) :
    Except ReadError Instant :=
  if 86400 ≤ offset.natAbs then .error .outOfRange
  else if maxYear < date.year ∨ date.year < minYear ∨
      CalendarDate.daysInMonth date.year date.month < date.day then .error .outOfRange
  else
    let t := ofClock date hour minute second nanos offset
    if maxYear < t.date.year ∨ t.date.year < minYear then .error .impossible else .ok t

/-- What stands between a date and a clock. -/
def readDivider : List Char → Except ReadError (List Char)
  | [] => .error .tooShort
  | c :: rest => if c = 'T' ∨ c = 't' ∨ c = ' ' then .ok rest else .error .invalid

/-- Read a point in time. -/
def read (text : String) : Except ReadError Instant := do
  let (year, cs) ← readYear text.toList
  let cs ← readMark '-' cs
  let (month, cs) ← readBounded 2 1 12 cs
  let cs ← readMark '-' cs
  let (day, cs) ← readBounded 2 1 31 cs
  let cs ← readDivider cs
  let (hour, cs) ← readBounded 2 0 23 cs
  let cs ← readMark ':' cs
  let (minute, cs) ← readBounded 2 0 59 cs
  let cs ← readMark ':' cs
  let (second, cs) ← readBounded 2 0 60 cs
  let (nanos, cs) ← readNanos cs
  let (offset, cs) ← readOffset (Text.trimFront cs)
  if (Text.trimFront cs).isEmpty then resolve ⟨year, month, day⟩ hour minute second nanos offset
  else .error .tooLong

/-- A number with zeros in front up to a width. -/
def padded (width n : Nat) : String :=
  let digits := toString n
  String.ofList (List.replicate (width - digits.length) '0') ++ digits

/-- A year: four digits, with a sign when it needs one. -/
def yearText (year : Int) : String :=
  if 0 ≤ year ∧ year ≤ 9999 then padded 4 year.toNat
  else (if year < 0 then "-" else "+") ++ padded 4 year.natAbs

/-- The date as text. -/
def dateText (t : Instant) : String :=
  let d := t.date
  yearText d.year ++ "-" ++ padded 2 d.month ++ "-" ++ padded 2 d.day

/-- The time of day to the second. -/
def clockText (t : Instant) : String :=
  let ofDay := (Int.fmod t.seconds 86400).toNat
  let second := ofDay % 60 + (if 1000000000 ≤ t.nanos then 1 else 0)
  padded 2 (ofDay / 3600) ++ ":" ++ padded 2 (ofDay / 60 % 60) ++ ":" ++ padded 2 second

/-- The fraction of the second: none when it is zero, else three, six or nine digits. -/
def fractionText (t : Instant) : String :=
  let nanos := t.nanos % 1000000000
  if nanos = 0 then ""
  else if nanos % 1000000 = 0 then "." ++ padded 3 (nanos / 1000000)
  else if nanos % 1000 = 0 then "." ++ padded 6 (nanos / 1000)
  else "." ++ padded 9 nanos

/-- The interchange form, to the full precision. -/
def render (t : Instant) : String := t.dateText ++ "T" ++ t.clockText ++ t.fractionText ++ "Z"

/-- The interchange form to the second, as cluster objects carry it. -/
def renderSeconds (t : Instant) : String := t.dateText ++ "T" ++ t.clockText ++ "Z"

/-- The form for people, to the full precision. -/
def display (t : Instant) : String :=
  t.dateText ++ " " ++ t.clockText ++ t.fractionText ++ " UTC"

/-- The form for table cells, to the second. -/
def displaySeconds (t : Instant) : String := t.dateText ++ " " ++ t.clockText

/-- Read a point in time from JSON. -/
def decode : Json → Decoded Instant
  | .str text =>
    match read text with
    | .ok t => .ok t
    | .error e => .error (.refused e.message)
  | j => Decode.mismatch "an RFC 3339 formatted date and time string" j

/-- The JSON form, to the full precision. -/
def encode (t : Instant) : Json := .str t.render

end Instant

end TaskEngine
