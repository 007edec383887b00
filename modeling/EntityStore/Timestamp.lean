import EntityStore.Text.Blank

/-!
# Moments in time

A moment is a number of seconds since the beginning of 1970 in universal time and
a number of nanoseconds within the second.  Its text is the common profile of ISO
8601: date, `T`, time, a fraction of three, six or nine digits when there is one,
and `Z`.

Reading is lenient where the standard profile is not: blanks may surround the
parts, a blank or a small `t` may stand between date and time, the years may have
a sign, the offset may be any number of hours and minutes below a day, and `UTC`
may stand for `Z`.  A second numbered sixty is kept as a second that runs past its
end.
-/

set_option autoImplicit false

namespace EntityStore

/-- A moment in universal time. -/
structure Timestamp where
  seconds : Int
  nanoseconds : Nat
  deriving DecidableEq, Repr, Inhabited

namespace Timestamp

/-! ## The calendar -/

/-- A day of the proleptic Gregorian calendar. -/
structure Day where
  year : Int
  month : Nat
  day : Nat
  deriving DecidableEq, Repr

/-- Whether a year has a leap day. -/
def isLeapYear (year : Int) : Bool :=
  year % 4 == 0 && (year % 100 != 0 || year % 400 == 0)

/-- The number of days of a month. -/
def monthLength (year : Int) (month : Nat) : Nat :=
  if month = 2 then (if isLeapYear year then 29 else 28)
  else if month = 4 ∨ month = 6 ∨ month = 9 ∨ month = 11 then 30
  else 31

/-- The number of days from the beginning of 1970 to a day.  Years are counted from March, so
that a leap day is the last day of its year. -/
def Day.number (day : Day) : Int :=
  let year := if day.month ≤ 2 then day.year - 1 else day.year
  let monthFromMarch : Int := ((day.month + 9) % 12 : Nat)
  let yearOfEra := year % 400
  let dayOfYear := (153 * monthFromMarch + 2) / 5 + day.day - 1
  (year / 400) * 146097 + (yearOfEra * 365 + yearOfEra / 4 - yearOfEra / 100 + dayOfYear) - 719468

/-- The day with a number of days from the beginning of 1970. -/
def Day.ofNumber (number : Int) : Day :=
  let shifted := number + 719468
  let dayOfEra := shifted % 146097
  let yearOfEra :=
    (dayOfEra - dayOfEra / 1460 + dayOfEra / 36524 - dayOfEra / 146096) / 365
  let dayOfYear := dayOfEra - (365 * yearOfEra + yearOfEra / 4 - yearOfEra / 100)
  let monthFromMarch := (5 * dayOfYear + 2) / 153
  let month := if monthFromMarch < 10 then monthFromMarch + 3 else monthFromMarch - 9
  { year := yearOfEra + (shifted / 146097) * 400 + (if month ≤ 2 then 1 else 0)
    month := month.toNat
    day := (dayOfYear - (153 * monthFromMarch + 2) / 5 + 1).toNat }

/-- The years that a moment may lie in. -/
def yearInRange (year : Int) : Bool := decide (-262143 ≤ year ∧ year ≤ 262142)

/-! ## Writing -/

/-- The text of a year: four digits, or a sign before and after which come at least four. -/
def yearText (year : Int) : String :=
  if 0 ≤ year ∧ year ≤ 9999 then Text.padded 4 year.toNat
  else (if year < 0 then "-" else "+") ++ Text.padded 4 year.natAbs

/-- The text of a fraction of a second in three, six or nine digits, and of none in none. -/
def fractionText (nanoseconds : Nat) : String :=
  if nanoseconds = 0 then ""
  else if nanoseconds % 1000000 = 0 then "." ++ Text.padded 3 (nanoseconds / 1000000)
  else if nanoseconds % 1000 = 0 then "." ++ Text.padded 6 (nanoseconds / 1000)
  else "." ++ Text.padded 9 nanoseconds

/-- The text of a moment. -/
def text (moment : Timestamp) : String :=
  let day := Day.ofNumber (moment.seconds / 86400)
  let ofDay := (moment.seconds % 86400).toNat
  let runsOver := 1000000000 ≤ moment.nanoseconds
  let second := ofDay % 60 + (if runsOver then 1 else 0)
  let nanoseconds := if runsOver then moment.nanoseconds - 1000000000 else moment.nanoseconds
  yearText day.year ++ "-" ++ Text.padded 2 day.month ++ "-" ++ Text.padded 2 day.day ++ "T" ++
    Text.padded 2 (ofDay / 3600) ++ ":" ++ Text.padded 2 (ofDay / 60 % 60) ++ ":" ++
    Text.padded 2 second ++ fractionText nanoseconds ++ "Z"

/-! ## Reading -/

/-- Reads a number of at least one and at most `width` digits. -/
def readNumber (width : Nat) (text : List Char) : Option (Nat × List Char) := do
  let digits := (text.take width).takeWhile Char.isDigit
  return (← Text.natural? digits, text.drop digits.length)

/-- Reads a year: at most four digits, or a sign and any number of digits. -/
def readYear (text : List Char) : Option (Int × List Char) :=
  match text with
  | '-' :: rest => (readNumber rest.length rest).map fun (year, rest) => (-(year : Int), rest)
  | '+' :: rest => (readNumber rest.length rest).map fun (year, rest) => ((year : Int), rest)
  | _ => (readNumber 4 text).map fun (year, rest) => ((year : Int), rest)

/-- Reads one given character. -/
def readMark (mark : Char) : List Char → Option (List Char)
  | [] => none
  | first :: rest => if first = mark then some rest else none

/-- Reads two digits after any blanks. -/
def readPair (text : List Char) : Option (Nat × List Char) := readNumber 2 (Text.trimStart text)

/-- Reads a day. -/
def readDay (text : List Char) : Option (Day × List Char) := do
  let (year, rest) ← readYear (Text.trimStart text)
  let rest ← readMark '-' (Text.trimStart rest)
  let (month, rest) ← readPair rest
  let rest ← readMark '-' (Text.trimStart rest)
  let (day, rest) ← readPair rest
  if yearInRange year && 1 ≤ month && month ≤ 12 && 1 ≤ day && day ≤ monthLength year month then
    return (⟨year, month, day⟩, rest)
  else none

/-- Reads the fraction of a second.  Digits past the ninth are passed over. -/
def readFraction (text : List Char) : Option (Nat × List Char) :=
  match text with
  | '.' :: rest => do
      let digits := rest.takeWhile Char.isDigit
      let kept := digits.take 9
      return ((← Text.natural? kept) * Nat.pow 10 (9 - kept.length), rest.drop digits.length)
  | _ => some (0, text)

/-- Reads a time of day as its seconds and nanoseconds. -/
def readTime (text : List Char) : Option ((Nat × Nat) × List Char) := do
  let (hour, rest) ← readPair text
  let rest ← readMark ':' (Text.trimStart rest)
  let (minute, rest) ← readPair rest
  let rest ← readMark ':' (Text.trimStart rest)
  let (second, rest) ← readPair rest
  let (fraction, rest) ← readFraction rest
  if hour < 24 && minute < 60 && second ≤ 60 then
    let whole := hour * 3600 + minute * 60
    if second = 60 then return ((whole + 59, fraction + 1000000000), rest)
    else return ((whole + second, fraction), rest)
  else none

/-- Reads an offset from universal time as its seconds. -/
def readOffset (text : List Char) : Option (Int × List Char) :=
  match text with
  | first :: rest =>
      if first = 'Z' || first = 'z' then some (0, rest)
      else if (text.take 3).map Char.toUpper = ['U', 'T', 'C'] then some (0, text.drop 3)
      else if first = '+' || first = '-' || first = '−' then
        match rest with
        | hourTens :: hourUnits :: rest => do
            let hours := 10 * (← Text.digit? hourTens) + (← Text.digit? hourUnits)
            let rest := rest.dropWhile fun character => character = ':' || Text.isBlank character
            match rest with
            | minuteTens :: minuteUnits :: rest => do
                let minutes := 10 * (← Text.digit? minuteTens) + (← Text.digit? minuteUnits)
                let seconds : Int := (hours * 3600 + minutes * 60 : Nat)
                if minutes < 60 && hours < 24 then
                  return (if first = '+' then seconds else -seconds, rest)
                else none
            | _ => none
        | _ => none
      else none
  | [] => none

/-- The moment that a text denotes. -/
def parse? (text : String) : Option Timestamp := do
  let (day, rest) ← readDay text.toList
  let rest ←
    match rest with
    | mark :: rest => if mark = 'T' || mark = 't' || mark = ' ' then some rest else none
    | [] => none
  let ((ofDay, nanoseconds), rest) ← readTime rest
  let (offset, rest) ← readOffset (Text.trimStart rest)
  if !(Text.trimStart rest).isEmpty then none
  else
    let seconds := day.number * 86400 + ofDay - offset
    if yearInRange (Day.ofNumber (seconds / 86400)).year then return ⟨seconds, nanoseconds⟩
    else none

end Timestamp

end EntityStore
