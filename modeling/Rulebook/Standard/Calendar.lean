import Rulebook.Text.Ascii
import Rulebook.Text.Utf8
import Rulebook.Unicode.Blank

/-!
# Dates and times

Readers for dates, times of day and their combinations. Every reader takes what it reads off the front of a
text and gives the rest. They stand for the parsers of a calendar library, `chrono`, and take this over from
it:

* A month, day, hour, minute or second of a local form has one digit or two, and blanks may stand in front of
  it. A year has blanks in front of it and at most four digits, or any number of digits behind a sign.
* The fraction of a second may be missing. If it is there, it is a point and one digit or more.
* Dates are those of the Gregorian calendar, which is extended to the years from -262143 to 262142. The second
  60 is a leap second, which any minute may have.
* A text is read to its end, or it is no date or time. Blanks at its end are read by no reader.
* A form with an offset is strict, as RFC 3339 has it: every field has all its digits and no blanks. Between
  date and time stands `T`, `t` or a blank. The offset is `Z`, `z`, or a sign with hours and minutes, less than
  a day, and the minus sign of typography is a sign too.
-/

namespace Rulebook.Standard.Calendar

open Text (isDigit digitsValue readChar)

/-- The digits at the start of a text, at most so many. -/
def leadingDigits (most : Nat) (s : List Char) : List Char := (s.take most).takeWhile isDigit

/-- A number of one digit or more, at most so many. -/
def readNumber (most : Nat) (s : List Char) : Option (Nat × List Char) :=
  let digits := leadingDigits most s
  if digits.isEmpty then none else some (digitsValue 10 digits, s.drop digits.length)

/-- A number with exactly so many digits. -/
def readPadded (width : Nat) (s : List Char) : Option (Nat × List Char) :=
  let digits := leadingDigits width s
  if digits.length = width then some (digitsValue 10 digits, s.drop width) else none

/-- A field of at most two digits, with blanks in front of it. -/
def readField (s : List Char) : Option (Nat × List Char) :=
  readNumber 2 (s.dropWhile Unicode.isBlank)

/-- A year with blanks in front of it: at most four digits, or any number of them behind a sign. -/
def readYear (s : List Char) : Option (Int × List Char) :=
  match s.dropWhile Unicode.isBlank with
  | '-' :: rest => (readNumber rest.length rest).map fun (n, rest) => (-(n : Int), rest)
  | '+' :: rest => (readNumber rest.length rest).map fun (n, rest) => ((n : Int), rest)
  | s => (readNumber 4 s).map fun (n, rest) => ((n : Int), rest)

/-- A fraction of a second, if a point begins one. -/
def readFraction : List Char → Option (List Char)
  | '.' :: rest =>
    let digits := rest.takeWhile isDigit
    if digits.isEmpty then none else some (rest.drop digits.length)
  | s => some s

/-! ## Valid dates and times -/

/-- The years that have a date. -/
def isYear (year : Int) : Bool := -262143 ≤ year && year ≤ 262142

/-- Leap years of the Gregorian calendar, extended to all years. -/
def isLeapYear (year : Int) : Bool := year % 4 = 0 && (year % 100 ≠ 0 || year % 400 = 0)

/-- The number of days of a month. -/
def daysIn (year : Int) (month : Nat) : Nat :=
  match month with
  | 2 => if isLeapYear year then 29 else 28
  | 4 | 6 | 9 | 11 => 30
  | _ => 31

/-- Whether a year has a day of that number in a month of that number. -/
def isDate (year : Int) (month day : Nat) : Bool :=
  isYear year && 1 ≤ month && month ≤ 12 && 1 ≤ day && day ≤ daysIn year month

/-- Times of day; any minute may end in a leap second. -/
def isTime (hour minute second : Nat) : Bool := hour ≤ 23 && minute ≤ 59 && second ≤ 60

/-! ## Local forms -/

/-- A date. -/
def readDate (s : List Char) : Option (List Char) := do
  let (year, s) ← readYear s
  let (month, s) ← readField (← readChar '-' s)
  let (day, s) ← readField (← readChar '-' s)
  if isDate year month day then some s else none

/-- A time of day with seconds, and a fraction or none. -/
def readFullTime (s : List Char) : Option (List Char) := do
  let (hour, s) ← readField s
  let (minute, s) ← readField (← readChar ':' s)
  let (second, s) ← readField (← readChar ':' s)
  let s ← readFraction s
  if isTime hour minute second then some s else none

/-- A time of day without seconds. -/
def readShortTime (s : List Char) : Option (List Char) := do
  let (hour, s) ← readField s
  let (minute, s) ← readField (← readChar ':' s)
  if isTime hour minute 0 then some s else none

/-- Whether a reader reads the whole of a text. -/
def readsAll (reader : List Char → Option (List Char)) (s : List Char) : Bool :=
  reader s == some []

/-- Dates of ten bytes. -/
def isDateText (s : List Char) : Bool := Utf8.byteCount s == 10 && readsAll readDate s

/-- Times of day, with seconds or without. -/
def isTimeText (s : List Char) : Bool := readsAll readFullTime s || readsAll readShortTime s

/-- A date, the letter `T`, and a time. -/
def readDateTime (readTime : List Char → Option (List Char)) (s : List Char) :
    Option (List Char) := do
  readTime (← readChar 'T' (← readDate s))

/-- Date-times without an offset. -/
def isLocalText (s : List Char) : Bool :=
  readsAll (readDateTime readFullTime) s || readsAll (readDateTime readShortTime) s

/-! ## Forms with an offset -/

/-- The minutes of an offset: two digits, the first one up to five. -/
def readOffsetMinutes (s : List Char) : Option (Nat × List Char) := do
  let (minutes, s) ← readPadded 2 s
  if minutes ≤ 59 then some (minutes, s) else none

/-- An offset from universal time: `Z`, or a sign, hours and minutes, less than a day. The sign may be
a minus sign of typography. -/
def readOffset : List Char → Option (List Char)
  | [] => none
  | c :: rest =>
    if c = 'Z' ∨ c = 'z' then some rest
    else if c = '+' ∨ c = '-' ∨ c = '−' then do
      let (hours, s) ← readPadded 2 rest
      let (_, s) ← readOffsetMinutes (← readChar ':' s)
      if hours ≤ 23 then some s else none
    else none

/-- The letter or blank between a date and a time. -/
def readDateTimeMark : List Char → Option (List Char)
  | [] => none
  | c :: rest => if c = 'T' ∨ c = 't' ∨ c = ' ' then some rest else none

/-- A date-time with an offset. -/
def readZonal (s : List Char) : Option (List Char) := do
  let (year, s) ← readPadded 4 s
  let (month, s) ← readPadded 2 (← readChar '-' s)
  let (day, s) ← readPadded 2 (← readChar '-' s)
  let (hour, s) ← readPadded 2 (← readDateTimeMark s)
  let (minute, s) ← readPadded 2 (← readChar ':' s)
  let (second, s) ← readPadded 2 (← readChar ':' s)
  let s ← readOffset (← readFraction s)
  if isDate year month day && isTime hour minute second then some s else none

/-- Date-times with an offset. -/
def isZonalText (s : List Char) : Bool := readsAll readZonal s

/-- Date-times with an offset or without. -/
def isDateTimeText (s : List Char) : Bool := isZonalText s || isLocalText s

end Rulebook.Standard.Calendar
