/-
# Instants

A point in time, kept as seconds since the start of 1970 in universal time and
nanoseconds; a leap second is a second with more than a thousand million of them.
An instant is written with its date and time, and read from a date, a time and an
offset, with some freedom about blanks and the number of digits.
-/

import UtilityBilling.Number.Numeral
import UtilityBilling.Text.Blank

namespace UtilityBilling.Session

open UtilityBilling.Number UtilityBilling.Text

/-- A point in time. -/
structure Instant where
  seconds : Int
  nanoseconds : Nat := 0
  deriving DecidableEq, Repr, Inhabited

/-- A day of the calendar. -/
structure Day where
  year : Int
  month : Nat
  day : Nat
  deriving DecidableEq, Repr

/-- The number of days from the start of 1970 to a day. Years are counted from
March on, so that the leap day comes last. -/
def Day.number (d : Day) : Int :=
  let year := if d.month ≤ 2 then d.year - 1 else d.year
  let era := Int.fdiv year 400
  let yearOfEra := year - era * 400
  let monthFromMarch : Int := if d.month ≤ 2 then d.month + 9 else d.month - 3
  let dayOfYear := (153 * monthFromMarch + 2) / 5 + d.day - 1
  let dayOfEra := yearOfEra * 365 + yearOfEra / 4 - yearOfEra / 100 + dayOfYear
  era * 146097 + dayOfEra - 719468

/-- The day with a number. -/
def Day.ofNumber (number : Int) : Day :=
  let shifted := number + 719468
  let era := Int.fdiv shifted 146097
  let dayOfEra := shifted - era * 146097
  let yearOfEra :=
    (dayOfEra - dayOfEra / 1460 + dayOfEra / 36524 - dayOfEra / 146096) / 365
  let dayOfYear := dayOfEra - (365 * yearOfEra + yearOfEra / 4 - yearOfEra / 100)
  let monthFromMarch := (5 * dayOfYear + 2) / 153
  let day := dayOfYear - (153 * monthFromMarch + 2) / 5 + 1
  let month := if monthFromMarch < 10 then monthFromMarch + 3 else monthFromMarch - 9
  let year := yearOfEra + era * 400 + (if month ≤ 2 then 1 else 0)
  ⟨year, month.toNat, day.toNat⟩

/-- Whether a year has a leap day. -/
def isLeapYear (year : Int) : Bool :=
  year % 4 == 0 && (year % 100 != 0 || year % 400 == 0)

/-- The number of days of a month. -/
def daysInMonth (year : Int) (month : Nat) : Nat :=
  if month == 2 then if isLeapYear year then 29 else 28
  else if month == 4 || month == 6 || month == 9 || month == 11 then 30
  else 31

/-- Whether a day is in the calendar. -/
def Day.isValid (d : Day) : Bool :=
  1 ≤ d.month && d.month ≤ 12 && 1 ≤ d.day && d.day ≤ daysInMonth d.year d.month

/-- The years that the calendar covers. -/
def isCoveredYear (year : Int) : Bool :=
  -262143 ≤ year && year ≤ 262142

namespace Instant

/-- The day of an instant. -/
def day (i : Instant) : Day :=
  .ofNumber (Int.fdiv i.seconds 86400)

/-- The second of its day of an instant. -/
def secondOfDay (i : Instant) : Nat :=
  (Int.fmod i.seconds 86400).toNat

/-- A year in four digits, or with a sign and five characters outside the years
zero to 9999. -/
def yearChars (year : Int) : List Char :=
  if 0 ≤ year ∧ year ≤ 9999 then zeroPadded 4 year.toNat
  else (if year < 0 then '-' else '+') :: zeroPadded 4 year.natAbs

/-- A day in digits. -/
def dayChars (d : Day) : List Char :=
  yearChars d.year ++ '-' :: zeroPadded 2 d.month ++ '-' :: zeroPadded 2 d.day

/-- Hours and minutes in digits. -/
def hourChars (i : Instant) : List Char :=
  zeroPadded 2 (i.secondOfDay / 3600) ++ ':' :: zeroPadded 2 (i.secondOfDay / 60 % 60)

/-- The fraction of a second in as few groups of three digits as it needs. -/
def fractionChars (nanoseconds : Nat) : List Char :=
  if nanoseconds = 0 then []
  else if nanoseconds % 1000000 = 0 then '.' :: zeroPadded 3 (nanoseconds / 1000000)
  else if nanoseconds % 1000 = 0 then '.' :: zeroPadded 6 (nanoseconds / 1000)
  else '.' :: zeroPadded 9 nanoseconds

/-- Date and time in digits, without an offset. -/
def timeChars (i : Instant) : List Char :=
  dayChars i.day ++ 'T' :: i.hourChars ++
    ':' :: zeroPadded 2 (i.secondOfDay % 60 + i.nanoseconds / 1000000000) ++
    fractionChars (i.nanoseconds % 1000000000)

/-- The form with a zero offset. -/
def text (i : Instant) : String :=
  String.ofList (i.timeChars ++ ['+', '0', '0', ':', '0', '0'])

/-- The form with the letter for universal time. -/
def zuluText (i : Instant) : String :=
  String.ofList (i.timeChars ++ ['Z'])

/-- The form for people, down to the minute. -/
def minuteText (i : Instant) : String :=
  String.ofList (dayChars i.day ++ ' ' :: i.hourChars) ++ " UTC"

/-- Reads between one and `most` digits. -/
def digits? (most : Nat) (text : List Char) : Option (Nat × List Char) :=
  let run := (text.take most).takeWhile Char.isDigit
  if run.isEmpty then none
  else
    let value := run.foldl (fun n c => n * 10 + (c.toNat - 48)) 0
    if maxInt64 < value then none else some (value, text.drop run.length)

/-- Reads a given character after blanks. -/
def mark? (c : Char) (text : List Char) : Option (List Char) :=
  match trimLeft text with
  | d :: rest => if d == c then some rest else none
  | [] => none

/-- Reads a year: up to four digits, or a sign and any number of digits. -/
def year? (text : List Char) : Option (Int × List Char) :=
  match trimLeft text with
  | '-' :: rest => (digits? rest.length rest).map fun (n, r) => (-(n : Int), r)
  | '+' :: rest => (digits? rest.length rest).map fun (n, r) => ((n : Int), r)
  | rest => (digits? 4 rest).map fun (n, r) => ((n : Int), r)

/-- Reads a number of up to two digits after blanks. -/
def two? (text : List Char) : Option (Nat × List Char) :=
  digits? 2 (trimLeft text)

/-- Reads a fraction of a second, if a point starts one. Digits after the ninth are
passed over. -/
def fraction? (text : List Char) : Option (Nat × List Char) :=
  match text with
  | '.' :: rest =>
    (digits? 9 rest).map fun (n, r) =>
      (n * Nat.pow 10 (9 - (rest.length - r.length)), r.dropWhile Char.isDigit)
  | _ => some (0, text)

/-- Reads the hours and minutes of an offset, in seconds. -/
def offsetSize? (text : List Char) : Option (Int × List Char) :=
  match text with
  | a :: b :: rest =>
    if a.isDigit && b.isDigit then
      match rest.dropWhile fun c => c == ':' || isBlank c with
      | m :: n :: after =>
        if '0' ≤ m && m ≤ '5' && n.isDigit then
          let value (c : Char) : Int := (c.toNat : Int) - 48
          some (((value a * 10 + value b) * 60 + value m * 10 + value n) * 60, after)
        else none
      | _ => none
    else none
  | _ => none

/-- Reads an offset in seconds. -/
def offset? (text : List Char) : Option (Int × List Char) :=
  match text with
  | 'Z' :: rest | 'z' :: rest => some (0, rest)
  | '+' :: rest => offsetSize? rest
  | '-' :: rest | '\u2212' :: rest =>
    (offsetSize? rest).map fun (seconds, after) => (-seconds, after)
  | u :: t :: c :: rest =>
    if asciiUpper (String.ofList [u, t, c]) == "UTC" then some (0, rest) else none
  | _ => none

/-- The instant of a day, a time of that day and an offset, if there is one. -/
def ofParts? (d : Day) (hour minute second nanoseconds : Nat) (offset : Int) :
    Option Instant :=
  if !d.isValid || !isCoveredYear d.year || 23 < hour || 59 < minute || 60 < second ||
      86400 ≤ offset.natAbs then none
  else
    let leap := second == 60
    let local_ := d.number * 86400 + hour * 3600 + minute * 60 + (if leap then 59 else second)
    let seconds := local_ - offset
    if isCoveredYear (Day.ofNumber (Int.fdiv seconds 86400)).year then
      some ⟨seconds, nanoseconds + (if leap then 1000000000 else 0)⟩
    else none

/-- Reads an instant. -/
def parse? (text : String) : Option Instant := do
  let (year, r) ← year? text.toList
  let r ← mark? '-' r
  let (month, r) ← two? r
  let r ← mark? '-' r
  let (day, r) ← two? r
  let r ← match r with
    | 'T' :: r | 't' :: r | ' ' :: r => some r
    | _ => none
  let (hour, r) ← two? r
  let r ← mark? ':' r
  let (minute, r) ← two? r
  let r ← mark? ':' r
  let (second, r) ← two? r
  let (nanoseconds, r) ← fraction? r
  let (offset, r) ← offset? (trimLeft r)
  if (trimLeft r).isEmpty then
    ofParts? ⟨year, month, day⟩ hour minute second nanoseconds offset
  else none

end Instant

end UtilityBilling.Session
