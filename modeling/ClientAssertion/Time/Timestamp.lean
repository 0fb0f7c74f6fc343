/-
**Local times with an offset (RFC 3339).**

A timestamp keeps the date and time of day that were written and the offset of the local clock.

* `Timestamp.instant` is the instant that it denotes;
* `Timestamp.text` writes it: `Z` for the offset zero, the fraction without trailing zeros;
* `Timestamp.ofText?` reads it: any ASCII character may separate date and time, digits behind the
  ninth of a fraction are dropped, and a second 60 is accepted where a leap second can be, as the
  last nanosecond before it;
* `Instant.text` writes an instant in universal time, the hour without a leading zero.
-/

import ClientAssertion.Text.Numeral
import ClientAssertion.Time.Date
import ClientAssertion.Time.Instant

namespace ClientAssertion

/-- A time of day. -/
structure TimeOfDay where
  hour : Nat
  minute : Nat
  second : Nat
  nanosecond : Nat
  valid : hour < 24 ∧ minute < 60 ∧ second < 60 ∧ nanosecond < 1000000000
deriving DecidableEq, Repr

namespace TimeOfDay

/-- The time of day with the given numbers, if it exists. -/
def of? (hour minute second nanosecond : Nat) : Option TimeOfDay :=
  if valid : hour < 24 ∧ minute < 60 ∧ second < 60 ∧ nanosecond < 1000000000 then
    some ⟨hour, minute, second, nanosecond, valid⟩
  else none

/-- Seconds since midnight. -/
def seconds (time : TimeOfDay) : Nat := time.hour * 3600 + time.minute * 60 + time.second

/-- The time of day a number of seconds after midnight. -/
def ofSeconds (seconds nanosecond : Nat) (valid : seconds < 86400 ∧ nanosecond < 1000000000) :
    TimeOfDay :=
  ⟨seconds / 3600, seconds / 60 % 60, seconds % 60, nanosecond, by omega⟩

end TimeOfDay

/-- A date and time of day on a clock that is ahead of universal time by `offset` minutes. -/
structure Timestamp where
  date : Date
  time : TimeOfDay
  offset : Int
  offset_valid : -1440 < offset ∧ offset < 1440
deriving DecidableEq, Repr

namespace Instant

/-- The date and time of day of an instant in universal time. -/
def universal (instant : Instant) : Date × TimeOfDay :=
  (Date.ofDays (instant.seconds / 86400),
    TimeOfDay.ofSeconds (instant.seconds % 86400).toNat instant.subsecond
      (by constructor <;> (try unfold subsecond) <;> omega))

end Instant

namespace Timestamp

/-- The instant that a timestamp denotes. -/
def instant (timestamp : Timestamp) : Instant :=
  ⟨(timestamp.date.toDays * 86400 + timestamp.time.seconds - timestamp.offset * 60) * 1000000000 +
    timestamp.time.nanosecond⟩

/-- The timestamp of an instant on a clock that shows universal time. -/
def ofInstant (instant : Instant) : Timestamp :=
  ⟨instant.universal.1, instant.universal.2, 0, by omega⟩

/-! ### Writing -/

/-- An offset as it is written. -/
def offsetChars (offset : Int) : List Char :=
  if offset = 0 then ['Z']
  else
    (if offset < 0 then '-' else '+') :: Numeral.padded 2 (offset.natAbs / 60) ++
      ':' :: Numeral.padded 2 (offset.natAbs % 60)

/-- A fraction of a second as it is written, with its point. -/
def fractionChars (nanosecond : Nat) : List Char :=
  if nanosecond = 0 then [] else '.' :: Numeral.fraction 9 nanosecond

/-- A date as it is written. -/
def dateChars (date : Date) : List Char :=
  Numeral.padded 4 date.year.toNat ++ '-' :: Numeral.padded 2 date.month ++
    '-' :: Numeral.padded 2 date.day

/-- A time of day as it is written. -/
def timeChars (time : TimeOfDay) : List Char :=
  Numeral.padded 2 time.hour ++ ':' :: Numeral.padded 2 time.minute ++
    ':' :: Numeral.padded 2 time.second ++ fractionChars time.nanosecond

/-- The characters of a timestamp. -/
def chars (timestamp : Timestamp) : List Char :=
  dateChars timestamp.date ++ 'T' :: timeChars timestamp.time ++ offsetChars timestamp.offset

/-- The text of a timestamp. -/
def text (timestamp : Timestamp) : String := String.ofList timestamp.chars

/-! ### Reading -/

/-- The number that exactly `width` leading digits denote, and what follows them. -/
def number? (width : Nat) (chars : List Char) : Option (Nat × List Char) :=
  if (chars.take width).length = width ∧ (chars.take width).all Char.isDigit then
    some (Numeral.ofDigits (chars.take width), chars.drop width)
  else none

/-- What follows an expected character. -/
def after? (expected : Char) : List Char → Option (List Char)
  | char :: chars => if char = expected then some chars else none
  | [] => none

/-- The number of two digits behind an expected character, and what follows it. -/
def part? (expected : Char) (chars : List Char) : Option (Nat × List Char) :=
  after? expected chars >>= number? 2

/-- What follows the character between date and time. -/
def afterSeparator? : List Char → Option (List Char)
  | char :: chars => if char.toNat < 128 then some chars else none
  | [] => none

/-- The nanoseconds that a fraction denotes, if there is one, and what follows it. -/
def fraction? : List Char → Option (Nat × List Char)
  | '.' :: chars =>
    let digits := chars.takeWhile Char.isDigit
    if digits = [] then none
    else
      let kept := digits.take 9
      some (Numeral.ofDigits kept * Nat.pow 10 (9 - kept.length), chars.dropWhile Char.isDigit)
  | chars => some (0, chars)

/-- The minutes that an offset denotes, which ends the text. -/
def offset? : List Char → Option Int
  | ['Z'] => some 0
  | ['z'] => some 0
  | sign :: chars => do
    if sign ≠ '+' ∧ sign ≠ '-' then none
    else
      let (hours, chars) ← number? 2 chars
      let (minutes, chars) ← part? ':' chars
      if chars ≠ [] ∨ 24 ≤ hours ∨ 60 ≤ minutes then none
      else
        let total : Int := hours * 60 + minutes
        some (if sign = '-' then -total else total)
  | [] => none

/-- The second before a leap second, in universal time. -/
def isBeforeLeapSecond (timestamp : Timestamp) : Bool :=
  let (date, time) := timestamp.instant.universal
  time.seconds == 86399 && date.isLastOfMonth

/-- The timestamp with the given parts, if they are in range. -/
def of? (date : Date) (time : TimeOfDay) (offset : Int) : Option Timestamp :=
  if valid : -1440 < offset ∧ offset < 1440 then some ⟨date, time, offset, valid⟩ else none

/-- The numbers of a time of day as they are written. -/
structure Clock where
  hour : Nat
  minute : Nat
  second : Nat
  nanosecond : Nat
deriving DecidableEq, Repr

/-- The date that leading characters denote, and what follows it. -/
def date? (chars : List Char) : Option (Date × List Char) := do
  let (year, chars) ← number? 4 chars
  let (month, chars) ← part? '-' chars
  let (day, chars) ← part? '-' chars
  return (← Date.of? year month day, chars)

/-- The time of day that leading characters spell, and what follows it. -/
def clock? (chars : List Char) : Option (Clock × List Char) := do
  let (hour, chars) ← number? 2 chars
  let (minute, chars) ← part? ':' chars
  let (second, chars) ← part? ':' chars
  let (nanosecond, chars) ← fraction? chars
  return (⟨hour, minute, second, nanosecond⟩, chars)

/-- The timestamp at a time of day as it is written, which may be a leap second. -/
def ofClock? (date : Date) (clock : Clock) (offset : Int) : Option Timestamp := do
  if clock.second = 60 then
    let timestamp ← of? date (← TimeOfDay.of? clock.hour clock.minute 59 999999999) offset
    if timestamp.isBeforeLeapSecond then some timestamp else none
  else of? date (← TimeOfDay.of? clock.hour clock.minute clock.second clock.nanosecond) offset

/-- The timestamp that characters denote. -/
def ofChars? (chars : List Char) : Option Timestamp := do
  let (date, chars) ← date? chars
  let (clock, chars) ← afterSeparator? chars >>= clock?
  ofClock? date clock (← offset? chars)

/-- The timestamp that a text denotes. -/
def ofText? (text : String) : Option Timestamp := ofChars? text.toList

end Timestamp

/-! ### Instants -/

namespace Instant

/-- A year with at least four digits, behind its sign where it is negative. -/
def yearChars (year : Int) : List Char :=
  (if year < 0 then ['-'] else []) ++ Numeral.padded 4 year.natAbs

/-- The digits of a fraction of a second, at least one. -/
def fractionChars (nanosecond : Nat) : List Char :=
  if nanosecond = 0 then ['0'] else Numeral.fraction 9 nanosecond

/-- The text of an instant in universal time. -/
def text (instant : Instant) : String :=
  let (date, time) := instant.universal
  String.ofList
    (yearChars date.year ++ '-' :: Numeral.padded 2 date.month ++ '-' :: Numeral.padded 2 date.day ++
      ' ' :: Numeral.digits time.hour ++ ':' :: Numeral.padded 2 time.minute ++
      ':' :: Numeral.padded 2 time.second ++ '.' :: fractionChars time.nanosecond) ++ " +00:00:00"

/-- The first and the last second that a calendar with the years -9999 to 9999 holds. -/
def secondRange : Int × Int := (-377705116800, 253402300799)

/-- The instant a number of seconds after the epoch, if the calendar holds it. -/
def ofSeconds? (seconds : Int) : Option Instant :=
  if secondRange.1 ≤ seconds ∧ seconds ≤ secondRange.2 then some (ofSeconds seconds) else none

end Instant

end ClientAssertion
