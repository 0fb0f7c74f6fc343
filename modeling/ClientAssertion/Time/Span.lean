/-
**Lengths of time.**

A span is a number of nanoseconds whose whole seconds fit into 64 bits.

* `Span.text` writes a span as its years, months, days, hours, minutes, seconds and parts of a
  second, those that are zero left out: `1h 30m`, `1year 43m 12s`;
* `Span.ofText?` reads such texts, in which a unit may occur more than once and in any order, and
  a count may have a fraction if it comes out even;
* `Span.decimalText` writes a span as one decimal number of the largest unit up to the second.
-/

import ClientAssertion.Text.Blank
import ClientAssertion.Text.Numeral

namespace ClientAssertion

/-- A length of time. -/
structure Span where
  nanoseconds : Nat
  bounded : nanoseconds < (1 <<< 64) * 1000000000
deriving DecidableEq, Repr

namespace Span

/-- Nanoseconds in a second. -/
abbrev perSecond : Nat := 1000000000

/-- The span with a number of nanoseconds, if it is not too long. -/
def of? (nanoseconds : Nat) : Option Span :=
  if bounded : nanoseconds < (1 <<< 64) * 1000000000 then some ⟨nanoseconds, bounded⟩ else none

/-- The empty span. -/
def zero : Span := ⟨0, by decide⟩

instance : Inhabited Span := ⟨zero⟩

/-- The span of a number of seconds that is known to fit. -/
def ofSeconds (seconds : Nat) (bounded : seconds * 1000000000 < (1 <<< 64) * 1000000000 := by decide) :
    Span :=
  ⟨seconds * 1000000000, bounded⟩

/-- Whole seconds in a span. -/
def seconds (span : Span) : Nat := span.nanoseconds / perSecond

/-- Nanoseconds in a span besides its whole seconds. -/
def subsecond (span : Span) : Nat := span.nanoseconds % perSecond

/-! ### Units -/

/-- A unit of time.  A month is a twelfth of 365.25 days, rounded to 30.44 days. -/
inductive Unit where
  | nanosecond
  | microsecond
  | millisecond
  | second
  | minute
  | hour
  | day
  | week
  | month
  | year
deriving DecidableEq, Repr

/-- Nanoseconds in a unit. -/
def Unit.nanoseconds : Unit → Nat
  | .nanosecond => 1
  | .microsecond => 1000
  | .millisecond => 1000000
  | .second => perSecond
  | .minute => 60 * perSecond
  | .hour => 3600 * perSecond
  | .day => 86400 * perSecond
  | .week => 604800 * perSecond
  | .month => 2630016 * perSecond
  | .year => 31557600 * perSecond

/-- The unit that a name stands for. -/
def Unit.ofName? : String → Option Unit
  | "nanos" | "nsec" | "ns" => some .nanosecond
  | "usec" | "us" | "µs" => some .microsecond
  | "millis" | "msec" | "ms" => some .millisecond
  | "seconds" | "second" | "secs" | "sec" | "s" => some .second
  | "minutes" | "minute" | "min" | "mins" | "m" => some .minute
  | "hours" | "hour" | "hr" | "hrs" | "h" => some .hour
  | "days" | "day" | "d" => some .day
  | "weeks" | "week" | "wk" | "wks" | "w" => some .week
  | "months" | "month" | "M" => some .month
  | "years" | "year" | "yr" | "yrs" | "y" => some .year
  | _ => none

/-! ### Reading -/

/-- A character of the name of a unit. -/
def isUnitChar (char : Char) : Bool := char.isAlpha || char == 'µ'

/-- A character inside a number, in which blanks do not count. -/
def isNumberChar (char : Char) : Bool := char.isDigit || isBlank char

/-- The digits at the start of a text, without the blanks among them, and what follows them. -/
def digitsOf (chars : List Char) : List Char × List Char :=
  ((chars.takeWhile isNumberChar).filter Char.isDigit, chars.dropWhile isNumberChar)

/-- The digits behind the point, if there is one. -/
def fractionDigits? : List Char → Option (List Char × List Char)
  | '.' :: chars =>
    let (digits, rest) := digitsOf chars
    if digits = [] then none else some (digits, rest)
  | chars => some ([], chars)

/-- A count of units is kept as so many grains, of a nanosecond or of a second; a number of grains
fits into 64 bits. -/
def addGrains? (total grains grain : Nat) : Option Nat :=
  if 1 <<< 64 ≤ grains then none
  else if grain = 1 ∧ 1 <<< 64 ≤ total % perSecond + grains then none
  else if total + grains * grain < (1 <<< 64) * perSecond then some (total + grains * grain)
  else none

/-- The total after a whole number of units. -/
def addWhole? (total : Nat) (unit : Unit) (count : Nat) : Option Nat :=
  let grain := if unit.nanoseconds < perSecond then 1 else perSecond
  addGrains? total (count * (unit.nanoseconds / grain)) grain

/-- The total after a fraction of a unit, which comes out even in nanoseconds for units up to the
minute and in seconds for longer ones.  A nanosecond has no fractions, not even a zero. -/
def addFraction? (total : Nat) (unit : Unit) (digits : List Char) : Option Nat :=
  let numerator := Numeral.ofDigits digits
  let denominator := Nat.pow 10 digits.length
  if digits = [] then some total
  else if 1 <<< 64 ≤ denominator ∨ unit = .nanosecond then none
  else
    let grain := if unit.nanoseconds ≤ 60 * perSecond then 1 else perSecond
    let scaled := numerator * (unit.nanoseconds / grain)
    if 1 <<< 64 ≤ scaled ∨ scaled % denominator ≠ 0 then none
    else addGrains? total (scaled / denominator) grain

/-- The total after the item at the start of the characters, and what follows the item. -/
def item? (total : Nat) (chars : List Char) : Option (Nat × List Char) := do
  let (whole, chars) := digitsOf chars
  let count ← Numeral.value? whole
  if 1 <<< 64 ≤ count then none
  else
    let (fraction, chars) ← fractionDigits? chars
    let unit ← Unit.ofName? (String.ofList (chars.takeWhile isUnitChar))
    let total ← addWhole? total unit count
    let total ← addFraction? total unit fraction
    return (total, chars.dropWhile isUnitChar)

/-- The total of the items that the characters spell, of which no more than `fuel` are read. -/
def items? : (fuel : Nat) → (total : Nat) → List Char → Option Nat
  | 0, _, _ => none
  | fuel + 1, total, chars =>
    match chars.dropWhile isBlank with
    | [] => some total
    | char :: chars =>
      if char.isDigit then do
        let (total, rest) ← item? total (char :: chars)
        items? fuel total rest
      else none

/-- The span that a text denotes. -/
def ofText? (text : String) : Option Span :=
  if text = "0" then some zero
  else if text.toList.all isBlank then none
  else (items? (text.toList.length + 1) 0 text.toList).bind of?

/-! ### Writing -/

/-- A count with the name of its unit, unless it is zero. -/
def counted (count : Nat) (unit : String) : List String :=
  if count = 0 then [] else [toString count ++ unit]

/-- A count with the name of its unit in the singular or plural, unless it is zero. -/
def countedPlural (count : Nat) (unit : String) : List String :=
  if count = 0 then [] else [toString count ++ unit ++ (if count = 1 then "" else "s")]

/-- The items of a span's text. -/
def itemTexts (span : Span) : List String :=
  let inYear := span.seconds % 31557600
  let inMonth := inYear % 2630016
  let inDay := inMonth % 86400
  countedPlural (span.seconds / 31557600) "year" ++ countedPlural (inYear / 2630016) "month" ++
    countedPlural (inMonth / 86400) "day" ++ counted (inDay / 3600) "h" ++
    counted (inDay % 3600 / 60) "m" ++ counted (inDay % 60) "s" ++
    counted (span.subsecond / 1000000) "ms" ++ counted (span.subsecond / 1000 % 1000) "us" ++
    counted (span.subsecond % 1000) "ns"

/-- The text of a span. -/
def text (span : Span) : String :=
  if span.nanoseconds = 0 then "0s" else " ".intercalate span.itemTexts

/-- A decimal number with its unit. -/
def decimal (whole width part : Nat) (unit : String) : String :=
  let fraction := Numeral.fraction width part
  toString whole ++ (if fraction.isEmpty then "" else "." ++ String.ofList fraction) ++ unit

/-- The text of a span as one decimal number. -/
def decimalText (span : Span) : String :=
  if span.seconds ≠ 0 then decimal span.seconds 9 span.subsecond "s"
  else if 1000000 ≤ span.subsecond then
    decimal (span.subsecond / 1000000) 6 (span.subsecond % 1000000) "ms"
  else if 1000 ≤ span.subsecond then
    decimal (span.subsecond / 1000) 3 (span.subsecond % 1000) "µs"
  else decimal span.subsecond 0 0 "ns"

end Span

end ClientAssertion
