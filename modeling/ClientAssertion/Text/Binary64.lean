/-
**The text of a binary floating point number.**

A number is written with the fewest significant digits that no other number of the format reads
back from, of those with the digits nearest to its value, always positionally and without a point
where it is whole.

* `shortest` searches the grids with 1, 2, … 17 digits for a point that rounds to the number;
* `text` lays the digits out;
* `roundedNat` is the nearest natural number of at most 64 bits, a half going away from zero.
-/

import ClientAssertion.Text.Numeral

namespace ClientAssertion.Binary64

/-! ### The value -/

/-- A positive finite number `mantissa * 2 ^ exponent`. -/
structure Magnitude where
  mantissa : Nat
  exponent : Int

/-- The fields of a number's 64 bits: the biased exponent and the fraction. -/
def fieldsOf (number : Float) : Nat × Nat :=
  let bits := number.toBits.toNat
  (bits / (1 <<< 52) % (1 <<< 11), bits % (1 <<< 52))

/-- A number has its sign bit set. -/
def isNegative (number : Float) : Bool := 1 <<< 63 ≤ number.toBits.toNat

/-- The absolute value of a finite number. -/
def magnitude (number : Float) : Magnitude :=
  let (biased, fraction) := fieldsOf number
  if biased = 0 then ⟨fraction, -1074⟩ else ⟨(1 <<< 52) + fraction, (biased : Int) - 1075⟩

namespace Magnitude

/-- The value, and the ends of the interval that rounds to it, as multiples of a quarter of
`2 ^ exponent`.  Below a power of two the neighbour is half as far away. -/
def interval (value : Magnitude) : Nat × Nat × Nat :=
  let below := if value.mantissa = 1 <<< 52 ∧ value.exponent ≠ -1074 then 1 else 2
  (4 * value.mantissa - below, 4 * value.mantissa, 4 * value.mantissa + 2)

/-- A ratio of natural numbers that a number of quarters stands for. -/
def ratio (value : Magnitude) (quarters : Nat) : Nat × Nat :=
  (quarters <<< value.exponent.toNat, 4 <<< (-value.exponent).toNat)

/-- The comparison of `digits * 10 ^ place` with a number of quarters. -/
def compareDecimal (value : Magnitude) (digits : Nat) (place : Int) (quarters : Nat) : Ordering :=
  let (numerator, denominator) := value.ratio quarters
  compare (digits * Nat.pow 10 place.toNat * denominator) (numerator * Nat.pow 10 (-place).toNat)

/-- A decimal rounds to the value: it lies inside the interval, or at an end if the mantissa is
even. -/
def roundsTo (value : Magnitude) (digits : Nat) (place : Int) : Bool :=
  let (low, _, high) := value.interval
  let ends := value.mantissa % 2 = 0
  let above := value.compareDecimal digits place low
  let below := value.compareDecimal digits place high
  (above == .gt || (ends && above == .eq)) && (below == .lt || (ends && below == .eq))

/-- The digits of the value on the grid of a decimal place, rounded down. -/
def gridFloor (value : Magnitude) (place : Int) : Nat :=
  let (numerator, denominator) := value.ratio value.interval.2.1
  numerator * Nat.pow 10 (-place).toNat / (denominator * Nat.pow 10 place.toNat)

/-- Of the two grid points around the value the nearer one that rounds to it. -/
def onGrid? (value : Magnitude) (place : Int) : Option Nat :=
  let low := value.gridFloor place
  let (numerator, denominator) := value.ratio value.interval.2.1
  let lowIsNearer : Bool :=
    2 * numerator * Nat.pow 10 (-place).toNat < (2 * low + 1) * denominator * Nat.pow 10 place.toNat
  let nearer := if lowIsNearer then low else low + 1
  let farther := if lowIsNearer then low + 1 else low
  if value.roundsTo nearer place then some nearer
  else if value.roundsTo farther place then some farther
  else none

/-- The place of the leading digit, counted from the point: found from above. -/
def leadingPlace (value : Magnitude) : (fuel : Nat) → Int → Int
  | 0, place => place
  | fuel + 1, place => if value.gridFloor place = 0 then value.leadingPlace fuel (place - 1) else place

/-- The shortest digits from a grid on, with their place. -/
def searchGrids (value : Magnitude) : (fuel : Nat) → Int → Nat × Int
  | 0, place => (value.gridFloor place, place)
  | fuel + 1, place =>
    match value.onGrid? place with
    | some digits => (digits, place)
    | none => value.searchGrids fuel (place - 1)

/-- The shortest digits that denote the value, with the place of the last one. -/
def shortest (value : Magnitude) : Nat × Int :=
  value.searchGrids 17 (value.leadingPlace 640 309)

end Magnitude

/-! ### The text -/

/-- Digits laid out positionally. -/
def positional (digits : Nat) (place : Int) : String :=
  if 0 ≤ place then String.ofList (Numeral.digits (digits * Nat.pow 10 place.toNat))
  else
    let width := (-place).toNat
    let fraction := Numeral.fraction width (digits % Nat.pow 10 width)
    String.ofList (Numeral.digits (digits / Nat.pow 10 width) ++
      (if fraction.isEmpty then [] else '.' :: fraction))

/-- The text of a number. -/
def text (number : Float) : String :=
  let sign := if isNegative number then "-" else ""
  let (biased, fraction) := fieldsOf number
  if biased = 2047 then if fraction = 0 then sign ++ "inf" else "NaN"
  else if biased = 0 ∧ fraction = 0 then sign ++ "0"
  else
    let (digits, place) := (magnitude number).shortest
    sign ++ positional digits place

/-! ### Rounding -/

/-- The nearest natural number of at most 64 bits; no number at all counts as zero. -/
def roundedNat (number : Float) : Nat :=
  let (biased, fraction) := fieldsOf number
  if biased = 2047 then if fraction = 0 ∧ ¬isNegative number then (1 <<< 64) - 1 else 0
  else if isNegative number then 0
  else
    let value := magnitude number
    let (numerator, denominator) := value.ratio (4 * value.mantissa)
    min ((2 * numerator + denominator) / (2 * denominator)) ((1 <<< 64) - 1)

/-- A number differs from zero; no number at all does. -/
def isNonzero (number : Float) : Bool := number != 0

end ClientAssertion.Binary64
