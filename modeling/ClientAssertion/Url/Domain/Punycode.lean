/-
**Characters as numbers between them (RFC 3492).**

A label with characters outside of ASCII is written as its ASCII characters and a series of numbers
in base 36, each of which says how far to go to the next character and its place.

* `decode?` reads the label that such a text denotes.
-/

import ClientAssertion.Text.Numeral

namespace ClientAssertion.Punycode

/-- The state of the decoder. -/
structure Decoder where
  output : List Nat
  /-- The code point to insert next. -/
  code : Nat
  /-- The place where to insert it, beyond the output while the number is being read. -/
  place : Nat
  bias : Nat
  /-- The place before the number, and whether there has been a number. -/
  before : Nat
  isFirst : Bool
  weight : Nat
  /-- How many digits of the number have been read, times 36, plus 36. -/
  position : Nat

/-- The value of a digit. -/
def digit? (char : Char) : Option Nat :=
  if 'a' ≤ char ∧ char ≤ 'z' then some (char.toNat - 97)
  else if 'A' ≤ char ∧ char ≤ 'Z' then some (char.toNat - 65)
  else if char.isDigit then some (char.toNat - 48 + 26)
  else none

/-- The value above which a digit is not the last one of its number. -/
def threshold (position bias : Nat) : Nat :=
  if position ≤ bias then 1 else if bias + 26 ≤ position then 26 else position - bias

/-- The bias that a scaled distance leads to. -/
def scaledBias (distance : Nat) : Nat :=
  if _ : 455 < distance then 36 + scaledBias (distance / 35) else 36 * distance / (distance + 38)
termination_by distance
decreasing_by omega

/-- The bias after a number. -/
def adapted (distance count : Nat) (isFirst : Bool) : Nat :=
  let scaled := if isFirst then distance / 700 else distance / 2
  scaledBias (scaled + scaled / count)

/-- The state after one more digit. -/
def Decoder.step (decoder : Decoder) (value : Nat) : Decoder :=
  let place := decoder.place + value * decoder.weight
  let threshold := threshold decoder.position decoder.bias
  if threshold ≤ value then
    { decoder with place, weight := decoder.weight * (36 - threshold), position := decoder.position + 36 }
  else
    let count := decoder.output.length + 1
    let code := decoder.code + place / count
    { output := decoder.output.insertIdx (place % count) code
      code
      place := place % count + 1
      bias := adapted (place - decoder.before) count decoder.isFirst
      before := place % count + 1
      isFirst := false
      weight := 1
      position := 36 }

/-- A character's code, if it is one. -/
def char? (code : Nat) : Option Char := if code.isValidChar then some (Char.ofNat code) else none

/-- The characters before the last hyphen and those behind it. -/
def split (chars : List Char) : List Char × List Char :=
  match chars.reverse.dropWhile (· != '-') with
  | [] => ([], chars)
  | _ :: basic => (basic.reverse, (chars.reverse.takeWhile (· != '-')).reverse)

/-- The label that ASCII characters denote. -/
def decode? (chars : List Char) : Option (List Char) := do
  let (basic, extension) := split chars
  let digits ← extension.mapM digit?
  let start : Decoder := ⟨basic.map Char.toNat, 128, 0, 72, 0, true, 1, 36⟩
  let decoder := digits.foldl Decoder.step start
  if decoder.position ≠ 36 then none else decoder.output.mapM char?

end ClientAssertion.Punycode
