/-
**JSON5 texts.**

* `numberData?` is what a number denotes: integers have at most 64 bits with their sign, or 32 in
  hexadecimal, and a floating point number has to be finite unless it is written as a name;
* `Json5.ofText?` is the value that a text denotes; of members with the same name the last one
  counts.
-/

import ClientAssertion.Data
import ClientAssertion.Json5.Token
import ClientAssertion.Table
import ClientAssertion.Text.Decimal

namespace ClientAssertion.Json5

/-! ### Numbers -/

/-- The integer that hexadecimal digits denote. -/
def hexInteger? (digits : List Char) : Option Int := do
  let value ← digitsValue? 16 digits
  if value < 1 <<< 32 then some value else none

/-- A number, if it is finite. -/
def finite? (value : Float) : Option Float := if value.isFinite then some value else none

/-- What a number denotes. -/
def numberData? (written : String) : Option Data :=
  match written.toList with
  | '0' :: 'x' :: digits => (hexInteger? digits).map .integer
  | '0' :: 'X' :: digits => (hexInteger? digits).map .integer
  | chars =>
    if written ∈ ["Infinity", "-Infinity", "NaN", "-NaN"] then (Decimal.floatOfText? written).map .float
    else if chars.any (· ∈ ['.', 'e', 'E']) then (Decimal.floatOfText? written >>= finite?).map .float
    else (signed64? 10 chars).map .integer

/-! ### Values -/

/-- The value of a name. -/
def named? (written : String) : Option Data :=
  match written with
  | "null" => some .nothing
  | "true" => some (.bool true)
  | "false" => some (.bool false)
  | written => if written ∈ ["Infinity", "NaN"] then numberData? written else none

/-- The key that a word denotes. -/
def key? : Token → Option String
  | .text value => some value
  | .name _ value => some value
  | _ => none

mutual

/-- The value at the start of words, in which no more than `fuel` values are nested or follow each
other, and the words behind it. -/
def valueWithin? : (fuel : Nat) → List Token → Option (Data × List Token)
  | 0, _ => none
  | fuel + 1, tokens =>
    match tokens with
    | .text value :: rest => some (.text value, rest)
    | .number written :: rest => (numberData? written).map fun value => (value, rest)
    | .name written _ :: rest => (named? written).map fun value => (value, rest)
    | .mark '[' :: rest => (itemsWithin? fuel rest).map fun (items, rest) => (.list items, rest)
    | .mark '\x7b' :: rest => (membersWithin? fuel [] rest).map fun (entries, rest) => (.table entries, rest)
    | _ => none

/-- The items of a list up to its closing bracket, and the words behind that. -/
def itemsWithin? : (fuel : Nat) → List Token → Option (List Data × List Token)
  | 0, _ => none
  | fuel + 1, tokens =>
    match tokens with
    | .mark ']' :: rest => some ([], rest)
    | tokens => do
      let (item, rest) ← valueWithin? fuel tokens
      match rest with
      | .mark ']' :: rest => return ([item], rest)
      | .mark ',' :: rest =>
        let (items, rest) ← itemsWithin? fuel rest
        return (item :: items, rest)
      | _ => none

/-- The members of an object up to its closing brace, added to those before them, and the words
behind that. -/
def membersWithin? : (fuel : Nat) → (before : List (String × Data)) → List Token →
    Option (List (String × Data) × List Token)
  | 0, _, _ => none
  | fuel + 1, before, tokens =>
    match tokens with
    | .mark '\x7d' :: rest => some (before, rest)
    | key :: .mark ':' :: rest => do
      let name ← key? key
      let (value, rest) ← valueWithin? fuel rest
      let entries := Table.put name value before
      match rest with
      | .mark '\x7d' :: rest => return (entries, rest)
      | .mark ',' :: rest => membersWithin? fuel entries rest
      | _ => none
    | _ => none

end

/-- The value that a text denotes. -/
def ofText? (text : String) : Option Data := do
  let tokens ← tokens? text
  match ← valueWithin? (tokens.length + 1) tokens with
  | (value, []) => some value
  | _ => none

end ClientAssertion.Json5
