/-
**Sets of characters.**

A set of characters is a list of ranges of code points.  Large sets are written as tables: lines of
words, each of which is a code point in hexadecimal, or the first and the last one of a range with a
hyphen between them.

* `CodePoints.contains`: a character is in a set;
* `CodePoints.ofLines` is the set that a table denotes;
* `entries` are the words of a table in which each word has two sides.
-/

import ClientAssertion.Text.Parts
import ClientAssertion.Text.Radix

namespace ClientAssertion

/-- Ranges of code points, with their first and last one. -/
abbrev CodePoints := List (Nat × Nat)

namespace CodePoints

/-- A character is in a set. -/
def contains (set : CodePoints) (char : Char) : Bool :=
  set.any fun range => range.1 ≤ char.toNat && char.toNat ≤ range.2

/-- The range that a word denotes. -/
def range? (word : List Char) : Option (Nat × Nat) :=
  match splitAt '-' word with
  | [code] => (digitsValue? 16 code).map fun code => (code, code)
  | [first, last] => return (← digitsValue? 16 first, ← digitsValue? 16 last)
  | _ => none

/-- The words of a table. -/
def words (lines : List String) : List (List Char) :=
  lines.flatMap fun line => splitAt ' ' line.toList

/-- The set that a table denotes. -/
def ofLines (lines : List String) : CodePoints := (words lines).filterMap range?

/-- The code points of a text, with commas between them. -/
def codes? (text : List Char) : Option (List Nat) := (splitAt ',' text).mapM (digitsValue? 16)

/-- The two sides of each word of a table, which has an equals sign between them. -/
def entries (lines : List String) : List (List Char × List Char) :=
  (words lines).filterMap fun word =>
    match splitAt '=' word with
    | [left, right] => some (left, right)
    | _ => none

end CodePoints

end ClientAssertion
