/-
**Names that run from right to left (RFC 5893).**

A name with characters of scripts that run from right to left must be read the same way wherever it
stands, so the characters of each of its labels may not run in different directions.

* `direction` tells how a character runs;
* `runsWell` is the rule for a label; it concerns the names for which `holdsRightToLeft` is true of
  one label.
-/

import ClientAssertion.Url.Domain.Direction.Table

namespace ClientAssertion.Domain

/-- How a character runs. -/
inductive Direction where
  | left
  | right
  | arabic
  | arabicDigit
  | digit
  | sign
  | unit
  | separator
  | neutral
  | control
  /-- With the character before it. -/
  | mark
  | other
deriving DecidableEq, Repr

/-- The characters that run in each direction but from left to right. -/
def directions : List (Direction × CodePoints) :=
  [(.digit, digits), (.neutral, neutrals), (.mark, extenders), (.right, rightToLeft),
    (.arabic, arabicLetters), (.arabicDigit, arabicDigits), (.sign, signs), (.unit, units),
    (.separator, separators), (.control, controls), (.other, others)]

/-- How a character runs: from left to right where no set says otherwise. -/
def direction (char : Char) : Direction :=
  ((directions.find? fun entry => entry.2.contains char).map Prod.fst).getD .left

/-! ### Labels -/

/-- A label holds a character that runs from right to left. -/
def holdsRightToLeft (label : List Char) : Bool :=
  label.any fun char => direction char ∈ [.right, .arabic, .arabicDigit]

/-- What may stand in a label of either direction. -/
def mayStandInside (direction : Direction) : Bool :=
  direction ∈ [.digit, .sign, .separator, .unit, .neutral, .control, .mark]

/-- What follows the first character of a label, without the marks at its end. -/
def withoutLastMarks (directions : List Direction) : List Direction :=
  (directions.reverse.dropWhile (· == .mark)).reverse

/-- The rest of a label that begins with a letter from left to right. -/
def endsFromLeft (directions : List Direction) : Bool :=
  let directions := withoutLastMarks directions
  directions.all (fun direction => direction == .left || mayStandInside direction) &&
    directions.getLast?.all fun last => last ∈ [.left, .digit]

/-- The rest of a label that begins with a letter from right to left.  It holds digits of one kind
only. -/
def endsFromRight (directions : List Direction) : Bool :=
  let directions := withoutLastMarks directions
  directions.all (fun direction =>
      direction ∈ [.right, .arabic, .arabicDigit] || mayStandInside direction) &&
    (directions.getLast?.all fun last => last ∈ [.right, .arabic, .digit, .arabicDigit]) &&
    !(directions.contains .digit && directions.contains .arabicDigit)

/-- The characters of a label run together. -/
def runsWell (label : List Char) : Bool :=
  match label.map direction with
  | [] => true
  | .left :: directions => endsFromLeft directions
  | .right :: directions => endsFromRight directions
  | .arabic :: directions => endsFromRight directions
  | _ => false

end ClientAssertion.Domain
