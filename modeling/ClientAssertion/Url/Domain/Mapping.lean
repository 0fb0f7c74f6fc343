/-
**Characters of domain names (UTS 46).**

A domain name is brought into a form in which names that look alike are the same: capital letters,
wide and other variant forms of letters and digits become plain ones, and characters that only
guide the layout vanish.

* `plainForm` are the characters that stand for one, `isRefused` those that no name may hold;
* `isPlain`: a character that stands for itself.
-/

import ClientAssertion.Url.Domain.Mapping.Table

namespace ClientAssertion.Domain

/-- Characters that stand for others. -/
structure Image where
  first : Nat
  last : Nat
  /-- Every how many code points of the range the rule holds. -/
  step : Nat
  /-- What the first one stands for. -/
  target : List Nat
deriving DecidableEq, Repr

/-- The range and the step that the left side of a word denotes. -/
def Image.domain? (text : List Char) : Option (Nat × Nat × Nat) :=
  match splitAt '+' text with
  | [first, last] => return (← digitsValue? 16 first, ← digitsValue? 16 last, 2)
  | _ => (CodePoints.range? text).map fun (first, last) => (first, last, 1)

/-- The characters that the two sides of a word denote. -/
def Image.ofEntry? (entry : List Char × List Char) : Option Image := do
  let (first, last, step) ← Image.domain? entry.1
  let target ← CodePoints.codes? entry.2
  return { first, last, step, target }

/-- A character stands for others by a rule. -/
def Image.holds (image : Image) (char : Char) : Bool :=
  image.first ≤ char.toNat && char.toNat ≤ image.last && (char.toNat - image.first) % image.step == 0

/-- What a character stands for by a rule. -/
def Image.apply (image : Image) (char : Char) : List Char :=
  image.target.map fun code => Char.ofNat (code + (char.toNat - image.first))

/-- The characters that stand for others. -/
def imageTable : List Image := (CodePoints.entries images).filterMap Image.ofEntry?

/-- An ASCII character in lower case. -/
def lower (char : Char) : Char :=
  if 65 ≤ char.toNat ∧ char.toNat ≤ 90 then Char.ofNat (char.toNat + 32) else char

/-- A character that no domain name may hold. -/
def isRefused (char : Char) : Bool := 0x80 ≤ char.toNat && refused.contains char

/-- The characters that a character stands for. -/
def plainForm (char : Char) : List Char :=
  if char.toNat < 0x80 then [lower char]
  else if ignored.contains char then []
  else
    match imageTable.find? (·.holds char) with
    | some image => image.apply char
    | none => [char]

/-- A character that stands for itself. -/
def isPlain (char : Char) : Bool := !isRefused char && plainForm char = [char]

end ClientAssertion.Domain
