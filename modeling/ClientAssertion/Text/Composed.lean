/-
**Texts in composed form (UAX 15, form C).**

The same letter can be written as one character or as a letter and marks behind it.  A text in
composed form has the marks in a fixed order and joined to their letter where there is one character
for both.  Syllables of the Korean script are composed by arithmetic, all others by a table.

* `Composed.classOf`: marks of different classes may change places;
* `Composed.ordered` puts the marks in order;
* `composed` brings a text into composed form.
-/

import ClientAssertion.Text.CodePoints
import ClientAssertion.Text.Composed.Table

namespace ClientAssertion

namespace Composed

/-! ### Tables -/

/-- A composed character and the two that it is composed of. -/
structure Composition where
  whole : Char
  first : Char
  second : Char
deriving DecidableEq, Repr

/-- The composition that the two sides of a word denote. -/
def Composition.ofEntry? (entry : List Char × List Char) : Option Composition := do
  let whole ← digitsValue? 16 entry.1
  match ← CodePoints.codes? entry.2 with
  | [first, second] => some ⟨Char.ofNat whole, Char.ofNat first, Char.ofNat second⟩
  | _ => none

/-- The compositions that are not syllables of the Korean script. -/
def table : List Composition := (CodePoints.entries compositions).filterMap Composition.ofEntry?

/-- Classes of marks, with the range of code points that each holds for. -/
def classTable : List ((Nat × Nat) × Nat) :=
  (CodePoints.entries classes).filterMap fun entry =>
    return (← CodePoints.range? entry.1, ← digitsValue? 10 entry.2)

/-- The class of a character: zero where it may not change places with its neighbours. -/
def classOf (char : Char) : Nat :=
  if char.toNat < 0x300 then 0
  else
    (classTable.find? fun entry =>
      entry.1.1 ≤ char.toNat && char.toNat ≤ entry.1.2).elim 0 Prod.snd

/-! ### Syllables

The syllables stand in the order of their leading consonants, vowels and trailing consonants, of
which the last may be missing. -/

/-- How many trailing consonants there are, with none as one of them. -/
def trailingCount : Nat := 28

/-- How many syllables begin with one consonant. -/
def vowelBlock : Nat := 21 * trailingCount

/-- A character is a syllable; its number among them. -/
def syllable? (char : Char) : Option Nat :=
  if 0xac00 ≤ char.toNat ∧ char.toNat < 0xac00 + 19 * vowelBlock then some (char.toNat - 0xac00)
  else none

/-- A syllable as a shorter one and the letter that it ends with. -/
def splitSyllable (number : Nat) : Char × Char :=
  if number % trailingCount = 0 then
    (Char.ofNat (0x1100 + number / vowelBlock),
      Char.ofNat (0x1161 + number % vowelBlock / trailingCount))
  else
    (Char.ofNat (0xac00 + number / trailingCount * trailingCount),
      Char.ofNat (0x11a7 + number % trailingCount))

/-- The syllable of a consonant and a vowel, or of a syllable and its last consonant. -/
def joinSyllable? (first second : Char) : Option Char :=
  let lead := first.toNat
  let next := second.toNat
  if 0x1100 ≤ lead ∧ lead < 0x1113 ∧ 0x1161 ≤ next ∧ next < 0x1176 then
    some (Char.ofNat (0xac00 + (lead - 0x1100) * vowelBlock + (next - 0x1161) * trailingCount))
  else if 0x11a7 < next ∧ next < 0x11c3 then
    match syllable? first with
    | some number =>
      if number % trailingCount = 0 then some (Char.ofNat (lead + (next - 0x11a7))) else none
    | none => none
  else none

/-! ### Parts and wholes -/

/-- The two characters that a character is composed of. -/
def parts? (char : Char) : Option (Char × Char) :=
  if char.toNat < 0xc0 then none
  else
    match syllable? char with
    | some number => some (splitSyllable number)
    | none => (table.find? (·.whole == char)).map fun entry => (entry.first, entry.second)

/-- The character that is composed of two. -/
def whole? (first second : Char) : Option Char :=
  match joinSyllable? first second with
  | some whole => some whole
  | none =>
    (table.find? fun entry => entry.second == second && entry.first == first).map Composition.whole

/-- The characters that a character is composed of, taken apart as often as the depth says. -/
def decomposed : (depth : Nat) → Char → List Char
  | 0, char => [char]
  | depth + 1, char =>
    match parts? char with
    | some (first, second) => decomposed depth first ++ [second]
    | none => [char]

/-- No character has to be taken apart more often. -/
def maxDepth : Nat := 4

/-! ### Order -/

/-- A mark in front of ordered characters moves behind those of lower classes. -/
def insert (char : Char) : List Char → List Char
  | [] => [char]
  | next :: rest =>
    if classOf next ≠ 0 ∧ classOf next < classOf char then next :: insert char rest
    else char :: next :: rest

/-- A text with its marks in order. -/
def ordered (chars : List Char) : List Char := chars.foldr insert []

/-! ### Composition -/

/-- No mark behind a letter keeps a character from being joined to it; the last mark comes
first. -/
def isNext (marks : List Char) (char : Char) : Bool :=
  match marks with
  | [] => true
  | mark :: _ => classOf mark < classOf char

/-- A letter and the marks behind it, the last one first, before more characters. -/
def joined (first : Char) (marks : List Char) : List Char → List Char
  | [] => first :: marks.reverse
  | char :: chars =>
    match if isNext marks char then whole? first char else none with
    | some whole => joined whole marks chars
    | none =>
      if classOf char = 0 then first :: marks.reverse ++ joined char [] chars
      else joined first (char :: marks) chars

end Composed

/-- A text in composed form. -/
def composed (chars : List Char) : List Char :=
  match Composed.ordered (chars.flatMap (Composed.decomposed Composed.maxDepth)) with
  | [] => []
  | char :: chars => Composed.joined char [] chars

end ClientAssertion
