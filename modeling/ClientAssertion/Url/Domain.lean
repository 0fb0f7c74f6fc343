/-
**Domain names in URLs.**

The host of a web URL is percent-decoded, its characters are brought into their plain and composed
form, and each label between the dots is checked.  The characters that delimit the parts of a URL,
blanks and control characters may not remain in it.

* `Domain.ofOctets?` is the plain form of a domain name;
* `decoded?` reads a label that is written in ASCII for characters outside of it;
* `isLabel` are the rules for one label: it starts with no mark and its joiners stand well.
-/

import ClientAssertion.Text.Composed
import ClientAssertion.Text.Mark
import ClientAssertion.Url.Domain.Direction
import ClientAssertion.Url.Domain.Joining
import ClientAssertion.Url.Domain.Mapping
import ClientAssertion.Url.Domain.Punycode
import ClientAssertion.Url.Percent

namespace ClientAssertion.Domain

/-- An ASCII character that no domain name may hold. -/
def isForbidden (char : Char) : Bool :=
  char.toNat ≤ 0x20 || char.toNat = 0x7f || char ∈ "%#/:<>?@[\\]^|".toList

/-! ### Labels -/

/-- How many characters may denote the characters of a label. -/
def maxDenoting : Nat := 2000

/-- How many characters a label may hold that is not written in ASCII. -/
def maxLabel : Nat := 1000

/-- A label, decoded if it is written in ASCII for others.  What is written so holds characters
outside of ASCII, all of which are plain and composed. -/
def decoded? (label : List Char) : Option (List Char) :=
  match label with
  | 'x' :: 'n' :: '-' :: '-' :: chars =>
    if chars.getLast? = some '-' ∨ maxDenoting < chars.length then none
    else do
      let label ← Punycode.decode? chars
      if label.all isPlain ∧ (label.any fun char => 0x80 ≤ char.toNat) ∧ composed label = label then
        some label
      else none
  | label =>
    if (label.any fun char => 0x80 ≤ char.toNat) ∧ maxLabel < label.length then none else some label

/-- A label may stand in a domain name. -/
def isLabel (label : List Char) : Bool := !(label.head?.any isMark) && joinsWell [] label

/-! ### Names -/

/-- The plain form of a domain name. -/
def ofOctets? (octets : Bytes) : Option (List Char) := do
  let chars := (← Bytes.text? (Percent.decode octets)).toList
  let plain := composed (chars.flatMap plainForm)
  if chars.any isRefused ∨ plain.any isForbidden then none
  else
    let labels ← (splitAt '.' plain).mapM decoded?
    if labels.all isLabel ∧ (¬labels.any holdsRightToLeft ∨ labels.all runsWell) then some plain
    else none

end ClientAssertion.Domain
