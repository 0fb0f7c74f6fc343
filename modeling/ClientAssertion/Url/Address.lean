/-
**Addresses in URLs.**

* `Ipv4.address?` reads up to four numbers, decimal, octal behind `0` or hexadecimal behind `0x`,
  of which the last fills the octets that the others leave;
* `Ipv6.address?` reads up to eight groups of four hexadecimal digits, with one run of zeros
  shortened to `::` and the last two groups possibly written as an IPv4 address.
-/

import ClientAssertion.Text.Numeral
import ClientAssertion.Text.Parts
import ClientAssertion.Text.Radix

namespace ClientAssertion

namespace Ipv4

/-- A number of an address. -/
def number? : List Char → Option Nat
  | [] => none
  | '0' :: 'x' :: chars => digitsValue? 16 chars
  | '0' :: 'X' :: chars => digitsValue? 16 chars
  | '0' :: char :: chars => digitsValue? 8 (char :: chars)
  | chars => digitsValue? 10 chars

/-- The parts of a domain between its dots, without an empty last one. -/
def parts (domain : List Char) : List (List Char) :=
  let parts := splitAt '.' domain
  if parts.getLast? = some [] then parts.dropLast else parts

/-- The last part of a domain is a number, so that the domain can only be an address. -/
def endsInNumber (domain : List Char) : Bool :=
  match (parts domain).getLast? with
  | some part => (part ≠ [] && part.all Char.isDigit) || (number? part).isSome
  | none => false

/-- The address of numbers, most significant first. -/
def ofNumbers? (numbers : List Nat) : Option Nat :=
  let leading := numbers.dropLast
  let last := numbers.getLast?.getD 0
  if numbers.length ≤ 4 ∧ leading.all (· < 256) ∧ last < Nat.pow 256 (4 - leading.length) then
    some (leading.foldl (fun value number => value * 256 + number) 0 * Nat.pow 256 (4 - leading.length) + last)
  else none

/-- The address that a domain denotes. -/
def address? (domain : List Char) : Option Nat := (parts domain).mapM number? >>= ofNumbers?

end Ipv4

namespace Ipv6

/-- A decimal number below 256 without leading zeros. -/
def octet? (digits : List Char) : Option Nat := do
  let value ← Numeral.value? digits
  if value < 256 ∧ (digits.length = 1 ∨ digits.head? ≠ some '0') then some value else none

/-- The two groups that an IPv4 address with four parts makes. -/
def embedded? (chars : List Char) : Option (List Nat) := do
  match ← (splitAt '.' chars).mapM octet? with
  | [first, second, third, fourth] => some [first * 256 + second, third * 256 + fourth]
  | _ => none

/-- A group of one to four hexadecimal digits. -/
def group? (chars : List Char) : Option Nat :=
  if chars.length = 0 ∨ 4 < chars.length then none else digitsValue? 16 chars

/-- The groups between colons.  Only the last one may be an IPv4 address. -/
def groups? : List (List Char) → Option (List Nat)
  | [] => some []
  | [part] => if '.' ∈ part then embedded? part else (group? part).map ([·])
  | part :: parts => do return (← group? part) :: (← groups? parts)

/-- The groups of one side of the shortened run. -/
def side? (chars : List Char) : Option (List Nat) :=
  if chars = [] then some [] else groups? (splitAt ':' chars)

/-- The groups before the shortened run, which are no IPv4 address. -/
def leftSide? (chars : List Char) : Option (List Nat) :=
  if '.' ∈ chars then none else side? chars

/-- The text before and behind the first two adjacent colons. -/
def splitRun : List Char → Option (List Char × List Char)
  | ':' :: ':' :: chars => some ([], chars)
  | char :: chars => (splitRun chars).map fun (left, right) => (char :: left, right)
  | [] => none

/-- The eight groups that an address denotes.  A shortened run stands for one zero group at
least. -/
def address? (chars : List Char) : Option (List Nat) :=
  match splitRun chars with
  | none => do
    let groups ← groups? (splitAt ':' chars)
    if groups.length = 8 then some groups else none
  | some (left, right) => do
    let left ← leftSide? left
    let right ← side? right
    if left.length + right.length ≤ 7 then
      some (left ++ List.replicate (8 - left.length - right.length) 0 ++ right)
    else none

end Ipv6

end ClientAssertion
