/-
**The tokens of a JSON text (RFC 8259).**

The text is read as octets.  Blanks are the space, the tab, the line feed and the carriage return;
a control character may not stand in a string; numbers have no leading zeros.

* `scan?` splits a text into tokens;
* a string literal is read as `Piece`s, octets and UTF-16 units, and `octets?` pairs the
  surrogates among the units.
-/

import ClientAssertion.Bytes
import ClientAssertion.Json.Basic

namespace ClientAssertion.Json

/-- A token of a JSON text. -/
inductive Token where
  | openObject
  | closeObject
  | openArray
  | closeArray
  | colon
  | comma
  /-- A value without parts: a literal name, a number or a string. -/
  | scalar (value : Json)

/-! ### Strings -/

/-- A part of a string literal: an octet as it stands, or an escaped UTF-16 unit. -/
inductive Piece where
  | octet (value : UInt8)
  | unit (value : Nat)
deriving DecidableEq, Repr

/-- The value of a hexadecimal digit. -/
def hexValue? (octet : UInt8) : Option Nat :=
  let code := octet.toNat
  if 48 ≤ code ∧ code ≤ 57 then some (code - 48)
  else if 97 ≤ code ∧ code ≤ 102 then some (code - 87)
  else if 65 ≤ code ∧ code ≤ 70 then some (code - 55)
  else none

/-- The value of four hexadecimal digits. -/
def hexUnit? (first second third fourth : UInt8) : Option Nat := do
  return (← hexValue? first) * 4096 + (← hexValue? second) * 256 + (← hexValue? third) * 16 +
    (← hexValue? fourth)

/-- The octet that a single letter escape stands for. -/
def escaped? (octet : UInt8) : Option UInt8 :=
  match octet.toNat with
  | 0x22 => some 0x22
  | 0x5c => some 0x5c
  | 0x2f => some 0x2f
  | 0x62 => some 0x08
  | 0x66 => some 0x0c
  | 0x6e => some 0x0a
  | 0x72 => some 0x0d
  | 0x74 => some 0x09
  | _ => none

/-- The pieces of a literal up to its closing quote, and what follows it. -/
def literal? : Bytes → Option (List Piece × Bytes)
  | [] => none
  | 0x22 :: rest => some ([], rest)
  | 0x5c :: 0x75 :: first :: second :: third :: fourth :: rest => do
    let unit ← hexUnit? first second third fourth
    let (pieces, rest) ← literal? rest
    return (.unit unit :: pieces, rest)
  | 0x5c :: letter :: rest => do
    let octet ← escaped? letter
    let (pieces, rest) ← literal? rest
    return (.octet octet :: pieces, rest)
  | octet :: rest => do
    if octet < 0x20 then none
    else
      let (pieces, rest) ← literal? rest
      return (.octet octet :: pieces, rest)

/-- The octets that the pieces stand for.  A high surrogate takes the low one that must follow it
as an escape; a surrogate alone stands for nothing. -/
def octets? : List Piece → Option Bytes
  | [] => some []
  | .octet value :: pieces => (octets? pieces).map (value :: ·)
  | .unit high :: .unit low :: pieces =>
    if 0xd800 ≤ high ∧ high < 0xdc00 then
      if 0xdc00 ≤ low ∧ low < 0xe000 then
        (octets? pieces).map
          (Bytes.ofText (Char.ofNat (0x10000 + (high - 0xd800) * 0x400 + (low - 0xdc00))).toString ++ ·)
      else none
    else if 0xdc00 ≤ high ∧ high < 0xe000 then none
    else (octets? (.unit low :: pieces)).map (Bytes.ofText (Char.ofNat high).toString ++ ·)
  | .unit value :: pieces =>
    if 0xd800 ≤ value ∧ value < 0xe000 then none
    else (octets? pieces).map (Bytes.ofText (Char.ofNat value).toString ++ ·)

/-- The text that a literal denotes. -/
def literalText? (pieces : List Piece) : Option String := octets? pieces >>= Bytes.text?

/-! ### Numbers -/

/-- An octet is a decimal digit. -/
def isDigit (octet : UInt8) : Bool := 0x30 ≤ octet && octet ≤ 0x39

/-- The leading digits, of which there must be one. -/
def digits? (octets : Bytes) : Option (Bytes × Bytes) :=
  let digits := octets.takeWhile isDigit
  if digits = [] then none else some (digits, octets.dropWhile isDigit)

/-- The integral part: one zero, or digits that do not start with one. -/
def integral? (octets : Bytes) : Option (Bytes × Bytes) := do
  let (digits, rest) ← digits? octets
  if digits.head? = some 0x30 ∧ digits.length ≠ 1 then none else some (digits, rest)

/-- The fraction, if there is a point. -/
def fraction? : Bytes → Option (Bytes × Bytes)
  | 0x2e :: octets => do
    let (digits, rest) ← digits? octets
    return (0x2e :: digits, rest)
  | octets => some ([], octets)

/-- The sign of an exponent, if there is one. -/
def exponentSign : Bytes → Bytes × Bytes
  | 0x2b :: octets => ([0x2b], octets)
  | 0x2d :: octets => ([0x2d], octets)
  | octets => ([], octets)

/-- The exponent, if there is one. -/
def exponent? : Bytes → Option (Bytes × Bytes)
  | octet :: octets =>
    if octet = 0x65 ∨ octet = 0x45 then do
      let (sign, rest) := exponentSign octets
      let (digits, rest) ← digits? rest
      return (octet :: sign ++ digits, rest)
    else some ([], octet :: octets)
  | [] => some ([], [])

/-- A number without its sign. -/
def magnitude? (octets : Bytes) : Option (Bytes × Bytes) := do
  let (integral, rest) ← integral? octets
  let (fraction, rest) ← fraction? rest
  let (exponent, rest) ← exponent? rest
  return (integral ++ fraction ++ exponent, rest)

/-- A number, as it is written, and what follows it. -/
def number? : Bytes → Option (Bytes × Bytes)
  | 0x2d :: octets => do
    let (written, rest) ← magnitude? octets
    return (0x2d :: written, rest)
  | octets => magnitude? octets

/-- The characters of ASCII octets. -/
def asciiText (octets : Bytes) : String := String.ofList (octets.map fun octet => Char.ofNat octet.toNat)

/-! ### The scanner -/

/-- An octet is a blank. -/
def isBlank (octet : UInt8) : Bool :=
  octet == 0x20 || octet == 0x09 || octet == 0x0a || octet == 0x0d

/-- What follows a word that the octets must start with. -/
def after? : (word octets : Bytes) → Option Bytes
  | [], octets => some octets
  | expected :: word, octet :: octets => if expected = octet then after? word octets else none
  | _ :: _, [] => none

/-- The token at the start of the octets, and what follows it. -/
def token? : Bytes → Option (Token × Bytes)
  | 0x7b :: rest => some (.openObject, rest)
  | 0x7d :: rest => some (.closeObject, rest)
  | 0x5b :: rest => some (.openArray, rest)
  | 0x5d :: rest => some (.closeArray, rest)
  | 0x3a :: rest => some (.colon, rest)
  | 0x2c :: rest => some (.comma, rest)
  | 0x22 :: rest =>
    (literal? rest).map fun (pieces, rest) => (.scalar (.string (literalText? pieces)), rest)
  | 0x6e :: rest => (after? [0x75, 0x6c, 0x6c] rest).map fun rest => (.scalar .null, rest)
  | 0x74 :: rest => (after? [0x72, 0x75, 0x65] rest).map fun rest => (.scalar (.bool true), rest)
  | 0x66 :: rest =>
    (after? [0x61, 0x6c, 0x73, 0x65] rest).map fun rest => (.scalar (.bool false), rest)
  | octets =>
    (number? octets).map fun (written, rest) => (.scalar (.number (asciiText written)), rest)

/-- The tokens of the octets, of which no more than `fuel` are read. -/
def scanWithin? : (fuel : Nat) → Bytes → Option (List Token)
  | 0, octets => if octets.all isBlank then some [] else none
  | fuel + 1, octets =>
    match octets.dropWhile isBlank with
    | [] => some []
    | octet :: rest => do
      let (token, rest) ← token? (octet :: rest)
      return token :: (← scanWithin? fuel rest)

/-- The tokens of a JSON text; there are no more of them than octets. -/
def scan? (octets : Bytes) : Option (List Token) := scanWithin? octets.length octets

end ClientAssertion.Json
