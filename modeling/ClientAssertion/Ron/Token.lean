/-
**Words of RON texts.**

* `skip?` drops blanks and comments, of which those between marks may be nested;
* `identifier?`, `quoted?`, `character?` and `number?` read a word at the start of a text, with what
  follows it.
-/

import ClientAssertion.Bytes
import ClientAssertion.Data
import ClientAssertion.Text.Decimal
import ClientAssertion.Text.Letter
import ClientAssertion.Text.Mark
import ClientAssertion.Text.Radix

namespace ClientAssertion.Ron

/-! ### Blanks and comments -/

/-- A blank between words. -/
def isSpace (char : Char) : Bool :=
  char ∈ [' ', '\t', '\n', '\x0b', '\x0c', '\r'] ||
    char.toNat ∈ [0x85, 0x200e, 0x200f, 0x2028, 0x2029]

/-- What follows as many closing marks of comments as are open. -/
def afterComments? : (depth : Nat) → List Char → Option (List Char)
  | 0, chars => some chars
  | depth + 1, '*' :: '/' :: chars => afterComments? depth chars
  | depth + 1, '/' :: '*' :: chars => afterComments? (depth + 2) chars
  | depth + 1, _ :: chars => afterComments? (depth + 1) chars
  | _ + 1, [] => none

/-- A text without the blanks and comments at its start, of which no more than `fuel` are dropped. -/
def skipWithin? : (fuel : Nat) → List Char → Option (List Char)
  | 0, _ => none
  | fuel + 1, chars =>
    match chars.dropWhile isSpace with
    | '/' :: '/' :: chars => skipWithin? fuel (chars.dropWhile (· != '\n'))
    | '/' :: '*' :: chars => afterComments? 1 chars >>= skipWithin? fuel
    | '/' :: _ => none
    | chars => some chars

/-- A text without the blanks and comments at its start. -/
def skip? (chars : List Char) : Option (List Char) := skipWithin? (chars.length + 1) chars

/-! ### Identifiers -/

/-- A character that may begin an identifier. -/
def beginsIdentifier (char : Char) : Bool := isLetter char || char == '_'

/-- A character that may stand in an identifier. -/
def staysInIdentifier (char : Char) : Bool :=
  if char.toNat < 0x80 then char.isAlphanum || char == '_'
  else isLetter char || continuesWord char || isMark char

/-- A character that may stand in a raw identifier. -/
def staysInRaw (char : Char) : Bool := staysInIdentifier char || char ∈ ['.', '+', '-']

/-- A text, a raw text, octets or an octet begins. -/
def beginsQuoted (chars : List Char) : Bool :=
  ["r\"", "r#\"", "r##", "b\"", "b'", "br\"", "br#"].any fun start => start.toList.isPrefixOf chars

/-- The identifier at the start of a text, and what follows it.  The letters that begin what is quoted
are none. -/
def identifier? (chars : List Char) : Option (List Char × List Char) :=
  if beginsQuoted chars then none
  else
    match chars with
    | 'r' :: '#' :: chars =>
      if chars.head?.any staysInRaw then some (chars.takeWhile staysInRaw, chars.dropWhile staysInRaw)
      else none
    | char :: chars =>
      if beginsIdentifier char then
        some (char :: chars.takeWhile staysInIdentifier, chars.dropWhile staysInIdentifier)
      else none
    | [] => none

/-- The word at the start of a text, if it has a meaning of its own, and what follows it. -/
def keyword? (chars : List Char) : Option (String × List Char) := do
  let (name, rest) ← identifier? chars
  if name.isPrefixOf chars then some (String.ofList name, rest) else none

/-! ### Texts -/

/-- A code point as a character. -/
def char? (code : Nat) : Option Char := if code.isValidChar then some (Char.ofNat code) else none

/-- The character of up to six hexadecimal digits between braces, and what follows them. -/
def braced? (chars : List Char) : Option (Char × List Char) := do
  let digits := chars.takeWhile (· != '\x7d')
  if digits = [] ∨ 6 < digits.length ∨ digits.length = chars.length then none
  else return (← digitsValue? 16 digits >>= char?, chars.drop (digits.length + 1))

/-- The octet of two hexadecimal digits, and what follows them. -/
def octet? : List Char → Option (UInt8 × List Char)
  | high :: low :: chars => do return ((← digitsValue? 16 [high, low]).toUInt8, chars)
  | _ => none

/-- The character that octets spell together with up to `more` ones that follow, each written behind a
backslash, and what follows those. -/
def spelled? : (more : Nat) → (octets : Bytes) → List Char → Option (Char × List Char)
  | more, octets, chars =>
    match (Bytes.text? octets).map String.toList, more, chars with
    | some [char], _, chars => some (char, chars)
    | none, more + 1, '\\' :: 'x' :: chars => do
      let (octet, rest) ← octet? chars
      spelled? more (octets ++ [octet]) rest
    | _, _, _ => none

/-- The character that the characters behind a backslash denote, and what follows them.  Up to `more`
octets written in the same way may follow the first one of a character. -/
def escape? (more : Nat) : List Char → Option (Char × List Char)
  | 'x' :: chars => do
    let (octet, rest) ← octet? chars
    spelled? more [octet] rest
  | 'u' :: '\x7b' :: chars => braced? chars
  | char :: chars =>
    match char with
    | '\'' => some ('\'', chars)
    | '"' => some ('"', chars)
    | '\\' => some ('\\', chars)
    | 'n' => some ('\n', chars)
    | 'r' => some ('\r', chars)
    | 't' => some ('\t', chars)
    | '0' => some ('\x00', chars)
    | _ => none
  | [] => none

/-- The rest of a text up to its closing quote, of which no more than `fuel` characters are read, and
what follows it. -/
def quotedWithin? : (fuel : Nat) → List Char → Option (List Char × List Char)
  | 0, _ => none
  | _, [] => none
  | _ + 1, '"' :: chars => some ([], chars)
  | fuel + 1, '\\' :: chars => do
    let (char, rest) ← escape? 3 chars
    let (more, rest) ← quotedWithin? fuel rest
    return (char :: more, rest)
  | fuel + 1, char :: chars => do
    let (more, rest) ← quotedWithin? fuel chars
    return (char :: more, rest)

/-- A raw text up to the quote and hashes that close it, and what follows those. -/
def rawUntil? (close : List Char) : List Char → Option (List Char × List Char)
  | [] => none
  | char :: chars =>
    if close.isPrefixOf (char :: chars) then some ([], (char :: chars).drop close.length)
    else (rawUntil? close chars).map fun (text, rest) => (char :: text, rest)

/-- The text at the start of characters, and what follows it. -/
def quoted? : List Char → Option (List Char × List Char)
  | '"' :: chars => quotedWithin? (chars.length + 1) chars
  | 'r' :: chars =>
    let hashes := chars.takeWhile (· == '#')
    match chars.drop hashes.length with
    | '"' :: chars => rawUntil? ('"' :: hashes) chars
    | _ => none
  | _ => none

/-- The character between quotes at the start of a text, and what follows it. -/
def character? : List Char → Option (Char × List Char)
  | '\'' :: '\\' :: chars => do
    match ← escape? 0 chars with
    | (char, '\'' :: rest) => some (char, rest)
    | _ => none
  | '\'' :: char :: '\'' :: rest => some (char, rest)
  | _ => none

/-! ### Numbers -/

/-- A character of an integer, in any base. -/
def isIntegerChar (char : Char) : Bool := (hexDigitValue? char).isSome || char == '_'

/-- A character of a floating point number. -/
def isFloatChar (char : Char) : Bool := char.isDigit || char ∈ ['e', 'E', '.', '+', '-', '_']

/-- The base of an integer, and its digits with what follows. -/
def baseOf : List Char → Nat × List Char
  | '0' :: 'x' :: chars => (16, chars)
  | '0' :: 'b' :: chars => (2, chars)
  | '0' :: 'o' :: chars => (8, chars)
  | chars => (10, chars)

/-- The least number that an integer with a type's name behind it may denote, and the first one that
is too large. -/
def integerTypes : List (String × Int × Int) :=
  [("i8", -128, 128), ("i16", -32768, 32768), ("i32", -2147483648, 2147483648),
    ("i64", -9223372036854775808, 9223372036854775808), ("u8", 0, 256), ("u16", 0, 65536),
    ("u32", 0, 4294967296), ("u64", 0, 18446744073709551616)]

/-- The bounds of an integer, and what follows it and its type.  Without a type only a negative integer
has a sign. -/
def boundsOf (negative : Bool) (chars : List Char) : (Int × Int) × List Char :=
  let untyped := if negative then (-9223372036854775808, 1) else (0, 18446744073709551616)
  match keyword? chars with
  | some (name, rest) =>
    match integerTypes.lookup name with
    | some bounds => (bounds, rest)
    | none => (untyped, chars)
  | none => (untyped, chars)

/-- The integer at the start of a text, in front of which a sign stands, and what follows it. -/
def integer? (sign : Option Char) (chars : List Char) : Option (Int × List Char) := do
  let (base, chars) := baseOf chars
  let written := chars.takeWhile isIntegerChar
  if written = [] ∨ written.head? = some '_' then none
  else
    let magnitude ← digitsValue? base (written.filter (· != '_'))
    let value : Int := if sign = some '-' then -magnitude else magnitude
    let ((least, bound), rest) := boundsOf (sign = some '-') (chars.dropWhile isIntegerChar)
    if least ≤ value ∧ value < bound then some (value, rest) else none

/-- A number without the underscores in it, which may not stand at its start or behind its point. -/
def withoutUnderscores? (mayStand : Bool) : List Char → Option (List Char)
  | [] => some []
  | '_' :: chars => if mayStand then withoutUnderscores? mayStand chars else none
  | char :: chars =>
    let mayStand := if char = '.' then false else mayStand || (char != '+' && char != '-')
    (withoutUnderscores? mayStand chars).map (char :: ·)

/-- The numbers that are written as names, each with or without the name of a type. -/
def namedNumber? (name : String) : Option Float :=
  if name ∈ ["inf", "inff32", "inff64"] then some (1 / 0)
  else if name ∈ ["NaN", "NaNf32", "NaNf64"] then some (0 / 0)
  else none

/-- A number of the type whose name may follow it, and what follows that. -/
def typedFloat (value : Float) (chars : List Char) : Float × List Char :=
  match keyword? chars with
  | some ("f32", rest) => (value.toFloat32.toFloat, rest)
  | some ("f64", rest) => (value, rest)
  | _ => (value, chars)

/-- The floating point number without a sign at the start of a text, and what follows it. -/
def magnitude? (chars : List Char) : Option (Float × List Char) :=
  match keyword? chars with
  | some (name, rest) => (namedNumber? name).map fun value => (value, rest)
  | none => do
    let written ← withoutUnderscores? false (chars.takeWhile isFloatChar)
    let decimal ← Decimal.ofChars? written
    if (Decimal.splitSign written).1 = none then
      some (typedFloat decimal.toFloat (chars.dropWhile isFloatChar))
    else none

/-- The floating point number at the start of a text, in front of which a sign stands, and what
follows it. -/
def float? (sign : Option Char) (chars : List Char) : Option (Float × List Char) :=
  (magnitude? chars).map fun (value, rest) => (if sign = some '-' then -value else value, rest)

/-- The number at the start of a text, and what follows it: an integer if no character of a floating
point number follows its digits and it fits into its type. -/
def number? (chars : List Char) : Option (Data × List Char) :=
  let (sign, unsigned) := Decimal.splitSign chars
  let float := (float? sign unsigned).map fun (value, rest) => (Data.float value, rest)
  let isFloat :=
    (unsigned.takeWhile isIntegerChar).length < (unsigned.takeWhile isFloatChar).length
  if isFloat then float
  else ((integer? sign unsigned).map fun (value, rest) => (Data.integer value, rest)) <|> float

/-- The number of the octet that is quoted at the start of a text, and what follows it. -/
def octetNumber? : List Char → Option (Data × List Char)
  | 'b' :: '\'' :: '\\' :: 'x' :: chars => do
    match ← octet? chars with
    | (octet, '\'' :: rest) => some (.integer octet.toNat, rest)
    | _ => none
  | 'b' :: chars => do
    let (char, rest) ← character? chars
    if char.toNat < 0x80 then some (.integer char.toNat, rest) else none
  | _ => none

end ClientAssertion.Ron
