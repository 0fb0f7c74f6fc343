/-
**Words of JSON5 texts.**

A text is cut into marks, quoted texts, names and numbers; blanks and comments between them are
dropped.

* `escape?` reads what follows a backslash; a character beyond the first 65536 is written as two
  escapes of four digits;
* `number?` cuts a number off the start of a text;
* `tokens?` are the words of a text.
-/

import ClientAssertion.Text.Blank
import ClientAssertion.Text.CodePoints
import ClientAssertion.Text.Letter

namespace ClientAssertion.Json5

/-- A word of a text. -/
inductive Token where
  /-- A bracket, comma or colon. -/
  | mark (char : Char)
  | text (value : String)
  /-- A name as it is written, and the name that it denotes. -/
  | name (written value : String)
  | number (written : String)
deriving DecidableEq, Repr

/-! ### Characters -/

/-- The end of a line. -/
def isLineEnd (char : Char) : Bool :=
  char == '\n' || char == '\r' || char.toNat == 0x2028 || char.toNat == 0x2029

/-- A blank between words. -/
def isSpace (char : Char) : Bool :=
  (isBlank char && char.toNat != 0x85) || char.toNat == 0xfeff

/-- A character that may begin a name. -/
def beginsName (char : Char) : Bool := char == '$' || char == '_' || isLetter char

/-- A character that may stand in a name. -/
def staysInName (char : Char) : Bool := beginsName char || continuesWord char

/-! ### Escapes -/

/-- The value of some hexadecimal digits at the start of a text, and what follows them. -/
def hexDigits? (count : Nat) (chars : List Char) : Option (Nat × List Char) := do
  if chars.length < count then none
  else return (← digitsValue? 16 (chars.take count), chars.drop count)

/-- The character that two halves denote. -/
def joinHalves (high low : Nat) : Char :=
  Char.ofNat ((high - 0xd800) * 0x400 + (low - 0xdc00) + 0x10000)

/-- The character of four digits, behind which another four may have to follow, and what follows
it. -/
def unicode? (chars : List Char) : Option (Char × List Char) := do
  let (code, rest) ← hexDigits? 4 chars
  if 0xdc00 ≤ code ∧ code < 0xe000 then none
  else if 0xd800 ≤ code ∧ code < 0xdc00 then
    match rest with
    | '\\' :: 'u' :: rest =>
      let (low, rest) ← hexDigits? 4 rest
      if 0xdc00 ≤ low ∧ low < 0xe000 then some (joinHalves code low, rest) else none
    | _ => none
  else some (Char.ofNat code, rest)

/-- The characters that the characters behind a backslash denote, and what follows them. -/
def escape? : List Char → Option (List Char × List Char)
  | [] => none
  | '\r' :: '\n' :: chars => some ([], chars)
  | 'x' :: chars => (hexDigits? 2 chars).map fun (code, rest) => ([Char.ofNat code], rest)
  | 'u' :: chars => (unicode? chars).map fun (char, rest) => ([char], rest)
  | char :: chars =>
    if isLineEnd char then some ([], chars)
    else
      match char with
      | '0' => some (['\x00'], chars)
      | 'b' => some (['\x08'], chars)
      | 'f' => some (['\x0c'], chars)
      | 'n' => some (['\n'], chars)
      | 'r' => some (['\r'], chars)
      | 't' => some (['\t'], chars)
      | 'v' => some (['\x0b'], chars)
      | char => if char.isDigit then none else some ([char], chars)

/-- The rest of a text up to its closing quote, of which no more than `fuel` characters are read, and
what follows it. -/
def quotedWithin? (quote : Char) : (fuel : Nat) → List Char → Option (List Char × List Char)
  | 0, _ => none
  | _, [] => none
  | fuel + 1, '\\' :: chars => do
    let (text, rest) ← escape? chars
    let (more, rest) ← quotedWithin? quote fuel rest
    return (text ++ more, rest)
  | fuel + 1, char :: chars =>
    if char = quote then some ([], chars)
    else if isLineEnd char then none
    else do
      let (more, rest) ← quotedWithin? quote fuel chars
      return (char :: more, rest)

/-! ### Names -/

/-- The rest of a name, of which no more than `fuel` characters are read: as it is written, what it
denotes, and what follows it. -/
def nameWithin? : (fuel : Nat) → List Char → Option (List Char × List Char × List Char)
  | 0, chars => some ([], [], chars)
  | fuel + 1, '\\' :: 'u' :: chars => do
    let (char, rest) ← unicode? chars
    let (written, value, rest) ← nameWithin? fuel rest
    return ('\\' :: written, char :: value, rest)
  | fuel + 1, char :: chars =>
    if staysInName char then do
      let (written, value, rest) ← nameWithin? fuel chars
      return (char :: written, char :: value, rest)
    else some ([], [], char :: chars)
  | _, [] => some ([], [], [])

/-! ### Numbers -/

/-- The exponent at the start of a text, and what follows it; a letter without digits is none. -/
def exponent (chars : List Char) : List Char × List Char :=
  match chars with
  | letter :: rest =>
    let sign := match rest with
      | '+' :: _ => ['+']
      | '-' :: _ => ['-']
      | _ => []
    let digits := (rest.drop sign.length).takeWhile Char.isDigit
    if (letter = 'e' ∨ letter = 'E') ∧ digits ≠ [] then
      (letter :: sign ++ digits, (rest.drop sign.length).dropWhile Char.isDigit)
    else ([], chars)
  | [] => ([], [])

/-- The digits of a number before its point, where a zero stands alone. -/
def integral (chars : List Char) : List Char :=
  match chars with
  | '0' :: _ => ['0']
  | chars => chars.takeWhile Char.isDigit

/-- The decimal number at the start of a text, and what follows it. -/
def decimal? (chars : List Char) : Option (List Char × List Char) :=
  let whole := integral chars
  match chars.drop whole.length with
  | '.' :: rest =>
    let fraction := rest.takeWhile Char.isDigit
    if whole = [] ∧ fraction = [] then none
    else
      let (power, rest) := exponent (rest.dropWhile Char.isDigit)
      some (whole ++ '.' :: fraction ++ power, rest)
  | rest =>
    if whole = [] then none
    else
      let (power, rest) := exponent rest
      some (whole ++ power, rest)

/-- The number without a sign at the start of a text, and what follows it. -/
def magnitude? (chars : List Char) : Option (List Char × List Char) :=
  let named (name : String) : Option (List Char × List Char) :=
    if name.toList.isPrefixOf chars then some (name.toList, chars.drop name.length) else none
  let isHex (char : Char) : Bool := (hexDigitValue? char).isSome
  match chars with
  | '0' :: letter :: rest =>
    if (letter = 'x' ∨ letter = 'X') ∧ rest.takeWhile isHex ≠ [] then
      some ('0' :: letter :: rest.takeWhile isHex, rest.dropWhile isHex)
    else decimal? chars
  | chars => decimal? chars <|> named "Infinity" <|> named "NaN"

/-- The number at the start of a text, and what follows it. -/
def number? (chars : List Char) : Option (List Char × List Char) :=
  match chars with
  | '+' :: rest => (magnitude? rest).map fun (written, rest) => ('+' :: written, rest)
  | '-' :: rest => (magnitude? rest).map fun (written, rest) => ('-' :: written, rest)
  | chars => magnitude? chars

/-! ### Words -/

/-- What follows a comment between marks. -/
def afterComment? : List Char → Option (List Char)
  | '*' :: '/' :: chars => some chars
  | _ :: chars => afterComment? chars
  | [] => none

/-- The words of a text, of which no more than `fuel` are read. -/
def tokensWithin? : (fuel : Nat) → List Char → Option (List Token)
  | 0, _ => none
  | fuel + 1, chars =>
    match chars.dropWhile isSpace with
    | [] => some []
    | '/' :: '/' :: chars => tokensWithin? fuel (chars.dropWhile fun char => !isLineEnd char)
    | '/' :: '*' :: chars => afterComment? chars >>= tokensWithin? fuel
    | char :: chars =>
      if char ∈ ['\x7b', '\x7d', '[', ']', ',', ':'] then do
        return .mark char :: (← tokensWithin? fuel chars)
      else if char = '"' ∨ char = '\'' then do
        let (text, rest) ← quotedWithin? char (chars.length + 1) chars
        return .text (String.ofList text) :: (← tokensWithin? fuel rest)
      else if beginsName char ∨ char = '\\' then do
        let (written, value, rest) ← nameWithin? (chars.length + 1) (char :: chars)
        if written = [] then none
        else
          return .name (String.ofList written) (String.ofList value) :: (← tokensWithin? fuel rest)
      else do
        let (written, rest) ← number? (char :: chars)
        return .number (String.ofList written) :: (← tokensWithin? fuel rest)

/-- The words of a text. -/
def tokens? (text : String) : Option (List Token) := tokensWithin? (text.toList.length + 1) text.toList

end ClientAssertion.Json5
