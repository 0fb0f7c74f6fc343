/-
**The tokens of a TOML text.**

Words are what stands between blanks and punctuation: bare keys, numbers, dates and names.  A
comment reaches to the end of its line and leaves no token.

* `scan?` splits a text into tokens;
* `rawLiteral?` and `rawBlock?` find the end of a string on one line and of one over lines, and
  `unescape?` reads the escapes between.
-/

namespace ClientAssertion.Toml

/-- A token of a TOML text. -/
inductive Token where
  | word (chars : List Char)
  /-- A string on one line, which may be a key. -/
  | literal (text : String)
  /-- A string that may reach over lines. -/
  | block (text : String)
  | dot
  | equals
  | comma
  | openBracket
  | closeBracket
  | openBrace
  | closeBrace
  | blank (chars : List Char)
  | newline
deriving DecidableEq, Repr

/-! ### Characters -/

/-- A character that may stand in a line of text: no control character but the tab. -/
def isPrintable (char : Char) : Bool := char == '\t' || (' ' ≤ char && char.toNat != 0x7f)

/-- A blank within a line. -/
def isSpace (char : Char) : Bool := char == ' ' || char == '\t'

/-- A character of a word. -/
def isWordChar (char : Char) : Bool :=
  !(isSpace char || "\r\n#.=,[]\x7b\x7d\"'".toList.contains char)

/-! ### Strings -/

/-- The characters of a string up to its closing quote, and what follows it. -/
def rawLiteral? (quote : Char) (escapes : Bool) : List Char → Option (List Char × List Char)
  | [] => none
  | char :: chars =>
    if char = quote then some ([], chars)
    else if escapes ∧ char = '\\' then
      match chars with
      | [] => none
      | next :: chars => (rawLiteral? quote escapes chars).map fun (raw, rest) => (char :: next :: raw, rest)
    else (rawLiteral? quote escapes chars).map fun (raw, rest) => (char :: raw, rest)

/-- The characters of a string up to its three closing quotes, in front of which two more may
stand, and what follows them. -/
def rawBlock? (quote : Char) (escapes : Bool) : List Char → Option (List Char × List Char)
  | [] => none
  | char :: chars =>
    if char = quote ∧ chars.take 2 = [quote, quote] then
      let inside := ((chars.drop 2).take 2).takeWhile (· == quote)
      some (inside, chars.drop (2 + inside.length))
    else if escapes ∧ char = '\\' then
      match chars with
      | [] => none
      | next :: chars => (rawBlock? quote escapes chars).map fun (raw, rest) => (char :: next :: raw, rest)
    else (rawBlock? quote escapes chars).map fun (raw, rest) => (char :: raw, rest)

/-- A block without the line end right behind its opening quotes. -/
def dropFirstLineEnd : List Char → List Char
  | '\r' :: '\n' :: chars => chars
  | '\n' :: chars => chars
  | chars => chars

/-- The characters of a block may stand in a text: line ends do, a carriage return alone does
not. -/
def isBlockText : List Char → Bool
  | [] => true
  | '\r' :: '\n' :: chars => isBlockText chars
  | char :: chars => (char == '\n' || isPrintable char) && isBlockText chars

/-- The value of a hexadecimal digit. -/
def hexValue? (char : Char) : Option Nat :=
  if char.isDigit then some (char.toNat - 48)
  else if 'a' ≤ char ∧ char ≤ 'f' then some (char.toNat - 87)
  else if 'A' ≤ char ∧ char ≤ 'F' then some (char.toNat - 55)
  else none

/-- Where the reader of escapes stands. -/
inductive Escape where
  | none
  | letter
  /-- A code with that many digits to come. -/
  | code (left value : Nat)
  /-- The blanks that a backslash at the end of a line takes with it. -/
  | lineEnd (passed : Bool)

/-- The character that a letter stands for. -/
def escaped? (letter : Char) : Option Char :=
  match letter with
  | 'b' => some '\x08'
  | 't' => some '\t'
  | 'n' => some '\n'
  | 'f' => some '\x0c'
  | 'r' => some '\r'
  | 'e' => some '\x1b'
  | '"' => some '"'
  | '\\' => some '\\'
  | _ => none

/-- The number of digits of a code. -/
def codeWidth? (letter : Char) : Option Nat :=
  match letter with
  | 'x' => some 2
  | 'u' => some 4
  | 'U' => some 8
  | _ => none

/-- The character with a code. -/
def charOfCode? (code : Nat) : Option Char := if code.isValidChar then some (Char.ofNat code) else none

/-- A character that ends a line, alone or with another one. -/
def isLineEnd (char : Char) : Bool := char == '\n' || char == '\r'

/-- The characters that a string with escapes denotes. -/
def unescape? : Escape → List Char → Option (List Char)
  | .none, [] => some []
  | .lineEnd true, [] => some []
  | _, [] => .none
  | .none, char :: chars =>
    if char = '\\' then unescape? .letter chars else (unescape? .none chars).map (char :: ·)
  | .letter, char :: chars =>
    if isLineEnd char then unescape? (.lineEnd true) chars
    else if isSpace char then unescape? (.lineEnd false) chars
    else
      match escaped? char, codeWidth? char with
      | some escaped, _ => (unescape? .none chars).map (escaped :: ·)
      | _, some width => unescape? (.code width 0) chars
      | _, _ => .none
  | .code left value, char :: chars => do
    let value := value * 16 + (← hexValue? char)
    if left ≤ 1 then
      let char ← charOfCode? value
      (unescape? .none chars).map (char :: ·)
    else unescape? (.code (left - 1) value) chars
  | .lineEnd passed, char :: chars =>
    if isLineEnd char then unescape? (.lineEnd true) chars
    else if isSpace char then unescape? (.lineEnd passed) chars
    else if ¬passed then .none
    else if char = '\\' then unescape? .letter chars
    else (unescape? .none chars).map (char :: ·)

/-- The text of a string on one line. -/
def literalText? (escapes : Bool) (raw : List Char) : Option String :=
  if raw.all isPrintable then
    (if escapes then unescape? .none raw else some raw).map String.ofList
  else none

/-- The text of a string over lines, whose line ends stay as they are. -/
def blockText? (escapes : Bool) (raw : List Char) : Option String :=
  let lines := dropFirstLineEnd raw
  if isBlockText lines then
    (if escapes then unescape? .none lines else some lines).map String.ofList
  else none

/-- The string behind an opening quote. -/
def string? (quote : Char) (chars : List Char) : Option (Token × List Char) :=
  let escapes : Bool := quote == '"'
  if chars.take 2 = [quote, quote] then do
    let (raw, rest) ← rawBlock? quote escapes (chars.drop 2)
    return (.block (← blockText? escapes raw), rest)
  else do
    let (raw, rest) ← rawLiteral? quote escapes chars
    return (.literal (← literalText? escapes raw), rest)

/-! ### The scanner -/

/-- The punctuation that a character is. -/
def punctuation? (char : Char) : Option Token :=
  match char with
  | '.' => some .dot
  | '=' => some .equals
  | ',' => some .comma
  | '[' => some .openBracket
  | ']' => some .closeBracket
  | '\x7b' => some .openBrace
  | '\x7d' => some .closeBrace
  | '\n' => some .newline
  | _ => none

/-- What follows a comment, which holds no control character but the tab. -/
def afterComment? (chars : List Char) : Option (List Char) :=
  let comment := chars.takeWhile (· != '\n')
  let rest := chars.dropWhile (· != '\n')
  let comment := if rest ≠ [] ∧ comment.getLast? = some '\r' then comment.dropLast else comment
  if comment.all isPrintable then some rest else none

/-- The token that a character starts, and what follows it. -/
def token? (char : Char) (chars : List Char) : Option (Token × List Char) :=
  if char = '"' ∨ char = '\'' then string? char chars
  else if char = '\r' then
    if chars.head? = some '\n' then some (.newline, chars.drop 1) else none
  else if isSpace char then some (.blank (char :: chars.takeWhile isSpace), chars.dropWhile isSpace)
  else
    match punctuation? char with
    | some token => some (token, chars)
    | none => some (.word (char :: chars.takeWhile isWordChar), chars.dropWhile isWordChar)

/-- The tokens of characters, of which no more than `fuel` are read. -/
def scanWithin? : (fuel : Nat) → List Char → Option (List Token)
  | _, [] => some []
  | 0, _ => none
  | fuel + 1, char :: chars =>
    if char = '#' then (afterComment? chars).bind (scanWithin? fuel)
    else do
      let (token, rest) ← token? char chars
      return token :: (← scanWithin? fuel rest)

/-- The tokens of a text; there are no more of them than characters. -/
def scan? (chars : List Char) : Option (List Token) := scanWithin? chars.length chars

end ClientAssertion.Toml
