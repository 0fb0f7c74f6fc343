/-
**Documents from their tokens.**

A document is a list of statements, one a line: a header, or a key with its value.  Values nest at
most `nestingLimit` deep.

* `value?` reads a value, `statement?` a statement;
* `ofText?` reads a document, in front of which a byte order mark may stand.
-/

import ClientAssertion.Toml.Scalar

namespace ClientAssertion.Toml

/-- How deep values may nest. -/
def nestingLimit : Nat := 80

/-! ### Between the values -/

/-- The tokens without the blanks at their start. -/
def skipBlanks (tokens : List Token) : List Token :=
  tokens.dropWhile fun
    | .blank _ => true
    | _ => false

/-- The tokens without the blanks and line ends at their start. -/
def skipLines (tokens : List Token) : List Token :=
  tokens.dropWhile fun
    | .blank _ | .newline => true
    | _ => false

/-- What follows the end of a line. -/
def lineEnd? (tokens : List Token) : Option (List Token) :=
  match skipBlanks tokens with
  | [] => some []
  | .newline :: rest => some rest
  | _ => none

/-! ### Keys -/

/-- A character of a bare key. -/
def isBareKeyChar (char : Char) : Bool := char.isAlphanum || char == '_' || char == '-'

/-- The key that is one token. -/
def simpleKey? : Token → Option String
  | .word chars => if chars.all isBareKeyChar then some (String.ofList chars) else none
  | .literal text => some text
  | _ => none

/-- The path that keys with dots between them spell. -/
def path? : List Token → Option (List String)
  | [token] => (simpleKey? token).map ([·])
  | token :: .dot :: tokens => do return (← simpleKey? token) :: (← path? tokens)
  | _ => none

/-- A token is a blank. -/
def isBlankToken : Token → Bool
  | .blank _ => true
  | _ => false

/-- A token may be part of a key. -/
def isKeyPart : Token → Bool
  | .word _ | .literal _ | .dot | .blank _ => true
  | _ => false

/-- The path at the start of the tokens, and what follows it. -/
def key? (tokens : List Token) : Option (List String × List Token) := do
  let path ← path? ((tokens.takeWhile isKeyPart).filter fun token => !isBlankToken token)
  return (path, tokens.dropWhile isKeyPart)

/-! ### Values -/

/-- The characters of words and the points between them, and what follows. -/
def word : List Token → List Char × List Token
  | .word chars :: tokens =>
    let (more, rest) := word tokens
    (chars ++ more, rest)
  | .dot :: tokens =>
    let (more, rest) := word tokens
    ('.' :: more, rest)
  | tokens => ([], tokens)

/-- Characters are a date alone. -/
def isDate (chars : List Char) : Bool := (date? chars).any fun (_, rest) => rest.isEmpty

/-- The value that is one word, or a date and a time of day with a space between them. -/
def scalar? (tokens : List Token) : Option (Value × List Token) :=
  let (chars, rest) := word tokens
  match isDate chars, rest with
  | true, .blank [' '] :: .word (digit :: chars') :: rest' =>
    if digit.isDigit then
      let (time, rest) := word (.word (digit :: chars') :: rest')
      (ofWord? (chars ++ ' ' :: time)).map (·, rest)
    else (ofWord? chars).map (·, rest)
  | _, _ => (ofWord? chars).map (·, rest)

mutual

/-- The value at the start of the tokens, and what follows it. -/
def value? : (fuel depth : Nat) → List Token → Option (Value × List Token)
  | 0, _, _ => none
  | fuel + 1, depth, tokens =>
    match depth, tokens with
    | _, .literal text :: rest => some (.text text, rest)
    | _, .block text :: rest => some (.text text, rest)
    | depth + 1, .openBracket :: rest => items? fuel depth [] (skipLines rest)
    | depth + 1, .openBrace :: rest => members? fuel depth [] (skipLines rest)
    | _, tokens => scalar? tokens

/-- The items of an array up to its end, behind those that have been read, last first. -/
def items? : (fuel depth : Nat) → List Value → List Token → Option (Value × List Token)
  | 0, _, _, _ => none
  | _ + 1, _, items, .closeBracket :: rest => some (.list items.reverse, rest)
  | fuel + 1, depth, items, tokens => do
    let (item, rest) ← value? fuel depth tokens
    match skipLines rest with
    | .comma :: rest => items? fuel depth (item :: items) (skipLines rest)
    | .closeBracket :: rest => some (.list (item :: items).reverse, rest)
    | _ => none

/-- The members of an inline table up to its end, added to those that have been read. -/
def members? : (fuel depth : Nat) → Entries → List Token → Option (Value × List Token)
  | 0, _, _, _ => none
  | _ + 1, _, entries, .closeBrace :: rest => some (.table .inline entries, rest)
  | fuel + 1, depth, entries, tokens => do
    let (path, rest) ← key? tokens
    match rest with
    | .equals :: rest =>
      let (value, rest) ← value? fuel depth (skipBlanks rest)
      let entries ← assign? path value entries
      match skipLines rest with
      | .comma :: rest => members? fuel depth entries (skipLines rest)
      | .closeBrace :: rest => some (.table .inline entries, rest)
      | _ => none
    | _ => none

end

/-! ### Statements -/

/-- The table that a header opens, under its path. -/
def header? (opening : String → Entries → Option Entries) (path : List String) (root : Entries) :
    Option Entries := do
  within (opening (← path.getLast?)) path.dropLast root

/-- A statement with the state behind it: the path of the last header, the document so far and
the tokens that follow. -/
def statement? (header : List String) (root : Entries) (tokens : List Token) :
    Option (List String × Entries × List Token) :=
  match tokens with
  | .openBracket :: .openBracket :: rest => do
    let (path, rest) ← key? rest
    match rest with
    | .closeBracket :: .closeBracket :: rest =>
      return (path, ← header? openElement? path root, ← lineEnd? rest)
    | _ => none
  | .openBracket :: rest => do
    let (path, rest) ← key? rest
    match rest with
    | .closeBracket :: rest => return (path, ← header? openTable? path root, ← lineEnd? rest)
    | _ => none
  | tokens => do
    let (path, rest) ← key? tokens
    match rest with
    | .equals :: rest =>
      let (value, rest) ← value? (2 * rest.length + 1) nestingLimit (skipBlanks rest)
      return (header, ← within (assign? path value) header root, ← lineEnd? rest)
    | _ => none

/-- The document that tokens spell, of whose statements no more than `fuel` are read. -/
def statementsWithin? : (fuel : Nat) → (header : List String) → Entries → List Token → Option Entries
  | 0, _, root, tokens => if skipLines tokens = [] then some root else none
  | fuel + 1, header, root, tokens =>
    match skipLines tokens with
    | [] => some root
    | tokens => do
      let (header, root, rest) ← statement? header root tokens
      statementsWithin? fuel header root rest

/-- A text without the byte order mark at its start. -/
def dropByteOrderMark : List Char → List Char
  | char :: chars => if char.toNat = 0xfeff then chars else char :: chars
  | [] => []

/-- The document that a text spells; it has no more statements than tokens. -/
def ofText? (text : String) : Option Entries := do
  let tokens ← scan? (dropByteOrderMark text.toList)
  statementsWithin? tokens.length [] [] tokens

end ClientAssertion.Toml
