/-
**The text of a document.**

In a string the quote, the backslash and the control characters are escaped, the latter by their
short form where there is one and by four lower case hexadecimal digits where there is none; all
other characters stand for themselves.

* `compact` writes a document without blanks, members in the order they have;
* `pretty` writes each member and each item on a line of its own, indented by two spaces a level.
-/

import ClientAssertion.Json.Basic

namespace ClientAssertion.Json

/-! ### Strings -/

/-- A hexadecimal digit in lower case. -/
def hexDigit (value : Nat) : Char :=
  if value < 10 then Char.ofNat (48 + value) else Char.ofNat (87 + value)

/-- A character inside a string. -/
def quotedChar (char : Char) : List Char :=
  match char.toNat with
  | 0x22 => ['\\', '"']
  | 0x5c => ['\\', '\\']
  | 0x08 => ['\\', 'b']
  | 0x0c => ['\\', 'f']
  | 0x0a => ['\\', 'n']
  | 0x0d => ['\\', 'r']
  | 0x09 => ['\\', 't']
  | code =>
    if code < 0x20 then ['\\', 'u', '0', '0', hexDigit (code / 16), hexDigit (code % 16)]
    else [char]

/-- A text between quotes. -/
def quoted (text : String) : String :=
  String.ofList ('"' :: text.toList.flatMap quotedChar ++ ['"'])

/-! ### Documents -/

/-- The object brackets; a brace in a string literal would be read as an interpolation. -/
def openBrace : String := "\x7b"

/-- The closing object bracket. -/
def closeBrace : String := "\x7d"

mutual

/-- The text of a document without blanks.  A literal that denotes no text is written empty. -/
def compact : Json → String
  | .null => "null"
  | .bool true => "true"
  | .bool false => "false"
  | .number text => text
  | .string text => quoted (text.getD "")
  | .array items => "[" ++ ",".intercalate (compactItems items) ++ "]"
  | .object members => openBrace ++ ",".intercalate (compactMembers members) ++ closeBrace

/-- The texts of an array's items. -/
def compactItems : List Json → List String
  | [] => []
  | item :: items => compact item :: compactItems items

/-- The texts of an object's members. -/
def compactMembers : List (Option String × Json) → List String
  | [] => []
  | (name, value) :: members =>
    (quoted (name.getD "") ++ ":" ++ compact value) :: compactMembers members

end

/-- A line break and the indentation of a level. -/
def newline (level : Nat) : String := "\n" ++ String.ofList (List.replicate (2 * level) ' ')

/-- The parts of a container, each on its line. -/
def block (level : Nat) (opening closing : String) (parts : List String) : String :=
  if parts.isEmpty then opening ++ closing
  else
    opening ++ newline (level + 1) ++ ("," ++ newline (level + 1)).intercalate parts ++
      newline level ++ closing

mutual

/-- The text of a document that stands at a level of indentation. -/
def prettyAt (level : Nat) : Json → String
  | .array items => block level "[" "]" (prettyItems level items)
  | .object members => block level openBrace closeBrace (prettyMembers level members)
  | value => compact value

/-- The texts of an array's items. -/
def prettyItems (level : Nat) : List Json → List String
  | [] => []
  | item :: items => prettyAt (level + 1) item :: prettyItems level items

/-- The texts of an object's members. -/
def prettyMembers (level : Nat) : List (Option String × Json) → List String
  | [] => []
  | (name, value) :: members =>
    (quoted (name.getD "") ++ ": " ++ prettyAt (level + 1) value) :: prettyMembers level members

end

/-- The indented text of a document. -/
def pretty (document : Json) : String := prettyAt 0 document

end ClientAssertion.Json
