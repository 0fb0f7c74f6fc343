/-
**INI texts.**

A text has sections of keys with texts as their values.  What stands before the first header belongs
to no section.  A key reaches up to the next `=` or `:`, over the ends of lines; its value fills the
rest of the line.  A comment fills a line from its first column on.

* `textUntil?` reads a text with its escapes;
* `value?` reads a value, parts of which may be quoted;
* `Ini.ofText?` are the sections of a text, `Ini.data` is the table that they make: of sections and
  keys with the same name the last one counts.
-/

import ClientAssertion.Data
import ClientAssertion.Table
import ClientAssertion.Text.Blank
import ClientAssertion.Text.Radix

namespace ClientAssertion.Ini

/-! ### Texts -/

/-- A text without the blanks at its start. -/
def trimStart (chars : List Char) : List Char := chars.dropWhile isBlank

/-- A text without the blanks at its end. -/
def trimEnd (chars : List Char) : List Char := (chars.reverse.dropWhile isBlank).reverse

/-- A text without the blanks at both ends. -/
def trim (chars : List Char) : List Char := trimEnd (trimStart chars)

/-- The character that a letter behind a backslash denotes. -/
def escaped (char : Char) : List Char :=
  match char with
  | '0' => ['\x00']
  | 'a' => ['\x07']
  | 'b' => ['\x08']
  | 't' => ['\t']
  | 'r' => ['\r']
  | 'n' => ['\n']
  | '\n' => []
  | char => [char]

/-- The character that four hexadecimal digits denote, in place of the first of which a plus sign may
stand. -/
def codePoint? (digits : List Char) : Option Char := do
  let code ← digitsValue? 16 (if digits.head? = some '+' then digits.drop 1 else digits)
  if code.isValidChar then some (Char.ofNat code) else none

/-- The text up to a character that ends it, and what follows from that character on.  The end of
all characters may end the text, too, or not; a backslash before it stands for itself. -/
def textUntil? (ends : Char → Bool) (mayStop : Bool) : List Char → Option (List Char × List Char)
  | [] => if mayStop then some ([], []) else none
  | '\\' :: 'x' :: first :: second :: third :: fourth :: chars => do
    let char ← codePoint? [first, second, third, fourth]
    let (text, rest) ← textUntil? ends mayStop chars
    return (char :: text, rest)
  | '\\' :: char :: chars => do
    if char = 'x' then none
    else
      let (text, rest) ← textUntil? ends mayStop chars
      return (escaped char ++ text, rest)
  | ['\\'] => if mayStop then some (['\\'], []) else none
  | char :: chars => do
    if ends char then return ([], char :: chars)
    else
      let (text, rest) ← textUntil? ends mayStop chars
      return (char :: text, rest)

/-- The end of a line. -/
def isLineEnd (char : Char) : Bool := char == '\n' || char == '\r'

/-- A value, of which no more than `fuel` parts are read, and what follows it.  Its last part is not
quoted. -/
def partsWithin? : (fuel : Nat) → (isFirst : Bool) → List Char → Option (List Char × List Char)
  | 0, _, _ => none
  | fuel + 1, isFirst, chars =>
    let quoted (quote : Char) (chars : List Char) : Option (List Char × List Char) := do
      let (text, rest) ← textUntil? (· == quote) false chars
      let (more, rest) ← partsWithin? fuel false (rest.drop 1)
      return (text ++ more, rest)
    match chars with
    | [] => some ([], [])
    | '"' :: chars => quoted '"' chars
    | '\'' :: chars => quoted '\'' chars
    | chars => do
      let (text, rest) ← textUntil? isLineEnd true chars
      return (if isFirst then trim text else trimEnd text, rest)

/-- A value and what follows it. -/
def value? (chars : List Char) : Option (List Char × List Char) :=
  let chars := chars.dropWhile fun char => isBlank char && !isLineEnd char
  partsWithin? (chars.length + 1) true chars

/-! ### Sections -/

/-- A section. -/
structure Section where
  name : Option String
  entries : List (String × String)
deriving DecidableEq, Repr

/-- A section with one more entry. -/
def Section.add (old : Section) (key value : String) : Section :=
  { old with entries := old.entries ++ [(key, value)] }

/-- The characters behind the blanks at their start, and whether they begin a line. -/
def skipBlanks (beginsLine : Bool) : List Char → Bool × List Char
  | [] => (beginsLine, [])
  | char :: chars =>
    if isBlank char then skipBlanks (char == '\n') chars else (beginsLine, char :: chars)

/-- The sections of a text behind some others, of which the present one has been begun.  No more
than `fuel` parts are read. -/
def sectionsWithin? (present : Section) (beginsLine : Bool) : (fuel : Nat) → List Char → Option (List Section)
  | 0, _ => none
  | fuel + 1, chars =>
    match skipBlanks beginsLine chars with
    | (_, []) => some [present]
    | (_, '[' :: chars) => do
      let (name, rest) ← textUntil? (· == ']') false chars
      let next : Section := ⟨some (String.ofList (trim name)), []⟩
      return present :: (← sectionsWithin? next false fuel (rest.drop 1))
    | (beginsLine, char :: chars) =>
      if char = ';' ∨ char = '#' then
        if beginsLine then sectionsWithin? present true fuel ((chars.dropWhile (· != '\n')).drop 1)
        else none
      else do
        let (key, rest) ← textUntil? (fun char => char == '=' || char == ':') false (char :: chars)
        let (value, rest) ← value? (rest.drop 1)
        if trim key = [] then none
        else
          let present := present.add (String.ofList (trim key)) (String.ofList value)
          sectionsWithin? present false fuel rest

/-- The sections of a text, the one without a name first. -/
def ofText? (text : String) : Option (List Section) :=
  sectionsWithin? ⟨none, []⟩ true (text.toList.length + 1) text.toList

/-! ### Tables -/

/-- The table of a section. -/
def Section.table (made : Section) : List (String × Data) :=
  made.entries.foldl (fun table entry => Table.put entry.1 (.text entry.2) table) []

/-- A table with one more section. -/
def addSection (table : List (String × Data)) (made : Section) : List (String × Data) :=
  match made.name with
  | none => made.table
  | some name => Table.put name (.table made.table) table

/-- The table that sections make. -/
def data (sections : List Section) : Data := .table (sections.foldl addSection [])

end ClientAssertion.Ini
