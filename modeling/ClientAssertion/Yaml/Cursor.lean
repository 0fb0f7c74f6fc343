/-
**Places in YAML texts.**

* `Cursor.peek` is the character at a place, `Cursor.blank`, `Cursor.step` and `Cursor.newLine` are
  the places behind a blank, behind another character and behind the end of a line;
* `Cursor.toLineEnd?` skips blanks and a comment up to the end of the line.
-/

namespace ClientAssertion.Yaml

/-! ### Characters -/

/-- What stands behind the last character; a text ends at such a character, too. -/
def stop : Char := '\x00'

/-- The end of a line. -/
def isBreak (char : Char) : Bool := char == '\n' || char == '\r'

/-- The end of a line or of the text. -/
def isEnd (char : Char) : Bool := isBreak char || char == stop

/-- A space or a tab. -/
def isGap (char : Char) : Bool := char == ' ' || char == '\t'

/-- What may stand behind a word. -/
def isGapOrEnd (char : Char) : Bool := isGap char || isEnd char

/-- A mark of collections that are written in one line. -/
def isFlow (char : Char) : Bool := char ∈ [',', '[', ']', '\x7b', '\x7d']

/-- A character of the names of tags. -/
def isTagLetter (char : Char) : Bool := char.isAlphanum || char == '_' || char == '-'

/-! ### Places -/

/-- A place in a text. -/
structure Cursor where
  rest : List Char
  index : Nat
  line : Nat
  column : Nat
  /-- Only blanks stand before it in its line. -/
  isLeading : Bool
deriving DecidableEq, Repr

namespace Cursor

/-- The start of a text. -/
def start (chars : List Char) : Cursor := ⟨chars, 0, 0, 0, true⟩

/-- The character some places ahead. -/
def ahead (cursor : Cursor) (count : Nat) : Char := (cursor.rest.drop count).headD stop

/-- The character at a place. -/
def peek (cursor : Cursor) : Char := cursor.ahead 0

/-- The place behind a blank. -/
def blank (cursor : Cursor) : Cursor :=
  { cursor with rest := cursor.rest.drop 1, index := cursor.index + 1, column := cursor.column + 1 }

/-- The place behind a character that is not blank. -/
def step (cursor : Cursor) : Cursor := { cursor.blank with isLeading := false }

/-- The place behind some characters that are not blank. -/
def steps (cursor : Cursor) : (count : Nat) → Cursor
  | 0 => cursor
  | count + 1 => cursor.step.steps count

/-- The place behind the end of a line. -/
def newLine (cursor : Cursor) : Cursor :=
  let cursor := if cursor.peek = '\r' ∧ cursor.ahead 1 = '\n' then cursor.blank else cursor
  { cursor with
    rest := cursor.rest.drop 1
    index := cursor.index + 1
    line := cursor.line + 1
    column := 0
    isLeading := true }

/-- The place where a line ends. -/
def lineEnd (cursor : Cursor) : Cursor :=
  cursor.steps (cursor.rest.takeWhile fun char => !isEnd char).length

/-- A mark between documents stands at a place: three times a character, and no more. -/
def isMarker (char : Char) (cursor : Cursor) : Bool :=
  cursor.column == 0 && cursor.peek == char && cursor.ahead 1 == char && cursor.ahead 2 == char &&
    isGapOrEnd (cursor.ahead 3)

/-- A document begins or ends at a place. -/
def isBetweenDocuments (cursor : Cursor) : Bool := isMarker '-' cursor || isMarker '.' cursor

/-- A place behind the blanks of a line, of which tabs count or not. -/
def behindGap (mayTab : Bool) (cursor : Cursor) : Cursor :=
  let gap := cursor.rest.takeWhile fun char => char == ' ' || (mayTab && char == '\t')
  { cursor with
    rest := cursor.rest.drop gap.length
    index := cursor.index + gap.length
    column := cursor.column + gap.length }

/-- A place behind the blanks and a comment of a line.  A comment has a blank before it. -/
def toLineEnd? (mayTab : Bool) (cursor : Cursor) : Option Cursor :=
  let behind := cursor.behindGap mayTab
  if behind.peek ≠ '#' then some behind
  else if behind.index = cursor.index then none
  else some behind.lineEnd

end Cursor

end ClientAssertion.Yaml
