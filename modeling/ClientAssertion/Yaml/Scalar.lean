/-
**Texts in YAML.**

A text is written plainly, between quotes or as a block of lines.  Where it goes over several lines,
the end of a line becomes a space, and each empty line the end of a line; a literal block keeps its
lines.

* `plain?`, `quoted?` and `block?` read a text at a place, with the place behind it.
-/

import ClientAssertion.Text.Radix
import ClientAssertion.Yaml.Cursor

namespace ClientAssertion.Yaml

/-! ### Folded lines -/

/-- What stands between two words. -/
structure Gap where
  /-- The blanks of a line, if it has not ended. -/
  blanks : List Char
  hasBreak : Bool
  /-- Whether blanks begin a line. -/
  isLeading : Bool
  emptyLines : Nat
deriving DecidableEq, Repr

namespace Gap

/-- The gap before the first word, or behind an escaped end of a line. -/
def none (isLeading : Bool) : Gap := ⟨[], false, isLeading, 0⟩

/-- A gap with one more blank. -/
def add (gap : Gap) (char : Char) : Gap :=
  if gap.isLeading then gap else { gap with blanks := gap.blanks ++ [char] }

/-- A gap with one more end of a line. -/
def addBreak (gap : Gap) : Gap :=
  if gap.isLeading then { gap with emptyLines := gap.emptyLines + 1 }
  else { gap with blanks := [], hasBreak := true, isLeading := true }

/-- The characters that a gap stands for. -/
def text (gap : Gap) : List Char :=
  if gap.isLeading then
    if gap.hasBreak ∧ gap.emptyLines = 0 then [' '] else List.replicate gap.emptyLines '\n'
  else gap.blanks

end Gap

/-! ### Plain texts -/

/-- A character may stand in a plain text, with another one behind it. -/
def mayStandPlain (inFlow : Bool) (char next : Char) : Bool :=
  !(char == ':' && (isGapOrEnd next || (inFlow && isFlow next))) && !(inFlow && isFlow char)

/-- How many characters of a plain word stand at the start of a text. -/
def plainLength (inFlow : Bool) : List Char → Nat
  | [] => 0
  | char :: chars =>
    if isGapOrEnd char ∨ !mayStandPlain inFlow char (chars.headD stop) then 0
    else plainLength inFlow chars + 1

/-- The gap behind a plain word, of which no more than `fuel` characters are read, and the place
behind it.  Tabs indent only lines that are empty. -/
def plainGapWithin? (indent : Int) (gap : Gap) : (fuel : Nat) → Cursor → Option (Gap × Cursor)
  | 0, _ => .none
  | fuel + 1, cursor =>
    let char := cursor.peek
    if isBreak char then plainGapWithin? indent gap.addBreak fuel cursor.newLine
    else if !isGap char then some (gap, cursor)
    else if gap.isLeading ∧ char = '\t' ∧ cursor.column < indent then do
      let cursor ← cursor.toLineEnd? true
      if isEnd cursor.peek then plainGapWithin? indent gap fuel cursor else .none
    else plainGapWithin? indent (gap.add char) fuel cursor.blank

/-- The rest of a plain text behind a gap, of which no more than `fuel` words are read, and the
place behind it. -/
def plainWithin? (indent : Int) (inFlow : Bool) (gap : Gap) :
    (fuel : Nat) → Cursor → Option (List Char × Cursor)
  | 0, _ => .none
  | fuel + 1, cursor =>
    if cursor.isBetweenDocuments ∨ cursor.peek = '#' then some ([], cursor)
    else if inFlow ∧ cursor.peek = '-' ∧ isFlow (cursor.ahead 1) then .none
    else do
      let length := plainLength inFlow cursor.rest
      let word := if length = 0 then [] else gap.text ++ cursor.rest.take length
      let gap := if length = 0 then gap else .none false
      let cursor := cursor.steps length
      if !isGap cursor.peek ∧ !isBreak cursor.peek then return (word, cursor)
      else
        let (gap, cursor) ← plainGapWithin? indent gap (cursor.rest.length + 1) cursor
        if !inFlow ∧ cursor.column < indent then return (word, cursor)
        else
          let (more, cursor) ← plainWithin? indent inFlow gap fuel cursor
          return (word ++ more, cursor)

/-- The plain text at a place, and the place behind it. -/
def plain? (indent : Int) (inFlow : Bool) (cursor : Cursor) : Option (List Char × Cursor) :=
  plainWithin? indent inFlow (.none cursor.isLeading) (cursor.rest.length + 1) cursor

/-! ### Quoted texts -/

/-- The character of a number of hexadecimal digits behind a place, and the place behind them. -/
def codePoint? (count : Nat) (cursor : Cursor) : Option (Char × Cursor) := do
  let digits := cursor.rest.take count
  let code ← digitsValue? 16 digits
  if digits.length = count ∧ code.isValidChar then return (Char.ofNat code, cursor.steps count)
  else .none

/-- The character that a letter behind a backslash denotes. -/
def escaped? (char : Char) : Option Char :=
  [('0', '\x00'), ('a', '\x07'), ('b', '\x08'), ('t', '\t'), ('\t', '\t'), ('n', '\n'), ('v', '\x0b'),
    ('f', '\x0c'), ('r', '\r'), ('e', '\x1b'), (' ', ' '), ('"', '"'), ('/', '/'), ('\\', '\\'),
    ('N', '\u0085'), ('_', '\u00a0'), ('L', '\u2028'), ('P', '\u2029')].lookup char

/-- The character of an escape at a place, and the place behind it. -/
def escape? (cursor : Cursor) : Option (Char × Cursor) :=
  let behind := cursor.steps 2
  match cursor.ahead 1 with
  | 'x' => codePoint? 2 behind
  | 'u' => codePoint? 4 behind
  | 'U' => codePoint? 8 behind
  | char => (escaped? char).map fun char => (char, behind)

/-- A word between quotes, of which no more than `fuel` characters are read, whether an escaped end
of a line follows it, and the place behind it. -/
def wordWithin? (quote : Char) : (fuel : Nat) → Cursor → Option (List Char × Bool × Cursor)
  | 0, _ => .none
  | fuel + 1, cursor =>
    let char := cursor.peek
    let more (char : Char) (cursor : Cursor) : Option (List Char × Bool × Cursor) := do
      let (word, isEscaped, cursor) ← wordWithin? quote fuel cursor
      return (char :: word, isEscaped, cursor)
    if isGapOrEnd char then some ([], false, cursor)
    else if quote = '\'' then
      if char = '\'' then
        if cursor.ahead 1 = '\'' then more '\'' (cursor.steps 2) else some ([], false, cursor)
      else more char cursor.step
    else if char = '"' then some ([], false, cursor)
    else if char = '\\' then
      if isBreak (cursor.ahead 1) then some ([], true, cursor.step.newLine)
      else do
        let (char, cursor) ← escape? cursor
        more char cursor
    else more char cursor.step

/-- The gap behind a word between quotes, of which no more than `fuel` characters are read, and the
place behind it. -/
def quotedGapWithin? (indent : Int) (gap : Gap) : (fuel : Nat) → Cursor → Option (Gap × Cursor)
  | 0, _ => .none
  | fuel + 1, cursor =>
    let char := cursor.peek
    if isBreak char then quotedGapWithin? indent gap.addBreak fuel cursor.newLine
    else if !isGap char then some (gap, cursor)
    else if gap.isLeading ∧ char = '\t' ∧ cursor.column < indent then .none
    else quotedGapWithin? indent (gap.add char) fuel cursor.blank

/-- The rest of a text up to its closing quote, of which no more than `fuel` words are read, and the
place behind it. -/
def quotedWithin? (quote : Char) (indent : Int) : (fuel : Nat) → Cursor → Option (List Char × Cursor)
  | 0, _ => .none
  | fuel + 1, cursor =>
    if cursor.isBetweenDocuments ∨ cursor.peek = stop ∨ cursor.column < indent then .none
    else do
      let (word, isEscaped, cursor) ← wordWithin? quote (cursor.rest.length + 1) cursor
      if cursor.peek = quote then return (word, cursor.step)
      else
        let (gap, cursor) ← quotedGapWithin? indent (.none isEscaped) (cursor.rest.length + 1) cursor
        let (more, cursor) ← quotedWithin? quote indent fuel cursor
        return (word ++ gap.text ++ more, cursor)

/-- The text between quotes at a place, and the place behind it. -/
def quoted? (indent : Int) (cursor : Cursor) : Option (List Char × Cursor) :=
  quotedWithin? cursor.peek indent (cursor.rest.length + 1) cursor.step

/-! ### Blocks -/

/-- What becomes of the ends of lines behind a block. -/
inductive Chomping where
  | strip
  /-- One is kept. -/
  | clip
  | keep
deriving DecidableEq, Repr

/-- The chomping that a mark at a place asks for, and the place behind it. -/
def chomping? (cursor : Cursor) : Option Chomping × Cursor :=
  match cursor.peek with
  | '+' => (some .keep, cursor.step)
  | '-' => (some .strip, cursor.step)
  | _ => (.none, cursor)

/-- The indentation that a digit at a place asks for, zero without one, and the place behind it. -/
def increment? (cursor : Cursor) : Option (Nat × Cursor) :=
  if !cursor.peek.isDigit then some (0, cursor)
  else if cursor.peek = '0' then .none
  else some (cursor.peek.toNat - 48, cursor.step)

/-- The chomping and the indentation of a block, in either order, and the place behind them. -/
def blockHeader? (cursor : Cursor) : Option (Chomping × Nat × Cursor) := do
  match chomping? cursor with
  | (some chomping, cursor) =>
    let (increment, cursor) ← increment? cursor
    return (chomping, increment, cursor)
  | (.none, cursor) =>
    let (increment, behind) ← increment? cursor
    if increment = 0 then return (.clip, 0, cursor)
    else
      let (chomping, behind) := chomping? behind
      return (chomping.getD .clip, increment, behind)

/-- The place behind the spaces before a column. -/
def behindSpaces (column : Nat) (cursor : Cursor) : Cursor :=
  let spaces := (cursor.rest.take (column - cursor.column)).takeWhile (· == ' ')
  { cursor with
    rest := cursor.rest.drop spaces.length
    index := cursor.index + spaces.length
    column := cursor.column + spaces.length }

/-- How many empty lines stand at a place, of which no more than `fuel` are counted, and the place
behind them and the indentation. -/
def emptyLinesWithin (indent : Nat) : (fuel : Nat) → Cursor → Nat × Cursor
  | 0, cursor => (0, cursor)
  | fuel + 1, cursor =>
    let cursor := behindSpaces indent cursor
    if isBreak cursor.peek then
      let (count, cursor) := emptyLinesWithin indent fuel cursor.newLine
      (count + 1, cursor)
    else (0, cursor)

/-- The widest line of spaces at a place, of which no more than `fuel` are read, how many are empty,
and the place behind them. -/
def firstIndentWithin (widest : Nat) : (fuel : Nat) → Cursor → Nat × Nat × Cursor
  | 0, cursor => (widest, 0, cursor)
  | fuel + 1, cursor =>
    let cursor := cursor.behindGap false
    let widest := max widest cursor.column
    if isBreak cursor.peek then
      let (widest, count, cursor) := firstIndentWithin widest fuel cursor.newLine
      (widest, count + 1, cursor)
    else (widest, 0, cursor)

/-- What has been read of a block. -/
structure Block where
  text : List Char
  /-- The last line has ended. -/
  hasBreak : Bool
  emptyLines : Nat
  /-- The last line began with a blank. -/
  beganBlank : Bool
deriving DecidableEq, Repr

/-- The ends of lines behind the last line of a block. -/
def Block.breaks (block : Block) : List Char := if block.hasBreak then ['\n'] else []

/-- What stands between the last line of a block and the next one, which begins with a blank or not.
Lines are folded unless one of the two begins with a blank. -/
def Block.between (isLiteral : Bool) (block : Block) (beginsBlank : Bool) : List Char :=
  let empty := List.replicate block.emptyLines '\n'
  if !isLiteral ∧ block.hasBreak ∧ !block.beganBlank ∧ !beginsBlank then
    if block.emptyLines = 0 then [' '] else empty
  else block.breaks ++ empty

/-- The lines of a block at a place, of which no more than `fuel` are read, behind what has been
read, and the place behind them. -/
def linesWithin (isLiteral : Bool) (indent : Nat) (block : Block) : (fuel : Nat) → Cursor → Block × Cursor
  | 0, cursor => (block, cursor)
  | fuel + 1, cursor =>
    if cursor.column ≠ indent ∨ cursor.peek = stop ∨ (indent = 0 ∧ Cursor.isMarker '.' cursor) then
      (block, cursor)
    else
      let beginsBlank := isGap cursor.peek
      let line := cursor.rest.takeWhile fun char => !isEnd char
      let text := block.text ++ block.between isLiteral beginsBlank ++ line
      let cursor := cursor.lineEnd
      if cursor.peek = stop then (⟨text, false, 0, beginsBlank⟩, cursor)
      else
        let cursor := cursor.newLine
        let (emptyLines, cursor) := emptyLinesWithin indent (cursor.rest.length + 1) cursor
        linesWithin isLiteral indent ⟨text, true, emptyLines, beginsBlank⟩ fuel cursor

/-- The text of a block behind its header, and the place behind it. -/
def blockLines? (isLiteral : Bool) (chomping : Chomping) (outer : Int) (indent emptyLines : Nat)
    (hasBreak : Bool) (cursor : Cursor) : Option (List Char × Cursor) :=
  let fuel := cursor.rest.length + 1
  if cursor.peek = stop then
    let first : List Char := if hasBreak then ['\n'] else []
    match chomping with
    | .strip => some ([], cursor)
    | .clip => some (first, cursor)
    | .keep => some (if emptyLines = 0 then first else List.replicate emptyLines '\n', cursor)
  else if cursor.column < indent ∧ outer < cursor.column then .none
  else
    let (block, cursor) := linesWithin isLiteral indent ⟨[], false, emptyLines, false⟩ fuel cursor
    let last : List Char := if cursor.peek = stop ∧ max indent 1 ≤ cursor.column then ['\n'] else []
    let kept := List.replicate block.emptyLines '\n'
    match chomping with
    | .strip => some (block.text, cursor)
    | .clip => some (block.text ++ block.breaks ++ last, cursor)
    | .keep => some (block.text ++ block.breaks ++ last ++ kept, cursor)

/-- The block at a place inside of an indentation, and the place behind it. -/
def block? (outer : Int) (cursor : Cursor) : Option (List Char × Cursor) := do
  let isLiteral := cursor.peek = '|'
  let (chomping, increment, cursor) ← blockHeader? cursor.step
  let cursor ← cursor.toLineEnd? true
  if !isEnd cursor.peek then .none
  else
    let hasBreak := isBreak cursor.peek
    let cursor := if hasBreak then cursor.newLine else cursor
    let fuel := cursor.rest.length + 1
    if cursor.peek = '\t' then .none
    else if increment = 0 then
      let (widest, emptyLines, cursor) := firstIndentWithin 0 fuel cursor
      let indent := max widest (outer + 1).toNat
      let indent := if 0 < outer then max indent 1 else indent
      blockLines? isLiteral chomping outer indent emptyLines hasBreak cursor
    else
      let indent := if 0 ≤ outer then outer.toNat + increment else increment
      let (emptyLines, cursor) := emptyLinesWithin indent fuel cursor
      blockLines? isLiteral chomping outer indent emptyLines hasBreak cursor

end ClientAssertion.Yaml
