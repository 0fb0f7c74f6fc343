/-
**Words of YAML texts.**

The indentation of lines says where collections begin and end, so the words of a text tell that, too.
A word may turn out to be the key of a mapping when a colon follows it: marks for the key, and for the
mapping if it begins there, are then put before it.

* `Layout` is the state of reading: the open collections, and the words that may be keys;
* `Layout.next?` reads a word;
* `tokens?` are the words of a text.
-/

import ClientAssertion.Yaml.Scalar

namespace ClientAssertion.Yaml

/-! ### Words -/

/-- A word of a text. -/
inductive Token where
  | version
  /-- The meaning of a handle in tags. -/
  | handle (name meaning : String)
  | documentStart
  | documentEnd
  | blockSequence
  | blockMapping
  | blockEnd
  | flowSequence
  | flowSequenceEnd
  | flowMapping
  | flowMappingEnd
  /-- An item of a block sequence follows. -/
  | item
  /-- A comma. -/
  | comma
  | key
  | value
  | alias (name : String)
  | anchor (name : String) (column : Nat)
  | tag (handle suffix : String) (column : Nat)
  | scalar (isPlain : Bool) (text : String)
deriving DecidableEq, Repr

/-! ### State -/

/-- A place where a key of a mapping may begin. -/
structure KeyPlace where
  isPossible : Bool
  /-- It has to be a key, since a mapping goes on there. -/
  isRequired : Bool
  /-- How many words stand before it. -/
  position : Nat
  index : Nat
  line : Nat
  column : Nat
deriving DecidableEq, Repr

/-- No key begins. -/
def KeyPlace.none : KeyPlace := ⟨false, false, 0, 0, 0, 0⟩

/-- An indentation inside of another one. -/
structure Indent where
  /-- The outer one. -/
  outer : Int
  /-- A collection begins there, and not only the rest of a line. -/
  isBlock : Bool
deriving DecidableEq, Repr

/-- The state of reading. -/
structure Layout where
  cursor : Cursor
  tokens : Array Token
  /-- The place of a possible key in each open flow collection, the innermost first. -/
  keys : List KeyPlace
  mayBeginKey : Bool
  indent : Int
  indents : List Indent
  /-- How many flow collections are open. -/
  depth : Nat
  /-- The entries of a flow mapping are read, and not the items of a flow sequence. -/
  isInMapping : Bool
  /-- Whether an item of each open flow sequence is a mapping without braces, the innermost
  first. -/
  bareMappings : List Bool
  /-- Where a colon may follow a word at once. -/
  adjacent : Nat

namespace Layout

/-- The state before a text. -/
def start (chars : List Char) : Layout :=
  ⟨.start chars, #[], [.none], true, -1, [], 0, false, [], 0⟩

/-- The state behind one more word. -/
def push (layout : Layout) (token : Token) : Layout := { layout with tokens := layout.tokens.push token }

/-- The state with a word put in before others. -/
def insert (layout : Layout) (position : Nat) (token : Token) : Layout :=
  { layout with tokens := layout.tokens.insertIdxIfInBounds position token }

/-- The state at another place. -/
def moved (layout : Layout) (cursor : Cursor) : Layout := { layout with cursor }

/-- The state in which a key may or may not begin. -/
def allowKey (layout : Layout) (mayBeginKey : Bool) : Layout := { layout with mayBeginKey }

/-! ### Keys -/

/-- The place of a possible key in the innermost collection. -/
def key (layout : Layout) : KeyPlace := layout.keys.headD .none

/-- The state with another place of a possible key. -/
def setKey (layout : Layout) (key : KeyPlace) : Layout := { layout with keys := key :: layout.keys.drop 1 }

/-- The state in which a key may have begun. -/
def saveKey (layout : Layout) : Layout :=
  if layout.mayBeginKey then
    let cursor := layout.cursor
    let isRequired :=
      layout.depth == 0 && layout.indent == cursor.column && layout.indents.head?.any Indent.isBlock
    layout.setKey ⟨true, isRequired, layout.tokens.size, cursor.index, cursor.line, cursor.column⟩
  else layout

/-- The state in which no key has begun, unless it had to. -/
def removeKey? (layout : Layout) : Option Layout :=
  if layout.key.isPossible ∧ layout.key.isRequired then none
  else some (layout.setKey { layout.key with isPossible := false })

/-- How many characters a key may have. -/
def maxKey : Nat := 1024

/-- A possible key is too far away to be one. -/
def isStale (layout : Layout) (key : KeyPlace) : Bool :=
  key.isPossible && layout.depth == 0 &&
    (key.line < layout.cursor.line || key.index + maxKey < layout.cursor.index)

/-- The state without the keys that are too far away. -/
def dropStale? (layout : Layout) : Option Layout :=
  if layout.keys.any fun key => layout.isStale key && key.isRequired then none
  else
    some { layout with
      keys := layout.keys.map fun key =>
        if layout.isStale key then { key with isPossible := false } else key }

/-! ### Indentation -/

/-- The state behind the indentations that are wider than a column. -/
def unrollTo (layout : Layout) (column : Int) : (indents : List Indent) → Layout
  | [] => { layout with indents := [] }
  | indent :: indents =>
    if layout.indent ≤ column then { layout with indents := indent :: indents }
    else
      let layout := { layout with indent := indent.outer }
      unrollTo (if indent.isBlock then layout.push .blockEnd else layout) column indents

/-- The state behind the block collections that are indented wider than a column. -/
def unroll (layout : Layout) (column : Int) : Layout :=
  if layout.depth ≠ 0 then layout else layout.unrollTo column layout.indents

/-- The state behind the indentations of rests of lines. -/
def unrollRests (layout : Layout) : (indents : List Indent) → Layout
  | [] => { layout with indents := [] }
  | indent :: indents =>
    if indent.isBlock then { layout with indents := indent :: indents }
    else unrollRests { layout with indent := indent.outer } indents

/-- The state in a block collection at a column, which begins there if it is indented wider. -/
def roll (layout : Layout) (column : Nat) (position : Option Nat) (token : Token) : Layout :=
  if layout.depth ≠ 0 then layout
  else
    let layout :=
      match layout.indents with
      | indent :: indents =>
        if layout.indent ≤ (column : Int) ∧ !indent.isBlock then
          { layout with indent := indent.outer, indents }
        else layout
      | [] => layout
    if layout.indent < (column : Int) then
      let layout :=
        { layout with indents := ⟨layout.indent, true⟩ :: layout.indents, indent := column }
      match position with
      | some position => layout.insert position token
      | none => layout.push token
    else layout

/-- The state in the rest of a line inside of a block collection. -/
def rollRest (layout : Layout) : Layout :=
  if layout.depth = 0 ∧ layout.indents.head?.any Indent.isBlock then
    { layout with indents := ⟨layout.indent, false⟩ :: layout.indents, indent := layout.indent + 1 }
  else layout

/-! ### Blanks -/

/-- The state at the next word, before which no more than `fuel` blanks, ends of lines and comments
stand.  A tab does not indent. -/
def toWordWithin? : (fuel : Nat) → Layout → Option Layout
  | 0, _ => none
  | fuel + 1, layout =>
    let cursor := layout.cursor
    if cursor.peek = '\t' ∧ layout.indents ≠ [] ∧ cursor.isLeading ∧ cursor.column < layout.indent then do
      let cursor ← cursor.toLineEnd? true
      if isEnd cursor.peek then toWordWithin? fuel (layout.moved cursor) else none
    else if isGap cursor.peek then toWordWithin? fuel (layout.moved cursor.blank)
    else if isBreak cursor.peek then
      let layout := layout.moved cursor.newLine
      toWordWithin? fuel (if layout.depth = 0 then layout.allowKey true else layout)
    else if cursor.peek = '#' then toWordWithin? fuel (layout.moved cursor.lineEnd)
    else some layout

/-- The state at the next word. -/
def toWord? (layout : Layout) : Option Layout := toWordWithin? (layout.cursor.rest.length + 1) layout

/-- The state behind the blanks and the comment of a line. -/
def toLineEnd? (layout : Layout) : Option Layout := do return layout.moved (← layout.cursor.toLineEnd? true)

/-- The state behind a character. -/
def step (layout : Layout) : Layout := layout.moved layout.cursor.step

/-! ### Documents -/

/-- The state behind all words. -/
def finish? (layout : Layout) : Option Layout :=
  if layout.keys.any fun key => key.isPossible && key.isRequired then none
  else some (layout.unroll (-1))

/-- The state between documents. -/
def leaveDocument? (layout : Layout) : Option Layout := do
  return (← (layout.unroll (-1)).removeKey?).allowKey false

/-- The state behind a mark between documents. -/
def documentMark? (layout : Layout) (token : Token) : Option Layout := do
  let layout ← layout.leaveDocument?
  return (layout.moved (layout.cursor.steps 3)).push token

/-- The state behind the mark at the end of a document. -/
def documentEnd? (layout : Layout) : Option Layout := do
  let layout ← (← layout.documentMark? .documentEnd).toLineEnd?
  if isEnd layout.cursor.peek then some layout else none

/-! ### Tags and directives -/

/-- The handle of a tag at a place, and the place behind it. -/
def tagHandle (cursor : Cursor) : List Char × Cursor :=
  let cursor := cursor.step
  let letters := cursor.rest.takeWhile isTagLetter
  let cursor := cursor.steps letters.length
  if cursor.peek = '!' then ('!' :: letters ++ ['!'], cursor.step) else ('!' :: letters, cursor)

/-- A character of an address. -/
def isAddressChar (char : Char) : Bool :=
  char.isAlphanum || char ∈ "-#;/?:@&=+$,_.!~*'()[]%".toList

/-- A character of a tag. -/
def isTagChar (char : Char) : Bool := isAddressChar char && !isFlow char && char != '!'

/-- Characters with the octets that percent signs give. -/
def decoded? : List Char → Option (List Char)
  | [] => some []
  | '%' :: high :: low :: chars => do
    let code ← digitsValue? 16 [high, low]
    if code < 0x80 then return Char.ofNat code :: (← decoded? chars) else none
  | char :: chars => do if char = '%' then none else return char :: (← decoded? chars)

/-- The tag at a place, and the place behind it. -/
def tag? (cursor : Cursor) : Option (Token × Cursor) := do
  let column := cursor.column
  if cursor.ahead 1 = '<' then
    let address := (cursor.steps 2).rest.takeWhile isAddressChar
    let behind := cursor.steps (2 + address.length)
    if behind.peek = '>' then return (.tag "" (String.ofList (← decoded? address)) column, behind.step)
    else none
  else
    let (handle, behind) := tagHandle cursor
    let suffix := behind.rest.takeWhile isTagChar
    let behind := behind.steps suffix.length
    let suffix ← decoded? suffix
    if 2 ≤ handle.length ∧ handle.getLast? = some '!' then
      if suffix = [] then none
      else return (.tag (String.ofList handle) (String.ofList suffix) column, behind)
    else if handle.drop 1 ++ suffix = [] then return (.tag "" "!" column, behind)
    else return (.tag "!" (String.ofList (handle.drop 1 ++ suffix)) column, behind)

/-- A number at a place, and the place behind it. -/
def versionNumber? (cursor : Cursor) : Option Cursor :=
  let digits := cursor.rest.takeWhile Char.isDigit
  if digits = [] ∨ 9 < digits.length then none else some (cursor.steps digits.length)

/-- The directive of a name at a place, and the place behind it.  Unknown ones say nothing. -/
def directive? (name : String) (cursor : Cursor) : Option (Token × Cursor) := do
  match name with
  | "YAML" =>
    let major ← versionNumber? (cursor.behindGap true)
    if major.peek = '.' then return (.version, ← versionNumber? major.step) else none
  | "TAG" =>
    let (handle, behind) := tagHandle (cursor.behindGap true)
    if (cursor.behindGap true).peek ≠ '!' ∨ handle.getLast? ≠ some '!' ∨ !isGap behind.peek then none
    else
      let behind := behind.behindGap true
      let meaning := behind.rest.takeWhile isAddressChar
      let behind := behind.steps meaning.length
      if meaning = [] ∨ !isGapOrEnd behind.peek then none
      else return (.handle (String.ofList handle) (String.ofList (← decoded? meaning)), behind)
  | _ => return (.handle "" "", cursor.lineEnd)

/-- The state behind a directive, which fills its line. -/
def directiveLine? (layout : Layout) : Option Layout := do
  let layout ← layout.leaveDocument?
  let cursor := layout.cursor.step
  let name := cursor.rest.takeWhile isTagLetter
  let cursor := cursor.steps name.length
  if name = [] ∨ !isGapOrEnd cursor.peek then none
  else
    let (token, cursor) ← directive? (String.ofList name) cursor
    let layout ← (layout.moved cursor).toLineEnd?
    if isEnd layout.cursor.peek then
      let cursor := layout.cursor
      return (layout.moved (if isBreak cursor.peek then cursor.newLine else cursor)).push token
    else none

/-! ### Words of collections -/

/-- The state in a new flow collection. -/
def openFlow? (layout : Layout) (token : Token) : Option Layout := do
  let layout := layout.saveKey.rollRest
  let layout :=
    { layout with keys := KeyPlace.none :: layout.keys, depth := layout.depth + 1, mayBeginKey := true }
  let layout :=
    if token = .flowMapping then { layout with isInMapping := true }
    else { layout with bareMappings := false :: layout.bareMappings }
  return (← layout.step.toLineEnd?).push token

/-- The state behind a mapping without braces, if there is one. -/
def closeBare (layout : Layout) : Layout :=
  match layout.bareMappings with
  | true :: outer =>
    { layout with isInMapping := false, bareMappings := false :: outer }.push .flowMappingEnd
  | _ => layout

/-- The state behind a flow collection. -/
def closeFlow? (layout : Layout) (token : Token) : Option Layout := do
  let layout ← layout.removeKey?
  let layout :=
    if layout.depth = 0 then layout
    else { layout with depth := layout.depth - 1, keys := layout.keys.drop 1 }
  let layout := layout.allowKey false
  let layout :=
    if token = .flowSequenceEnd then
      let layout := layout.closeBare
      { layout with bareMappings := layout.bareMappings.drop 1 }
    else layout
  let layout ← layout.step.toLineEnd?
  let layout := if layout.depth = 0 then layout else { layout with adjacent := layout.cursor.index }
  return layout.push token

/-- The state behind a comma. -/
def comma? (layout : Layout) : Option Layout := do
  let layout ← layout.removeKey?
  return (← (layout.allowKey true).closeBare.step.toLineEnd?).push .comma

/-- An anchor or a tag is the last word and begins its line. -/
def isBehindProperty (layout : Layout) : Bool :=
  match layout.tokens.back? with
  | some (.anchor _ 0) | some (.tag _ _ 0) => true
  | _ => false

/-- The state behind the hyphen of an item. -/
def item? (layout : Layout) : Option Layout := do
  if layout.depth ≠ 0 ∨ !layout.mayBeginKey ∨
      (layout.isBehindProperty ∧ layout.cursor.column = 0 ∧ -1 < layout.indent) then none
  else
    let column := layout.cursor.column
    let behind := layout.cursor.step
    let layout := (layout.moved behind).roll column none .blockSequence
    let cursor ← behind.toLineEnd? true
    let gap := behind.rest.take (cursor.index - behind.index)
    if gap.contains '\t' ∧ cursor.peek = '-' ∧ isGapOrEnd (cursor.ahead 1) then none
    else
      let layout := layout.moved (← cursor.toLineEnd? false)
      let layout :=
        if isBreak layout.cursor.peek ∨ isFlow layout.cursor.peek then layout.rollRest else layout
      return ((← layout.removeKey?).allowKey true).push .item

/-- The place behind blanks, ends of lines and comments, of which no more than `fuel` are read, and
whether a line has ended. -/
def behindKeyWithin : (fuel : Nat) → Cursor → Bool × Cursor
  | 0, cursor => (false, cursor)
  | fuel + 1, cursor =>
    if cursor.peek = ' ' then behindKeyWithin fuel cursor.blank
    else if isBreak cursor.peek then (true, (behindKeyWithin fuel cursor.newLine).2)
    else if cursor.peek = '#' then behindKeyWithin fuel cursor.lineEnd
    else (false, cursor)

/-- The state behind the question mark of a key. -/
def questionMark? (layout : Layout) : Option Layout := do
  if layout.depth = 0 ∧ !layout.mayBeginKey then none
  else
    let layout :=
      if layout.depth = 0 then layout.roll layout.cursor.column none .blockMapping
      else { layout with isInMapping := true }
    let layout := (← layout.removeKey?).allowKey (layout.depth == 0)
    let start := layout.cursor.step
    let (hasBreak, cursor) := behindKeyWithin (start.rest.length + 1) start
    if cursor.peek = '\t' ∨ cursor.index = start.index then none
    else
      let layout := if hasBreak ∧ layout.depth = 0 then layout.allowKey true else layout
      return (layout.moved cursor).push .key

/-- The state in which the word before a colon is a key. -/
def keyBefore? (layout : Layout) (key : KeyPlace) (isBare : Bool) (line : Nat) : Option Layout :=
  let layout := layout.insert key.position .key
  if isBare ∧ key.line < line then none
  else
    let layout := if isBare then layout.insert key.position .flowMapping else layout
    let layout := (layout.roll key.column (some key.position) .blockMapping).rollRest
    some ((layout.setKey { layout.key with isPossible := false }).allowKey false)

/-- The state in which no key stands before a colon in its line. -/
def noKeyBefore? (layout : Layout) (isBare : Bool) (column : Nat) : Option Layout :=
  let layout := if isBare then layout.push .flowMapping else layout
  if layout.depth = 0 then
    if layout.mayBeginKey then some ((layout.roll column none .blockMapping).rollRest.allowKey true)
    else none
  else some (layout.rollRest.allowKey false)

/-- The state behind a colon. -/
def colon? (layout : Layout) : Option Layout := do
  let key := layout.key
  let start := layout.cursor
  let isBare := !layout.bareMappings.isEmpty && !layout.isInMapping
  let layout := if isBare then { layout with bareMappings := true :: layout.bareMappings.drop 1 } else layout
  let behind := start.step
  let cursor ← if behind.peek = '\t' then behind.toLineEnd? true else some behind
  let gap := behind.rest.take (cursor.index - behind.index)
  if behind.peek = '\t' ∧ !gap.contains ' ' ∧ (cursor.peek = '-' ∨ isTagLetter cursor.peek) then none
  else
    let layout := layout.moved cursor
    let layout ←
      if key.isPossible then layout.keyBefore? key isBare start.line
      else layout.noKeyBefore? isBare start.column
    return layout.push .value

/-! ### Words of content -/

/-- The state behind the name of an anchor, or of an alias for one. -/
def anchor? (layout : Layout) (isAlias : Bool) : Option Layout :=
  let layout := layout.saveKey.allowKey false
  let column := layout.cursor.column
  let cursor := layout.cursor.step
  let name := cursor.rest.takeWhile fun char => !isGapOrEnd char && !isFlow char && char.toNat != 0xfeff
  let token : Token :=
    if isAlias then .alias (String.ofList name) else .anchor (String.ofList name) column
  if name = [] then none else some ((layout.moved (cursor.steps name.length)).push token)

/-- The state behind a tag. -/
def tagged? (layout : Layout) : Option Layout := do
  let layout := layout.saveKey.allowKey false
  let (token, cursor) ← tag? layout.cursor
  if isGapOrEnd cursor.peek ∨ (layout.depth ≠ 0 ∧ isFlow cursor.peek) then
    return (layout.moved cursor).push token
  else none

/-- The state behind a block of lines. -/
def block? (layout : Layout) : Option Layout := do
  let layout := layout.saveKey.allowKey true
  let layout := layout.unrollRests layout.indents
  let (text, cursor) ← Yaml.block? layout.indent layout.cursor
  return (layout.moved cursor).push (.scalar false (String.ofList text))

/-- The state behind a plain text. -/
def plain? (layout : Layout) : Option Layout := do
  let layout := layout.saveKey.allowKey false
  let layout := layout.unrollRests layout.indents
  let indent := layout.indent + 1
  if layout.depth ≠ 0 ∧ layout.cursor.column < indent then none
  else
    let (text, cursor) ← Yaml.plain? indent (layout.depth != 0) layout.cursor
    let layout := layout.moved cursor
    let layout := if cursor.isLeading then layout.allowKey true else layout
    return layout.push (.scalar true (String.ofList text))

/-- What may follow a quoted text that began in a line. -/
def mayFollowQuoted (layout : Layout) (line : Nat) : Bool :=
  let cursor := layout.cursor
  if cursor.peek = ':' then layout.depth != 0 || cursor.line == line
  else isEnd cursor.peek || (layout.depth != 0 && cursor.peek ∈ [',', ']', '\x7d'])

/-- The state behind a quoted text. -/
def quoted? (layout : Layout) : Option Layout := do
  let layout := layout.saveKey.allowKey false
  let line := layout.cursor.line
  let (text, cursor) ← Yaml.quoted? layout.indent layout.cursor
  let layout ← (layout.moved cursor).toLineEnd?
  if layout.mayFollowQuoted line then
    let layout ← layout.toWord?
    return { layout with adjacent := layout.cursor.index }.push (.scalar false (String.ofList text))
  else none

/-! ### All words -/

/-- A colon at a place stands behind a key. -/
def isColon (layout : Layout) : Bool :=
  let next := layout.cursor.ahead 1
  isGapOrEnd next ||
    (layout.depth != 0 && (isFlow next || layout.cursor.index == layout.adjacent))

/-- The state behind the word at a place. -/
def word? (layout : Layout) : Option Layout :=
  let isAlone := isGapOrEnd (layout.cursor.ahead 1)
  match layout.cursor.peek with
  | '[' => layout.openFlow? .flowSequence
  | '\x7b' => layout.openFlow? .flowMapping
  | ']' => layout.closeFlow? .flowSequenceEnd
  | '\x7d' => layout.closeFlow? .flowMappingEnd
  | ',' => layout.comma?
  | '*' => layout.anchor? true
  | '&' => layout.anchor? false
  | '!' => layout.tagged?
  | '\'' => layout.quoted?
  | '"' => layout.quoted?
  | '-' => if isAlone then layout.item? else layout.plain?
  | '?' => if isAlone then layout.questionMark? else layout.plain?
  | ':' => if layout.isColon then layout.colon? else layout.plain?
  | '|' => if layout.depth = 0 then layout.block? else layout.plain?
  | '>' => if layout.depth = 0 then layout.block? else layout.plain?
  | char => if char ∈ ['%', '@', '\x60'] then none else layout.plain?

/-- The state behind the next word, or none at the end. -/
def next? (layout : Layout) : Option (Layout × Bool) := do
  let layout ← (← layout.toWord?).dropStale?
  let layout := layout.unroll layout.cursor.column
  let cursor := layout.cursor
  if cursor.peek = stop then return (← layout.finish?, true)
  else if cursor.column = 0 ∧ cursor.peek = '%' then return (← layout.directiveLine?, false)
  else if Cursor.isMarker '-' cursor then return (← layout.documentMark? .documentStart, false)
  else if Cursor.isMarker '.' cursor then return (← layout.documentEnd?, false)
  else if cursor.column < layout.indent then none
  else return (← layout.word?, false)

/-- The state at the end, before which no more than `fuel` words stand. -/
def readWithin? : (fuel : Nat) → Layout → Option Layout
  | 0, _ => none
  | fuel + 1, layout => do
    match ← layout.next? with
    | (layout, true) => return layout
    | (layout, false) => readWithin? fuel layout

end Layout

/-- The words of a text. -/
def tokens? (text : String) : Option (List Token) :=
  let chars := text.toList
  (Layout.readWithin? (chars.length + 1) (.start chars)).map fun layout => layout.tokens.toList

end ClientAssertion.Yaml
