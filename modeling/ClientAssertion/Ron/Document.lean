/-
**RON texts.**

A structure is written between parentheses with the names of its fields, a tuple without them, and
either may have a name in front of it, which says nothing here.  A name alone stands for nothing.

* `valueWithin?` reads a value;
* `Ron.ofText?` is the value that a text denotes, in which the keys of all tables are texts.
-/

import ClientAssertion.Ron.Token
import ClientAssertion.Table

namespace ClientAssertion.Ron

/-! ### Extensions -/

/-- The extensions that a text may ask for.  They concern values whose type is known, so they change
nothing here. -/
def extensions : List String :=
  ["unwrap_newtypes", "implicit_some", "unwrap_variant_newtypes", "explicit_struct_names"]

/-- What follows a word at the start of a text and the blanks behind it. -/
def afterWord? (word : String) (chars : List Char) : Option (List Char) :=
  if word.toList.isPrefixOf chars then skip? (chars.drop word.length) else none

/-- What follows names of extensions up to the closing parenthesis, of which no more than `fuel` are
read. -/
def afterNames? : (fuel : Nat) → List Char → Option (List Char)
  | 0, _ => none
  | fuel + 1, chars => do
    let (name, rest) ← identifier? chars
    let rest ← skip? rest
    if String.ofList name ∉ extensions then none
    else
      match rest with
      | ',' :: rest =>
        match ← skip? rest with
        | ')' :: rest => some rest
        | rest => afterNames? fuel rest
      | ')' :: rest => some rest
      | _ => none

/-- What follows the attributes at the start of a text, of which no more than `fuel` are read. -/
def afterAttributes? : (fuel : Nat) → List Char → Option (List Char)
  | 0, _ => none
  | fuel + 1, '#' :: chars => do
    let rest ← skip? chars >>= afterWord? "!" >>= afterWord? "[" >>= afterWord? "enable" >>= afterWord? "("
    let rest ← afterNames? (rest.length + 1) rest
    let rest ← skip? rest >>= afterWord? "]"
    afterAttributes? fuel rest
  | _, chars => some chars

/-! ### Values -/

/-- What stands at the first place between parentheses is the name of a field. -/
def beginsWithField (chars : List Char) : Bool :=
  match identifier? chars with
  | some (_, rest) => ((skip? rest).bind List.head?) = some ':'
  | none => false

/-- A comma and the blanks around it may stand before what follows; whether it does. -/
def afterComma? (chars : List Char) : Option (Bool × List Char) := do
  match ← skip? chars with
  | ',' :: rest => return (true, ← skip? rest)
  | rest => return (false, rest)

/-- The key that a value is. -/
def key? : Data → Option String
  | .text value => some value
  | _ => none

/-- How many values may be nested in each other. -/
def maxDepth : Nat := 129

mutual

/-- The value at the start of a text, in which no more than `depth` values are nested and no more than
`fuel` are nested or follow each other, and what follows it. -/
def valueWithin? : (fuel depth : Nat) → List Char → Option (Data × List Char)
  | 0, _, _ | _, 0, _ => none
  | fuel + 1, depth + 1, chars =>
    match identifier? chars with
    | some (_, rest) => do
      let name := ((keyword? chars).map Prod.fst).getD ""
      match name, namedNumber? name with
      | "true", _ => return (.bool true, rest)
      | "false", _ => return (.bool false, rest)
      | "None", _ => return (.nothing, rest)
      | _, some value => return (.float value, rest)
      | "Some", none =>
        match ← skip? rest with
        | '(' :: rest =>
          let (value, rest) ← valueWithin? fuel depth (← skip? rest)
          match ← afterComma? rest with
          | (_, ')' :: rest) => return (value, rest)
          | _ => none
        | _ => none
      | _, none =>
        match ← skip? rest with
        | '(' :: rest => groupWithin? fuel depth rest
        | rest => return (.nothing, rest)
    | none =>
      match chars with
      | '(' :: ')' :: rest => some (.nothing, rest)
      | '(' :: rest => groupWithin? fuel depth rest
      | '[' :: rest => (itemsWithin? fuel depth ']' rest).map fun (items, rest) => (.list items, rest)
      | '\x7b' :: rest => (entriesWithin? fuel depth [] rest).map fun (entries, rest) => (.table entries, rest)
      | '\'' :: _ => (character? chars).map fun (char, rest) => (.text (String.ofList [char]), rest)
      | '"' :: _ => (quoted? chars).map fun (text, rest) => (.text (String.ofList text), rest)
      | 'r' :: _ => (quoted? chars).map fun (text, rest) => (.text (String.ofList text), rest)
      | 'b' :: '\'' :: _ => octetNumber? chars
      | char :: _ => if char.isDigit ∨ char ∈ ['+', '-', '.'] then number? chars else none
      | [] => none

/-- What stands between parentheses, and what follows those. -/
def groupWithin? : (fuel depth : Nat) → List Char → Option (Data × List Char)
  | 0, _, _ => none
  | fuel + 1, depth, chars => do
    let chars ← skip? chars
    if beginsWithField chars then
      (fieldsWithin? fuel depth [] chars).map fun (entries, rest) => (.table entries, rest)
    else (itemsWithin? fuel depth ')' chars).map fun (items, rest) => (.list items, rest)

/-- The items up to a closing bracket, and what follows that. -/
def itemsWithin? : (fuel depth : Nat) → (close : Char) → List Char → Option (List Data × List Char)
  | 0, _, _, _ => none
  | fuel + 1, depth, close, chars => do
    let chars ← skip? chars
    if chars.head? = some close then return ([], chars.drop 1)
    else
      let (item, rest) ← valueWithin? fuel depth chars
      let (hasComma, rest) ← afterComma? rest
      if hasComma then
        let (items, rest) ← itemsWithin? fuel depth close rest
        return (item :: items, rest)
      else if rest.head? = some close then return ([item], rest.drop 1)
      else none

/-- The fields of a structure up to its closing parenthesis, added to those before them, and what
follows it. -/
def fieldsWithin? : (fuel depth : Nat) → (before : List (String × Data)) → List Char →
    Option (List (String × Data) × List Char)
  | 0, _, _, _ => none
  | fuel + 1, depth, before, chars => do
    match chars with
    | ')' :: rest => return (before, rest)
    | chars =>
      let (name, rest) ← identifier? chars
      match ← skip? rest with
      | ':' :: rest =>
        let (value, rest) ← valueWithin? fuel depth (← skip? rest)
        let entries := Table.put (String.ofList name) value before
        match ← afterComma? rest with
        | (true, rest) => fieldsWithin? fuel depth entries rest
        | (false, ')' :: rest) => return (entries, rest)
        | _ => none
      | _ => none

/-- The entries of a map up to its closing brace, added to those before them, and what follows it. -/
def entriesWithin? : (fuel depth : Nat) → (before : List (String × Data)) → List Char →
    Option (List (String × Data) × List Char)
  | 0, _, _, _ => none
  | fuel + 1, depth, before, chars => do
    match ← skip? chars with
    | '\x7d' :: rest => return (before, rest)
    | chars =>
      let (name, rest) ← valueWithin? fuel depth chars
      match ← skip? rest with
      | ':' :: rest =>
        let (value, rest) ← valueWithin? fuel depth (← skip? rest)
        let entries := Table.put (← key? name) value before
        match ← afterComma? rest with
        | (true, rest) => entriesWithin? fuel depth entries rest
        | (false, '\x7d' :: rest) => return (entries, rest)
        | _ => none
      | _ => none

end

/-- The value that a text denotes. -/
def ofText? (text : String) : Option Data := do
  let chars ← skip? text.toList
  let chars ← afterAttributes? (chars.length + 1) chars
  let (value, rest) ← valueWithin? (2 * chars.length + 1) maxDepth chars
  match ← skip? rest with
  | [] => some value
  | _ => none

end ClientAssertion.Ron
