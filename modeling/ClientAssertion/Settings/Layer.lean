/-
**Layers of settings.**

A layer is what one source gives: names, each a path into the settings, with their values.  Later
layers go over earlier ones, and within a layer later names over earlier ones.  A source is a hash
map, so that two names of one setting go over one another in no order of their own.

* `pathOf` reads a name: keys with dots between them and indices in brackets, or else one key as
  it stands;
* `environmentLayer` is what the environment gives: of a variable `TOKENGATE__A__B` the name is
  `a.b`;
* `laid` is the value of some layers, and `Orders.laid` the one of a file and the environment.
-/

import ClientAssertion.Dictionary
import ClientAssertion.Settings.Value
import ClientAssertion.Text.Decimal
import ClientAssertion.Text.Radix

namespace ClientAssertion.Settings

/-- Names with their values, in order. -/
abbrev Layer := List (String × Value)

/-! ### Names -/

/-- A character of a key in a path. -/
def isKeyChar (char : Char) : Bool := char.isAlphanum || char == '_' || char == '-'

/-- The key at the start of the characters, and what follows it. -/
def key? (chars : List Char) : Option (String × List Char) :=
  let key := chars.takeWhile isKeyChar
  if key = [] then none else some (String.ofList key, chars.dropWhile isKeyChar)

/-- The characters without the blanks at their start. -/
def dropBlanks (chars : List Char) : List Char := chars.dropWhile fun char => char == ' ' || char == '\t'

/-- The index up to a closing bracket, and what follows that. -/
def index? (chars : List Char) : Option (Int × List Char) := do
  let chars := dropBlanks chars
  let (negative, unsigned) := match chars with
    | '-' :: unsigned => (true, unsigned)
    | unsigned => (false, unsigned)
  let magnitude : Int := ← Numeral.value? (unsigned.takeWhile Char.isDigit)
  let index ← Numeral.int64? (if negative then -magnitude else magnitude)
  match dropBlanks (unsigned.dropWhile Char.isDigit) with
  | ']' :: rest => some (index, rest)
  | _ => none

/-- The steps that characters spell, of which no more than `fuel` are read. -/
def stepsWithin? : (fuel : Nat) → List Char → Option (List Value.Step)
  | _, [] => some []
  | fuel + 1, '.' :: chars => do
    let (key, rest) ← key? chars
    return .key key :: (← stepsWithin? fuel rest)
  | fuel + 1, '[' :: chars => do
    let (index, rest) ← index? chars
    return .index index :: (← stepsWithin? fuel rest)
  | _, _ => none

/-- The path that a name spells; there are no more steps than characters. -/
def path? (name : String) : Option (List Value.Step) := do
  let (key, rest) ← key? name.toList
  return .key key :: (← stepsWithin? rest.length rest)

/-- The path of a name. -/
def pathOf (name : String) : List Value.Step := (path? name).getD [.key name]

/-! ### Layers over layers -/

/-- A value with what stands at the path of a name given anew. -/
def give (root : Value) (given : String × Value) : Value :=
  root.alter given.2.laidOver (pathOf given.1)

/-- The value of layers, the first one lowest. -/
def laid (layers : List Layer) : Value := layers.flatten.foldl give (.table [])

/-! ### The environment -/

/-- What the names of variables for settings start with, in small letters. -/
def variableStart : String := "tokengate__"

/-- A letter in small; the Kelvin sign is one, too. -/
def lowerChar (char : Char) : Char := if char.toNat = 0x212a then 'k' else char.toLower

/-- A name with a dot for each double underscore. -/
def dotted : List Char → List Char
  | '_' :: '_' :: chars => '.' :: dotted chars
  | char :: chars => char :: dotted chars
  | [] => []

/-- The name of the setting that a variable gives. -/
def settingOf? (variableName : String) : Option String :=
  let chars := variableName.toList.map lowerChar
  if variableStart.toList.isPrefixOf chars then
    some (String.ofList (dotted (chars.drop variableStart.toList.length)))
  else none

/-- The value that the text of a variable gives: a truth value, an integer, a floating point
number or else the text. -/
def valueOfText (text : String) : Value :=
  if Value.lower text = "true" then .bool true
  else if Value.lower text = "false" then .bool false
  else
    match signed64? 10 text.toList, Decimal.floatOfText? text with
    | some integer, _ => .integer integer
    | none, some float => .float float
    | none, none => .text text

/-- What the variables for settings give, one after another. -/
def variableLayer (environment : List (String × String)) : Layer :=
  environment.filterMap fun (variableName, text) =>
    (settingOf? variableName).map fun name => (name, valueOfText text)

/-- What the environment gives; the last variable of a name counts. -/
def environmentLayer (environment : List (String × String)) : Layer :=
  (Table.ofPairs (variableLayer environment)).entries

/-! ### A file and the environment -/

/-- The orders in which the names of the sources come out. -/
structure Orders where
  file : Arrangement Value
  environment : Arrangement Value

/-- The names come out as they are given. -/
def Orders.asGiven : Orders := ⟨.asGiven, .asGiven⟩

/-- The value of the sources, which lays the environment over the file. -/
def Orders.laid (orders : Orders) (layer : Layer) (environment : List (String × String)) : Value :=
  Settings.laid [orders.file.arrange layer, orders.environment.arrange (environmentLayer environment)]

end ClientAssertion.Settings
