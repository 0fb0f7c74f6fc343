/-
**Nodes of YAML documents.**

* `Node.ofPlain` is what a plain text denotes, `Node.ofScalar` what a text with a tag does: a tag of
  the core schema asks for one kind of value;
* `Node.ofEntries?` is the mapping of keys and values, each key of which stands there once;
* `Node.data?` is the value of a node; floating point numbers are written in digits, and keys are
  texts, numbers or truth values.
-/

import ClientAssertion.Data
import ClientAssertion.Table
import ClientAssertion.Text.Decimal
import ClientAssertion.Text.Radix

namespace ClientAssertion.Yaml

/-- A key of a mapping that can be written as a text. -/
inductive Key where
  | text (value : String)
  | integer (value : Int)
  | bool (value : Bool)
  | real (written : String)
deriving DecidableEq, Repr

/-- The text of a key. -/
def Key.name : Key → String
  | .text value => value
  | .integer value => toString value
  | .bool value => if value then "true" else "false"
  | .real written => written

/-- A node. -/
inductive Node where
  | nothing
  /-- A text that is not what its tag asks for, or an alias for a node that is not complete. -/
  | bad
  | bool (value : Bool)
  | integer (value : Int)
  /-- A floating point number, as it is written. -/
  | real (written : String)
  | text (value : String)
  | list (items : List Node)
  | table (entries : List (Key × Node))

namespace Node

instance : Inhabited Node := ⟨.nothing⟩

/-! ### Texts -/

/-- The names of infinities and of what is no number. -/
def realNames : List String :=
  [".inf", ".Inf", ".INF", "+.inf", "+.Inf", "+.INF", "-.inf", "-.Inf", "-.INF", ".nan", ".NaN", ".NAN"]

/-- A text is a floating point number: a name, or a numeral with a digit. -/
def isReal (text : String) : Bool :=
  text ∈ realNames || (text.toList.any Char.isDigit && (Decimal.floatOfText? text).isSome)

/-- The integer of a plain text in base 16 or 8, or behind a plus sign. -/
def markedInteger? : List Char → Option Int
  | '0' :: 'x' :: chars => signed64? 16 chars
  | '0' :: 'o' :: chars => signed64? 8 chars
  | '+' :: chars => signed64? 10 chars
  | _ => none

/-- What a plain text denotes. -/
def ofPlain (text : String) : Node :=
  match markedInteger? text.toList with
  | some value => .integer value
  | none =>
    if text = "~" ∨ text = "null" then .nothing
    else if text = "true" then .bool true
    else if text = "false" then .bool false
    else
      match signed64? 10 text.toList with
      | some value => .integer value
      | none => if isReal text then .real text else .text text

/-- What tags of the core schema begin with. -/
def core : String := "tag:yaml.org,2002:"

/-- What a plain text with a tag of the core schema denotes. -/
def ofCore (suffix text : String) : Node :=
  match suffix with
  | "bool" => if text = "true" then .bool true else if text = "false" then .bool false else .bad
  | "int" =>
    match signed64? 10 text.toList with
    | some value => .integer value
    | none => .bad
  | "float" => if isReal text then .real text else .bad
  | "null" => if text = "~" ∨ text = "null" then .nothing else .bad
  | _ => .text text

/-- What a text with a tag denotes; only plain ones are more than texts. -/
def ofScalar (isPlain : Bool) (tag : Option (String × String)) (text : String) : Node :=
  if !isPlain then .text text
  else
    match tag with
    | none => ofPlain text
    | some (handle, suffix) => if handle = core then ofCore suffix text else .text text

/-! ### Mappings -/

/-- The key that a node is. -/
def key? : Node → Option Key
  | .text value => some (.text value)
  | .integer value => some (.integer value)
  | .bool value => some (.bool value)
  | .real written => some (.real written)
  | _ => none

/-- The mapping of keys and values in turn, added to those before them.  What is no proper text is
no key, and what follows it is one in its place. -/
def ofEntries? (before : List (Key × Node)) : List Node → Option Node
  | [] => some (.table before)
  | .bad :: nodes => ofEntries? before nodes
  | [_] => some (.table before)
  | node :: value :: nodes => do
    let key ← node.key?
    if (before.lookup key).isSome then none else ofEntries? (before ++ [(key, value)]) nodes

/-! ### Values -/

mutual

/-- The value of a node. -/
def data? : Node → Option Data
  | .nothing | .bad => some .nothing
  | .bool value => some (.bool value)
  | .integer value => some (.integer value)
  | .real written => if written ∈ realNames then none else (Decimal.floatOfText? written).map .float
  | .text value => some (.text value)
  | .list items => (itemsData? items).map .list
  | .table entries => (entriesData? [] entries).map .table

/-- The values of nodes. -/
def itemsData? : List Node → Option (List Data)
  | [] => some []
  | item :: items => do return (← data? item) :: (← itemsData? items)

/-- The values of the entries of a mapping, added to those before them. -/
def entriesData? (before : List (String × Data)) : List (Key × Node) → Option (List (String × Data))
  | [] => some before
  | (key, value) :: entries => do entriesData? (Table.put key.name (← data? value) before) entries

end

end Node

end ClientAssertion.Yaml
