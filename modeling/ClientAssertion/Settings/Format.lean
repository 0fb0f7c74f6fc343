/-
**Files of settings.**

A file of settings holds a table in one of several formats, which the end of its path tells.

* `Format.ofPath?` is the format of a file;
* `Format.layer?` is the layer that a text in a format gives.
-/

import ClientAssertion.Ini.Document
import ClientAssertion.Json.Document
import ClientAssertion.Json.Kept
import ClientAssertion.Json5.Document
import ClientAssertion.Ron.Document
import ClientAssertion.Settings.Layer
import ClientAssertion.Toml.Document
import ClientAssertion.Yaml.Document

namespace ClientAssertion.Settings

namespace Value

mutual

/-- The value that a TOML value gives. -/
def ofToml : Toml.Value → Value
  | .bool value => .bool value
  | .integer value => .integer value
  | .float value => .float value
  | .text value => .text value
  | .moment written => .text written
  | .list items => .list (itemsOfToml items)
  | .table _ entries => .table (entriesOfToml entries)
  | .tables earlier last => .list (tablesOfToml earlier ++ [.table (entriesOfToml last)])

/-- The values that TOML values give. -/
def itemsOfToml : List Toml.Value → List Value
  | [] => []
  | item :: items => ofToml item :: itemsOfToml items

/-- The entries that the entries of a TOML table give. -/
def entriesOfToml : List (String × Toml.Value) → List (String × Value)
  | [] => []
  | (name, value) :: entries => (name, ofToml value) :: entriesOfToml entries

/-- The tables that an array of TOML tables gives. -/
def tablesOfToml : List (List (String × Toml.Value)) → List Value
  | [] => []
  | entries :: tables => .table (entriesOfToml entries) :: tablesOfToml tables

end

/-- The value of a number. -/
def ofNumber : Json.Number → Value
  | .integer value => .integer value
  | .float value => .float value

mutual

/-- The value that a JSON document gives; of members with the same name the last one counts. -/
def ofJson? : Json → Option Value
  | .null => some .nothing
  | .bool value => some (.bool value)
  | .number written => (Json.Number.ofText? written).map ofNumber
  | .string value => value.map .text
  | .array items => (itemsOfJson? items).map .list
  | .object members => (entriesOfJson? [] members).map .table

/-- The values that JSON documents give. -/
def itemsOfJson? : List Json → Option (List Value)
  | [] => some []
  | item :: items => do return (← ofJson? item) :: (← itemsOfJson? items)

/-- The entries that members give, added to those before them. -/
def entriesOfJson? (before : List (String × Value)) :
    List (Option String × Json) → Option (List (String × Value))
  | [] => some before
  | (name, value) :: members => do
    entriesOfJson? (Table.put (← name) (← ofJson? value) before) members

end

end Value

/-! ### Formats -/

/-- A format of files. -/
inductive Format where
  | toml
  | json
  | yaml
  | ini
  | ron
  | json5
deriving DecidableEq, Repr

namespace Format

/-- The ends of paths that tell a format. -/
def endings : List (String × Format) :=
  [("toml", .toml), ("json", .json), ("yaml", .yaml), ("yml", .yaml), ("ini", .ini), ("ron", .ron),
    ("json5", .json5)]

/-- What follows the last dot in the name of a file, unless the dot starts the name. -/
def ending? (path : String) : Option String :=
  let name := (path.toList.reverse.takeWhile (· != '/'))
  let ending := name.takeWhile (· != '.')
  if ending.length + 1 < name.length then some (String.ofList ending.reverse) else none

/-- The format of the file at a path. -/
def ofPath? (path : String) : Option Format := do endings.lookup (← ending? path)

/-- The JSON document in a text, which is kept whole. -/
def jsonData? (text : String) : Option Data := do
  let document ← Json.ofText? text
  if document.isKeepable Json.maxDepth then Value.ofJson? document else none

/-- The value that a text in a format denotes. -/
def data? (format : Format) (text : String) : Option Data :=
  match format with
  | .toml => (Toml.ofText? text).map fun entries => .table (Value.entriesOfToml entries)
  | .json => jsonData? text
  | .yaml => Yaml.ofText? text
  | .ini => (Ini.ofText? text).map Ini.data
  | .ron => Ron.ofText? text
  | .json5 => Json5.ofText? text

/-- The layer that a text in a format gives. -/
def layer? (format : Format) (text : String) : Option Layer :=
  match format.data? text with
  | some (.table entries) => some entries
  | _ => none

end Format

end ClientAssertion.Settings
