/-
**Values that sources of settings give.**

A source gives values of its own kinds; a setting takes what can be converted to its kind.  What
one source gives stays until a later source gives something else: tables are overlaid key by key.

* `laidOver`, `alter`: a value over another one, and a value changed at a path;
* `text?`, `bool?`, `nat64?`: the conversions;
* `fields?`: the settings of a section, by their names in a table and by their places in a list.
-/

import ClientAssertion.Data
import ClientAssertion.Table
import ClientAssertion.Text.Binary64
import ClientAssertion.Text.Numeral

namespace ClientAssertion.Settings

/-- A value that a source gives. -/
abbrev Value := Data

namespace Value

/-! ### Values over values -/

/-- The entries of a table; another value has none. -/
def entries : Value → List (String × Value)
  | .table entries => entries
  | _ => []

/-- The items of a list; another value has none. -/
def items : Value → List Value
  | .list items => items
  | _ => []

/-- The entry of a name, `nothing` where there is none. -/
def entry (name : String) (entries : List (String × Value)) : Value :=
  (Table.find? name entries).getD .nothing

mutual

/-- A value over another one: a table is laid over the entries that are there, another value
replaces what is there. -/
def laidOver (value below : Value) : Value :=
  match value with
  | .table entries => .table (entriesOver entries below.entries)
  | value => value

/-- Entries over other ones. -/
def entriesOver (entries below : List (String × Value)) : List (String × Value) :=
  match entries with
  | [] => below
  | (name, value) :: entries => entriesOver entries (Table.put name (laidOver value (entry name below)) below)

end

/-! ### Paths -/

/-- A step into a value. -/
inductive Step where
  | key (name : String)
  /-- An item of a list; negative numbers count from its end. -/
  | index (number : Int)
deriving DecidableEq, Repr

/-- A list that has an item at an index, lengthened where it must be, and the place of the item. -/
def withItem (index : Int) (items : List Value) : List Value × Nat :=
  if 0 ≤ index then
    (items ++ List.replicate (index.toNat + 1 - items.length) .nothing, index.toNat)
  else if index.natAbs ≤ items.length then (items, items.length - index.natAbs)
  else (List.replicate (index.natAbs - items.length) .nothing ++ items, 0)

/-- A value with a change at a path.  What is on the way and is not of the right kind gives way
to an empty table or list. -/
def alter (change : Value → Value) : (path : List Step) → Value → Value
  | [], value => change value
  | .key name :: path, value =>
    .table (Table.put name (alter change path (entry name value.entries)) value.entries)
  | .index index :: path, value =>
    let (items, place) := withItem index value.items
    .list (items.modify place (alter change path))

/-! ### Conversions -/

/-- The text that a value stands for. -/
def text? : Value → Option String
  | .bool value => some (if value then "true" else "false")
  | .integer value => some (toString value)
  | .float value => some (Binary64.text value)
  | .text value => some value
  | _ => none

/-- The truth value that a word stands for. -/
def truth? (word : String) : Option Bool :=
  if word ∈ ["true", "on", "yes"] then some true
  else if word ∈ ["false", "off", "no"] then some false
  else none

/-- A word in small letters. -/
def lower (word : String) : String := String.ofList (word.toList.map Char.toLower)

/-- The truth value that a value stands for. -/
def bool? : Value → Option Bool
  | .bool value => some value
  | .integer value => some (value ≠ 0)
  | .float value => some (Binary64.isNonzero value)
  | .text value => if value = "1" then some true else if value = "0" then some false else truth? (lower value)
  | _ => none

/-- The natural number that a numeral denotes, in front of which a plus sign may stand. -/
def numeral? : List Char → Option Nat
  | '+' :: digits => Numeral.value? digits
  | digits => Numeral.value? digits

/-- The natural number of at most 64 bits that a value stands for. -/
def nat64? : Value → Option Nat
  | .bool value => some value.toNat
  | .integer value => if 0 ≤ value then Numeral.nat64? value.toNat else none
  | .float value => some (Binary64.roundedNat value)
  | .text value =>
    match truth? (lower value) with
    | some truth => some truth.toNat
    | none => numeral? value.toList >>= Numeral.nat64?
  | _ => none

/-- The fields of a section with the given names: the entries of a table, or the items of a list
in the order of the names. -/
def fields? (names : List String) : Value → Option (List (String × Value))
  | .table entries => some entries
  | .list items => some (names.zip items)
  | _ => none

/-- The value of a field, or the default where the field is missing. -/
def defaulted? {α : Type} (fields : List (String × Value)) (name : String) (default : α)
    (read : Value → Option α) : Option α :=
  match Table.find? name fields with
  | none => some default
  | some value => read value

end Value

end ClientAssertion.Settings
