/-
**TOML values and the tables that statements build.**

A table remembers what wrote it, since that decides what may still be added to it:

* `within` opens the table at the path of a header: tables are entered, of an array of tables the
  last one, and what is missing is implied;
* `openTable?` and `openElement?` are the headers `[path]` and `[[path]]`: a table has one header,
  and may be implied before it;
* `assign?` is the statement `path = value`: a key has one value, and a dotted key adds only to
  tables that dotted keys have made or that are implied, which it makes its own.
-/

import ClientAssertion.Table

namespace ClientAssertion.Toml

/-- What has written a table. -/
inductive Origin where
  | header
  /-- The header of a table inside it. -/
  | passage
  | dottedKey
  | inline
deriving DecidableEq, Repr

/-- A TOML value. -/
inductive Value where
  | bool (value : Bool)
  | integer (value : Int)
  | float (value : Float)
  | text (value : String)
  /-- A date, a time of day or both, as it is written out. -/
  | moment (text : String)
  | list (items : List Value)
  | table (origin : Origin) (entries : List (String × Value))
  /-- An array of tables that headers have written. -/
  | tables (earlier : List (List (String × Value))) (last : List (String × Value))

instance : Inhabited Value := ⟨.bool false⟩

/-- The keys and values of a table. -/
abbrev Entries := List (String × Value)

/-- Changes the entries of the table at the path of a header. -/
def within (change : Entries → Option Entries) : (path : List String) → Entries → Option Entries
  | [], entries => change entries
  | name :: path, entries =>
    match Table.find? name entries with
    | none => do return Table.put name (.table .passage (← within change path [])) entries
    | some (.table .inline _) => none
    | some (.table origin inner) => do
      return Table.put name (.table origin (← within change path inner)) entries
    | some (.tables earlier last) => do
      return Table.put name (.tables earlier (← within change path last)) entries
    | some _ => none

/-- Gives a table its header. -/
def openTable? (name : String) (entries : Entries) : Option Entries :=
  match Table.find? name entries with
  | none => some (Table.put name (.table .header []) entries)
  | some (.table .passage inner) => some (Table.put name (.table .header inner) entries)
  | some _ => none

/-- Adds a table to an array of tables. -/
def openElement? (name : String) (entries : Entries) : Option Entries :=
  match Table.find? name entries with
  | none => some (Table.put name (.tables [] []) entries)
  | some (.tables earlier last) => some (Table.put name (.tables (earlier ++ [last]) []) entries)
  | some _ => none

/-- The origin of an implied table behind the step of a dotted key into it, which is the last one
or not. -/
def Origin.entered (path : List String) : Origin := if path.length = 1 then .dottedKey else .passage

/-- Gives the key at a path its value; whether the table takes values of its own depends on what
has led to it. -/
def assignIn? (value : Value) : (takesValues : Bool) → (path : List String) → Entries → Option Entries
  | _, [], _ => none
  | takesValues, [name], entries =>
    if takesValues ∧ Table.find? name entries = none then some (Table.put name value entries) else none
  | _, name :: path, entries =>
    match Table.find? name entries with
    | none => do return Table.put name (.table .dottedKey (← assignIn? value true path [])) entries
    | some (.table .dottedKey inner) => do
      return Table.put name (.table .dottedKey (← assignIn? value true path inner)) entries
    | some (.table .passage inner) => do
      return Table.put name (.table (.entered path) (← assignIn? value true path inner)) entries
    | some (.tables earlier last) => do
      return Table.put name (.tables earlier (← assignIn? value false path last)) entries
    | some _ => none

/-- Gives the key at a path its value. -/
def assign? (path : List String) (value : Value) (entries : Entries) : Option Entries :=
  assignIn? value true path entries

end ClientAssertion.Toml
