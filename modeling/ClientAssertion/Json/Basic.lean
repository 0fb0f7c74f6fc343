/-
**JSON documents.**

A document is kept as it was written where a reader may care: a number as its text, the members
of an object in order and with repetitions.  A string literal need not denote a text (a lone
surrogate escape, or octets that are not UTF-8); such a literal is kept as `none`, so that a
reader which skips a value does not care and one that wants its text fails.

* `Json.integer?`: the value of a number that is written as an integer;
* `Json.ofMembers`: an object from named members.
-/

import ClientAssertion.Text.Numeral

namespace ClientAssertion

/-- A JSON document. -/
inductive Json where
  | null
  | bool (value : Bool)
  /-- A number, as it is written. -/
  | number (text : String)
  /-- A string, unless the literal denotes none. -/
  | string (text : Option String)
  | array (items : List Json)
  /-- An object's members in order, each with the text that its name denotes. -/
  | object (members : List (Option String × Json))

namespace Json

instance : Inhabited Json := ⟨.null⟩

/-! ### Building -/

/-- A text as a document. -/
def text (value : String) : Json := .string (some value)

/-- An integer as a document. -/
def int (value : Int) : Json := .number (toString value)

/-- A natural number as a document. -/
def nat (value : Nat) : Json := .number (toString value)

/-- A list of texts as a document. -/
def texts (values : List String) : Json := .array (values.map text)

/-- An object from named members. -/
def ofMembers (members : List (String × Json)) : Json :=
  .object (members.map fun member => (some member.1, member.2))

/-- The member of an optional value: none when it is absent. -/
def optional {α : Type} (name : String) (value : Option α) (toJson : α → Json) :
    List (String × Json) :=
  match value with
  | some value => [(name, toJson value)]
  | none => []

/-- An optional value, `null` when it is absent. -/
def nullable {α : Type} (value : Option α) (toJson : α → Json) : Json :=
  match value with
  | some value => toJson value
  | none => .null

/-! ### Numbers -/

/-- The value of a number that is written as an integer.  A fraction, an exponent and a negative
zero are not integers. -/
def integer? : Json → Option Int
  | .number text =>
    match text.toList with
    | '-' :: digits =>
      match Numeral.value? digits with
      | some 0 => none
      | some value => some (-(value : Int))
      | none => none
    | digits => (Numeral.value? digits).map fun value => (value : Int)
  | _ => none

end Json

end ClientAssertion
