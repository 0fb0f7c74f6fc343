/-
**Values read from documents.**

A reader of type `Json → Option α` yields the value that a document denotes, and nothing where the
document has another shape: no value is converted to another type.

* `fields?` reads a record: an object with each known name at most once, whose other members are
  ignored, or an array of the values in the order of the names, none too many;
* `required?`, `defaulted?` and `optional?` read one field of a record;
* `choice?` reads a name of an enumeration, alone or as the only member of an object, with `null`.
-/

import ClientAssertion.Json.Basic

namespace ClientAssertion.Json

variable {α β : Type}

/-! ### Scalars and lists -/

/-- The text that a string denotes. -/
def asText? : Json → Option String
  | .string text => text
  | _ => none

/-- A truth value. -/
def asBool? : Json → Option Bool
  | .bool value => some value
  | _ => none

/-- A number that fits into 64 bits with a sign. -/
def asInt64? (document : Json) : Option Int := do
  let value ← document.integer?
  if -9223372036854775808 ≤ value ∧ value < 9223372036854775808 then some value else none

/-- A number that fits into 64 bits without a sign. -/
def asNat64? (document : Json) : Option Nat := do
  let value ← document.integer?
  if 0 ≤ value ∧ value < 18446744073709551616 then some value.toNat else none

/-- A list of values of one kind. -/
def asList? (read : Json → Option α) : Json → Option (List α)
  | .array items => items.mapM read
  | _ => none

/-- An object with values of one kind. -/
def asPairs? (readName : String → Option α) (read : Json → Option β) : Json → Option (List (α × β))
  | .object members => members.mapM fun member => do
    return (← member.1 >>= readName, ← read member.2)
  | _ => none

/-- A value, or `null` for its absence. -/
def orNull? (read : Json → Option α) : Json → Option (Option α)
  | .null => some none
  | document => (read document).map some

/-- A name of an enumeration. -/
def choice? (ofName? : String → Option α) : Json → Option α
  | .string text => text >>= ofName?
  | .object [(name, .null)] => name >>= ofName?
  | _ => none

/-! ### Records -/

/-- The known members of an object.  Every name has to denote a text, and a known one may not
occur twice. -/
def knownMembers? (names : List String) : List (Option String × Json) → Option (List (String × Json))
  | [] => some []
  | (name, value) :: members => do
    let name ← name
    let fields ← knownMembers? names members
    if name ∈ names then
      if (fields.lookup name).isSome then none else some ((name, value) :: fields)
    else some fields

/-- The fields of a record whose names are given in order. -/
def fields? (names : List String) : Json → Option (List (String × Json))
  | .object members => knownMembers? names members
  | .array items => if items.length ≤ names.length then some (names.zip items) else none
  | _ => none

/-- A field that has to be there. -/
def required? (fields : List (String × Json)) (name : String) (read : Json → Option α) : Option α :=
  fields.lookup name >>= read

/-- A field that has a default value. -/
def defaulted? (fields : List (String × Json)) (name : String) (default : α)
    (read : Json → Option α) : Option α :=
  match fields.lookup name with
  | none => some default
  | some value => read value

/-- A field that may be missing or `null`. -/
def optional? (fields : List (String × Json)) (name : String) (read : Json → Option α) :
    Option (Option α) :=
  defaulted? fields name none (orNull? read)

end ClientAssertion.Json
