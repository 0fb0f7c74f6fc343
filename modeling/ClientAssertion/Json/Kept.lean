/-
**JSON values that are kept whole.**

A value that is skipped need only be well formed.  One that is kept has to denote something in all
its parts, and may not nest too deep.

* `isKeepable` is the test;
* `maxDepth` is how many containers may be nested.
-/

import ClientAssertion.Json.Number

namespace ClientAssertion.Json

mutual

/-- A value that can be kept: all its literals denote texts and its numbers numbers, and no more
than `depth` containers are nested in it. -/
def isKeepable (depth : Nat) : Json → Bool
  | .null | .bool _ => true
  | .number text => (Number.ofText? text).isSome
  | .string text => text.isSome
  | .array items => depth != 0 && areKeepable (depth - 1) items
  | .object members => depth != 0 && areMembersKeepable (depth - 1) members

/-- The items of an array can be kept. -/
def areKeepable (depth : Nat) : List Json → Bool
  | [] => true
  | item :: items => isKeepable depth item && areKeepable depth items

/-- The members of an object can be kept. -/
def areMembersKeepable (depth : Nat) : List (Option String × Json) → Bool
  | [] => true
  | (name, value) :: members =>
    name.isSome && isKeepable depth value && areMembersKeepable depth members

end

/-- Containers that may be nested in a text that is kept. -/
def maxDepth : Nat := 127

end ClientAssertion.Json
