/-
**Documents from their tokens.**

A document is built token by token over the containers that are still open, so a text may nest to
any depth.

* `Json.ofTokens?` accepts exactly one value: no comma before a closing bracket, no token after
  the value;
* `Json.read?` and `Json.ofText?` read octets and text.
-/

import ClientAssertion.Json.Token

namespace ClientAssertion.Json

/-- A member of an object under construction. -/
abbrev Member := Option String × Json

/-- A container that is still open, with what it holds so far, last first. -/
inductive Frame where
  | array (items : List Json)
  /-- An object whose member of the given name awaits its value. -/
  | object (members : List Member) (name : Option String)

/-- What the next token has to be. -/
inductive Stage where
  | value
  /-- A value or the end of the array that has just been opened. -/
  | firstItem
  /-- A name or the end of the object that has just been opened. -/
  | firstName
  | name (members : List Member)
  | colon
  /-- A comma or the end of the innermost container, whose last value is complete. -/
  | comma (items : List Json)
  | commaMember (members : List Member)
  | complete (value : Json)

/-- The state of the construction. -/
structure Builder where
  stage : Stage
  /-- The open containers around the stage, innermost first. -/
  outer : List Frame

namespace Builder

/-- Nothing has been read. -/
def start : Builder := ⟨.value, []⟩

/-- A value is complete where one was awaited. -/
def supply (value : Json) : List Frame → Builder
  | [] => ⟨.complete value, []⟩
  | .array items :: outer => ⟨.comma (value :: items), outer⟩
  | .object members name :: outer => ⟨.commaMember ((name, value) :: members), outer⟩

/-- A token where a value is awaited. -/
def beginValue (outer : List Frame) : Token → Option Builder
  | .openArray => some ⟨.firstItem, outer⟩
  | .openObject => some ⟨.firstName, outer⟩
  | .scalar value => some (supply value outer)
  | _ => none

/-- The state after one more token. -/
def step (builder : Builder) (token : Token) : Option Builder :=
  let outer := builder.outer
  match builder.stage, token with
  | .value, token => beginValue outer token
  | .firstItem, .closeArray => some (supply (.array []) outer)
  | .firstItem, token => beginValue (.array [] :: outer) token
  | .firstName, .closeObject => some (supply (.object []) outer)
  | .firstName, .scalar (.string name) => some ⟨.colon, .object [] name :: outer⟩
  | .name members, .scalar (.string name) => some ⟨.colon, .object members name :: outer⟩
  | .colon, .colon => some ⟨.value, outer⟩
  | .comma items, .comma => some ⟨.value, .array items :: outer⟩
  | .comma items, .closeArray => some (supply (.array items.reverse) outer)
  | .commaMember members, .comma => some ⟨.name members, outer⟩
  | .commaMember members, .closeObject => some (supply (.object members.reverse) outer)
  | _, _ => none

/-- The state after a list of tokens. -/
def run : Builder → List Token → Option Builder
  | builder, [] => some builder
  | builder, token :: tokens => (builder.step token).bind fun next => run next tokens

/-- The document, once it is complete. -/
def result? (builder : Builder) : Option Json :=
  match builder.stage with
  | .complete value => some value
  | _ => none

end Builder

/-- The document that a list of tokens spells. -/
def ofTokens? (tokens : List Token) : Option Json :=
  (Builder.start.run tokens).bind Builder.result?

/-- The document that octets spell. -/
def read? (octets : Bytes) : Option Json := scan? octets >>= ofTokens?

/-- The document that a text spells. -/
def ofText? (text : String) : Option Json := read? (Bytes.ofText text)

end ClientAssertion.Json
