/-
**Documents up to the order of members.**

* `Alike`: two documents are equal but for the order in which the members of their objects stand, at
  any depth;
* `alike_arranged`, `alike_member`, `alike_optional`: the parts of a record that is written may differ
  so.
-/

import ClientAssertion.Dictionary
import ClientAssertion.Json.Basic

namespace ClientAssertion.Json

/-- Documents that are equal but for the order of the members of their objects. -/
inductive Alike : Json → Json → Prop
  | refl (document : Json) : Alike document document
  | trans {first second third : Json} : Alike first second → Alike second third → Alike first third
  | arranged {members others : List (Option String × Json)} (perm : members.Perm others) :
    Alike (.object members) (.object others)
  | member (before after : List (Option String × Json)) (name : Option String) {value other : Json}
    (alike : Alike value other) :
    Alike (.object (before ++ (name, value) :: after)) (.object (before ++ (name, other) :: after))
  | item (before after : List Json) {value other : Json} (alike : Alike value other) :
    Alike (.array (before ++ value :: after)) (.array (before ++ other :: after))

/-- Members that come out in two orders. -/
theorem alike_arranged (first second : Arrangement Json) (members : List (String × Json)) :
    Alike (.ofMembers (first.arrange members)) (.ofMembers (second.arrange members)) :=
  .arranged (((first.perm members).trans (second.perm members).symm).map _)

/-- One member differs by its order. -/
theorem alike_member (before after : List (String × Json)) (name : String) {value other : Json}
    (alike : Alike value other) :
    Alike (.ofMembers (before ++ (name, value) :: after))
      (.ofMembers (before ++ (name, other) :: after)) := by
  rw [ofMembers, ofMembers, List.map_append, List.map_append]
  exact .member _ _ _ alike

/-- The member of an optional value differs by its order. -/
theorem alike_optional {α : Type} (before after : List (String × Json)) (name : String)
    (value : Option α) {write other : α → Json} (alike : ∀ value, Alike (write value) (other value)) :
    Alike (.ofMembers (before ++ optional name value write ++ after))
      (.ofMembers (before ++ optional name value other ++ after)) := by
  cases value with
  | none => exact .refl _
  | some value =>
    rw [List.append_assoc, List.append_assoc]
    exact alike_member before after name (alike value)

end ClientAssertion.Json
