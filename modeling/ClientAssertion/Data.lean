/-
**Values of data formats.**

What the texts of all formats denote is made of the same values, whatever they are called.
-/

namespace ClientAssertion

/-- A value of a data format. -/
inductive Data where
  | nothing
  | bool (value : Bool)
  | integer (value : Int)
  | float (value : Float)
  | text (value : String)
  | list (items : List Data)
  | table (entries : List (String × Data))

instance : Inhabited Data := ⟨.nothing⟩

end ClientAssertion
