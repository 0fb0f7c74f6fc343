/-
**Parts of texts.**

* `splitAt` cuts a text at each occurrence of a character.
-/

namespace ClientAssertion

/-- The parts of a text between occurrences of a character, at least one. -/
def splitAt (separator : Char) : List Char → List (List Char)
  | [] => [[]]
  | char :: chars =>
    if char = separator then [] :: splitAt separator chars
    else
      match splitAt separator chars with
      | part :: parts => (char :: part) :: parts
      | [] => [[char]]

end ClientAssertion
