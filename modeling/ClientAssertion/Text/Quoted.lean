/-
**Texts between quotes, for a reader's eye.**

Quotes, backslashes and characters that are not seen on their own are escaped.
-/

import ClientAssertion.Text.Unseen

namespace ClientAssertion

/-- A character between quotes. -/
def quotedChar (char : Char) : List Char :=
  match char with
  | '"' => ['\\', '"']
  | '\\' => ['\\', '\\']
  | '\n' => ['\\', 'n']
  | '\r' => ['\\', 'r']
  | '\t' => ['\\', 't']
  | char =>
    if char.toNat = 0 then ['\\', '0']
    else if isUnseen char then
      '\\' :: 'u' :: '\x7b' :: Nat.toDigits 16 char.toNat ++ ['\x7d']
    else [char]

/-- A text between quotes. -/
def quotedText (text : String) : String :=
  String.ofList ('"' :: text.toList.flatMap quotedChar ++ ['"'])

end ClientAssertion
