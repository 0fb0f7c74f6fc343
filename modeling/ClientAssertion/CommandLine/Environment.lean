/-
**The environment of a process.**

An environment is handed over as octets: of each variable its name, an equals sign, its value and a
zero.

* `entries` are the variables whose names and values are texts.
-/

import ClientAssertion.Bytes

namespace ClientAssertion.CommandLine.Environment

/-- The octets between zeros. -/
def parts (octets : Bytes) : List Bytes :=
  let add (octet : UInt8) (parts : List Bytes) : List Bytes :=
    if octet = 0 then [] :: parts
    else
      match parts with
      | [] => [[octet]]
      | part :: parts => (octet :: part) :: parts
  octets.foldr add []

/-- A variable with its value. -/
def entry? (octets : Bytes) : Option (String × String) := do
  let name ← Bytes.text? (octets.takeWhile (· != 0x3d))
  let value ← Bytes.text? ((octets.dropWhile (· != 0x3d)).drop 1)
  return (name, value)

/-- The variables of an environment. -/
def entries (octets : Bytes) : List (String × String) := (parts octets).filterMap entry?

end ClientAssertion.CommandLine.Environment
