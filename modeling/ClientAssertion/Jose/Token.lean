/-
**Signed tokens in compact form (RFC 7515).**

A token is a header, a payload and a signature in unpadded base64url, joined by dots; the last two
dots separate the parts.

* `Token.Parts.of?` finds the parts and `Token.header` reads the header alone;
* `Token.verify` reads a token and checks its signature, and stops at the first flaw in the order
  header, algorithm, key, signature, payload;
* `Token.clientId` reads the identifier that a token claims, without any check.
-/

import ClientAssertion.Base64Url
import ClientAssertion.Jose.Claims
import ClientAssertion.Jose.Header

namespace ClientAssertion

/-- The header and the claims of a token. -/
structure Decoded where
  header : Header
  claims : Claims
deriving DecidableEq

namespace Token

/-! ### Parts -/

/-- The text of the characters before the last dot, and of those behind it. -/
def splitLastDot? : List Char → Option (List Char × List Char)
  | [] => none
  | char :: chars =>
    match splitLastDot? chars with
    | some (before, after) => some (char :: before, after)
    | none => if char = '.' then some ([], chars) else none

/-- The parts of a token. -/
structure Parts where
  header : List Char
  payload : List Char
  signature : List Char
deriving DecidableEq, Repr

namespace Parts

/-- The parts of a token. -/
def of? (token : String) : Option Parts := do
  let (signed, signature) ← splitLastDot? token.toList
  let (header, payload) ← splitLastDot? signed
  return ⟨header, payload, signature⟩

/-- What is signed: header and payload as they are written. -/
def signed (parts : Parts) : String := String.ofList (parts.header ++ '.' :: parts.payload)

end Parts

/-- What is there, or a flaw. -/
def orFlaw {α : Type} (flaw : TokenFlaw) : Option α → Except TokenFlaw α
  | some value => .ok value
  | none => .error flaw

/-! ### Reading -/

/-- The header that a header part spells. -/
def decodeHeader (part : List Char) : Except TokenFlaw Header := do
  let octets ← orFlaw .base64 (Base64Url.decodeChars? part)
  orFlaw .json (Header.read? octets)

/-- The claims that a payload part spells. -/
def decodePayload (part : List Char) : Except TokenFlaw Claims := do
  let octets ← orFlaw .base64 (Base64Url.decodeChars? part)
  orFlaw .json (Claims.ofPayload? octets)

/-- The header of a token. -/
def header (token : String) : Except TokenFlaw Header := do
  let parts ← orFlaw .parts (Parts.of? token)
  decodeHeader parts.header

/-- The header and claims of a token whose signature is right under a key. -/
def verify (algorithm : Algorithm) (key : Key) (token : String) : Except TokenFlaw Decoded := do
  let parts ← orFlaw .parts (Parts.of? token)
  let header ← decodeHeader parts.header
  if header.algorithm ≠ algorithm then .error .algorithm
  else
    let check ← key.verifier? algorithm
    let signature ← orFlaw .base64 (Base64Url.decodeChars? parts.signature)
    if check (Bytes.ofText parts.signed) signature then
      return ⟨header, ← decodePayload parts.payload⟩
    else .error .signature

/-! ### Claims without a check -/

/-- The parts of a token with exactly two dots. -/
def exactParts? (token : String) : Option Parts := do
  let parts ← Parts.of? token
  if '.' ∈ parts.header then none else some parts

/-- The identifier of the client that a token claims: its issuer, or else its subject. -/
def clientId (token : String) : Except JwtError String := do
  let some parts := exactParts? token | .error (.malformed "Invalid JWT format")
  let some octets := Base64Url.decodeChars? parts.payload
    | .error (.malformed "Invalid JWT payload encoding")
  let some (issuer, subject) := Claims.identifiers? octets
    | .error (.malformed "Invalid JWT payload JSON")
  match issuer.or subject with
  | some id => if id = "" then .error noIdentifier else .ok id
  | none => .error noIdentifier
where
  noIdentifier : JwtError := .malformed "JWT missing iss and sub claims"

end Token

end ClientAssertion
