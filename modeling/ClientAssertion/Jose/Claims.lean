/-
**Claims of an assertion (RFC 7519).**

* `Claims.ofJson?` reads claims; every claim may be missing, and claims that are not known are
  ignored;
* `Claims.toJson` writes the claims that are there, and `Claims.ofJson?` reads them back;
* `Claims.ofPayload?` reads the payload of a token, where the claims in order without names have
  to be exactly the first five, with a single audience;
* `Claims.identifiers?` reads issuer and subject alone.
-/

import ClientAssertion.Json.Document
import ClientAssertion.Json.Record

namespace ClientAssertion

/-! ### Audiences -/

/-- The audience of an assertion. -/
inductive Audience where
  | one (audience : String)
  | many (audiences : List String)
deriving DecidableEq, Repr

namespace Audience

/-- The audiences in order. -/
def toList : Audience → List String
  | .one audience => [audience]
  | .many audiences => audiences

/-- An audience is among the audiences. -/
def contains (audience : Audience) (value : String) : Bool := audience.toList.contains value

/-- The first audience. -/
def first? (audience : Audience) : Option String := audience.toList.head?

/-- The audience that a document denotes. -/
def ofJson? : Json → Option Audience
  | .array items => (items.mapM Json.asText?).map .many
  | document => document.asText?.map .one

/-- The document of an audience. -/
def toJson : Audience → Json
  | .one audience => .text audience
  | .many audiences => .texts audiences

end Audience

/-! ### Claims -/

/-- The claims of an assertion.  Times are in seconds since the epoch. -/
structure Claims where
  issuer : Option String
  subject : Option String
  audience : Option Audience
  expiresAt : Option Int
  notBefore : Option Int
  issuedAt : Option Int
  tokenId : Option String
deriving DecidableEq, Repr

namespace Claims

/-- The names of the claims, in order. -/
def names : List String := ["iss", "sub", "aud", "exp", "nbf", "iat", "jti"]

/-- The claims that a document denotes. -/
def ofJson? (document : Json) : Option Claims := do
  let fields ← Json.fields? names document
  return {
    issuer := ← Json.optional? fields "iss" Json.asText?
    subject := ← Json.optional? fields "sub" Json.asText?
    audience := ← Json.optional? fields "aud" Audience.ofJson?
    expiresAt := ← Json.optional? fields "exp" Json.asInt64?
    notBefore := ← Json.optional? fields "nbf" Json.asInt64?
    issuedAt := ← Json.optional? fields "iat" Json.asInt64?
    tokenId := ← Json.optional? fields "jti" Json.asText? }

/-- The document of claims. -/
def toJson (claims : Claims) : Json :=
  .ofMembers
    (Json.optional "iss" claims.issuer .text ++
      Json.optional "sub" claims.subject .text ++
      Json.optional "aud" claims.audience Audience.toJson ++
      Json.optional "exp" claims.expiresAt .int ++
      Json.optional "nbf" claims.notBefore .int ++
      Json.optional "iat" claims.issuedAt .int ++
      Json.optional "jti" claims.tokenId .text)

/-- A payload can be read by position: an object has no positions, and a list has to have exactly
the first five claims, of which the audience is no list. -/
def hasReadablePositions : Json → Bool
  | .array [_, _, audience, _, _] =>
    match audience with
    | .array _ => false
    | _ => true
  | .array _ => false
  | _ => true

/-- The claims that the document of a payload denotes. -/
def ofPayloadJson? (document : Json) : Option Claims :=
  if hasReadablePositions document then ofJson? document else none

/-- The claims that the octets of a payload spell. -/
def ofPayload? (octets : Bytes) : Option Claims := Json.read? octets >>= ofPayloadJson?

end Claims

/-! ### Identifiers -/

/-- The issuer of a payload and its subject, other claims left aside. -/
def Claims.identifiers? (octets : Bytes) : Option (Option String × Option String) := do
  let fields ← Json.fields? ["iss", "sub"] (← Json.read? octets)
  return (← Json.optional? fields "iss" Json.asText?, ← Json.optional? fields "sub" Json.asText?)

end ClientAssertion
