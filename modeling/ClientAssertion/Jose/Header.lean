/-
**Headers of signed tokens (RFC 7515).**

* `Header.ofJson?` reads a header: an object with an algorithm; the members of the standard have
  their own types, every other member has to be a string, of which the last of a name counts;
* `Header.toJson` writes the members that are there.
-/

import ClientAssertion.Jose.Jwk
import ClientAssertion.Table

namespace ClientAssertion

/-- The header of a signed token. -/
structure Header where
  type : Option String
  algorithm : Algorithm
  contentType : Option String
  keySetUrl : Option String
  key : Option Jwk
  keyId : Option String
  certificateUrl : Option String
  certificateChain : Option (List String)
  certificateSha1 : Option String
  certificateSha256 : Option String
  critical : Option (List String)
  encryption : Option String
  compression : Option String
  url : Option String
  nonce : Option String
  /-- The members that the standard does not know. -/
  further : Table String String
deriving DecidableEq

namespace Header

/-- The names of the members of the standard. -/
def names : List String :=
  ["typ", "alg", "cty", "jku", "jwk", "kid", "x5u", "x5c", "x5t", "x5t#S256", "crit", "enc", "zip",
    "url", "nonce"]

/-- The members with other names. -/
def furtherPairs? (members : List (Option String × Json)) : Option (List (String × String)) :=
  (members.filter fun member => member.1.all (· ∉ names)).mapM fun member => do
    return (← member.1, ← member.2.asText?)

/-- The header that a document denotes. -/
def ofJson? : Json → Option Header
  | .object members => do
    let fields ← Json.knownMembers? names members
    let text (name : String) := Json.optional? fields name Json.asText?
    let texts (name : String) := Json.optional? fields name (Json.asList? Json.asText?)
    return {
      type := ← text "typ"
      algorithm := ← Json.required? fields "alg" (Json.choice? Algorithm.ofName?)
      contentType := ← text "cty"
      keySetUrl := ← text "jku"
      key := ← Json.optional? fields "jwk" (Jwk.ofJson? (Json.maxDepth - 2))
      keyId := ← text "kid"
      certificateUrl := ← text "x5u"
      certificateChain := ← texts "x5c"
      certificateSha1 := ← text "x5t"
      certificateSha256 := ← text "x5t#S256"
      critical := ← texts "crit"
      encryption := ← text "enc"
      compression := ← text "zip"
      url := ← text "url"
      nonce := ← text "nonce"
      further := .ofPairs (← furtherPairs? members) }
  | _ => none

/-- The header that octets spell. -/
def read? (octets : Bytes) : Option Header := Json.read? octets >>= ofJson?

/-- The document of a header. -/
def toJson (header : Header) : Json :=
  .ofMembers
    (Json.optional "typ" header.type .text ++
      ("alg", .text header.algorithm.name) ::
      Json.optional "cty" header.contentType .text ++
      Json.optional "jku" header.keySetUrl .text ++
      Json.optional "jwk" header.key Jwk.toJson ++
      Json.optional "kid" header.keyId .text ++
      Json.optional "x5u" header.certificateUrl .text ++
      Json.optional "x5c" header.certificateChain .texts ++
      Json.optional "x5t" header.certificateSha1 .text ++
      Json.optional "x5t#S256" header.certificateSha256 .text ++
      Json.optional "crit" header.critical .texts ++
      Json.optional "enc" header.encryption .text ++
      Json.optional "zip" header.compression .text ++
      Json.optional "url" header.url .text ++
      Json.optional "nonce" header.nonce .text ++
      header.further.entries.map fun entry => (entry.1, .text entry.2))

end Header

end ClientAssertion
