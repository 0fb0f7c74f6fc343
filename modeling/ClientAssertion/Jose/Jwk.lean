/-
**Keys as documents (RFC 7517).**

* `Jwk.ofJson?` reads a key: an object whose `kty` decides which numbers it must hold; members
  that are not known are ignored, but have to be readable;
* `Jwk.toJson` writes the members that are there;
* `KeyNumbers.key?` decodes the numbers of a key;
* `KeySet.ofJson?` reads a list of keys, and one unreadable key makes the list unreadable.
-/

import ClientAssertion.Base64Url
import ClientAssertion.Jose.Key
import ClientAssertion.Json.Document
import ClientAssertion.Json.Kept
import ClientAssertion.Json.Record

namespace ClientAssertion

/-! ### Parts of a key -/

/-- What a key may be registered for. -/
inductive KeyAlgorithm where
  | signature (algorithm : Algorithm)
  | rsa1_5
  | rsaOaep
  | rsaOaep256
  | unknown
deriving DecidableEq, Repr

namespace KeyAlgorithm

/-- The name of what a key is registered for. -/
def name : KeyAlgorithm → String
  | .signature algorithm => algorithm.name
  | .rsa1_5 => "RSA1_5"
  | .rsaOaep => "RSA-OAEP"
  | .rsaOaep256 => "RSA-OAEP-256"
  | .unknown => "UNKNOWN_ALGORITHM"

/-- What a name stands for. -/
def ofName (name : String) : KeyAlgorithm :=
  match name with
  | "RSA1_5" => .rsa1_5
  | "RSA-OAEP" => .rsaOaep
  | "RSA-OAEP-256" => .rsaOaep256
  | name =>
    match Algorithm.ofName? name with
    | some algorithm => .signature algorithm
    | none => .unknown

/-- The name in a document, which may also stand for itself with an empty object. -/
def ofJson? : Json → Option KeyAlgorithm
  | .object [(name, .object [])] => name.map ofName
  | document => Json.choice? (fun name => some (ofName name)) document

end KeyAlgorithm

/-- The curves that are known. -/
inductive CurveName where
  | p256
  | p384
  | p521
  | ed25519
deriving DecidableEq, Repr

namespace CurveName

/-- The registered name of a curve. -/
def name : CurveName → String
  | .p256 => "P-256"
  | .p384 => "P-384"
  | .p521 => "P-521"
  | .ed25519 => "Ed25519"

/-- The curve that a name stands for. -/
def ofName? (name : String) : Option CurveName :=
  [p256, p384, p521, ed25519].find? fun curve => curve.name == name

end CurveName

/-- The numbers of a key, as they are written. -/
inductive KeyNumbers where
  | ellipticCurve (curve : CurveName) (x y : String)
  | rsa (n e : String)
  | secret (k : String)
  | edwardsCurve (curve : CurveName) (x : String)
deriving DecidableEq, Repr

namespace KeyNumbers

/-- The value of the member `kty`. -/
def type : KeyNumbers → String
  | .ellipticCurve .. => "EC"
  | .rsa .. => "RSA"
  | .secret .. => "oct"
  | .edwardsCurve .. => "OKP"

/-- The family that a value of the member `kty` stands for. -/
def familyOfType? : String → Option Algorithm.Family
  | "EC" => some .ellipticCurve
  | "RSA" => some .rsa
  | "oct" => some .secret
  | "OKP" => some .edwardsCurve
  | _ => none

/-- The numbers among the members of a key. -/
def ofMembers? (members : List (Option String × Json)) : Option KeyNumbers := do
  let type ← (members.find? fun member => member.1 = some "kty").bind fun member =>
    Json.choice? familyOfType? member.2
  match type with
  | .ellipticCurve =>
    let fields ← Json.knownMembers? ["kty", "crv", "x", "y"] members
    return .ellipticCurve (← Json.required? fields "crv" (Json.choice? CurveName.ofName?))
      (← Json.required? fields "x" Json.asText?) (← Json.required? fields "y" Json.asText?)
  | .rsa =>
    let fields ← Json.knownMembers? ["kty", "n", "e"] members
    return .rsa (← Json.required? fields "n" Json.asText?) (← Json.required? fields "e" Json.asText?)
  | .secret =>
    let fields ← Json.knownMembers? ["kty", "k"] members
    return .secret (← Json.required? fields "k" Json.asText?)
  | .edwardsCurve =>
    let fields ← Json.knownMembers? ["kty", "crv", "x"] members
    return .edwardsCurve (← Json.required? fields "crv" (Json.choice? CurveName.ofName?))
      (← Json.required? fields "x" Json.asText?)

/-- The members that hold the numbers. -/
def toMembers (numbers : KeyNumbers) : List (String × Json) :=
  ("kty", .text numbers.type) ::
    match numbers with
    | .ellipticCurve curve x y => [("crv", .text curve.name), ("x", .text x), ("y", .text y)]
    | .rsa n e => [("n", .text n), ("e", .text e)]
    | .secret k => [("k", .text k)]
    | .edwardsCurve curve x => [("crv", .text curve.name), ("x", .text x)]

/-- The family of the key that the numbers make. -/
def family : KeyNumbers → Algorithm.Family
  | .ellipticCurve .. => .ellipticCurve
  | .rsa .. => .rsa
  | .secret .. => .secret
  | .edwardsCurve .. => .edwardsCurve

/-- The key that the numbers make, if they are unpadded base64url.  How many octets a curve key has is
not looked at here. -/
def key? : KeyNumbers → Option Key
  | .ellipticCurve _ x y => do
    return .ellipticCurve (4 :: (← Base64Url.decode? x) ++ (← Base64Url.decode? y))
  | .rsa n e => do
    return .rsa ⟨Bytes.toNat (← Base64Url.decode? n), Bytes.toNat (← Base64Url.decode? e)⟩
  | .secret k => (Base64Url.decode? k).map .secret
  | .edwardsCurve _ x => (Base64Url.decode? x).map .edwardsCurve

end KeyNumbers

/-! ### Keys -/

/-- A key as it is published. -/
structure Jwk where
  publicKeyUse : Option String
  operations : Option (List String)
  algorithm : Option KeyAlgorithm
  keyId : Option String
  certificateUrl : Option String
  certificateChain : Option (List String)
  certificateSha1 : Option String
  certificateSha256 : Option String
  numbers : KeyNumbers
deriving DecidableEq, Repr

namespace Jwk

/-- The names of the members that say what a key is for. -/
def commonNames : List String := ["use", "key_ops", "alg", "kid", "x5u", "x5c", "x5t", "x5t#S256"]

/-- The key that an object denotes when `depth` more containers may be nested in its members. -/
def ofJson? (depth : Nat) : Json → Option Jwk
  | .object members => do
    if ¬Json.areMembersKeepable depth members then none
    else
      let fields ← Json.knownMembers? commonNames members
      return {
        publicKeyUse := ← Json.optional? fields "use" Json.asText?
        operations := ← Json.optional? fields "key_ops" (Json.asList? Json.asText?)
        algorithm := ← Json.optional? fields "alg" KeyAlgorithm.ofJson?
        keyId := ← Json.optional? fields "kid" Json.asText?
        certificateUrl := ← Json.optional? fields "x5u" Json.asText?
        certificateChain := ← Json.optional? fields "x5c" (Json.asList? Json.asText?)
        certificateSha1 := ← Json.optional? fields "x5t" Json.asText?
        certificateSha256 := ← Json.optional? fields "x5t#S256" Json.asText?
        numbers := ← KeyNumbers.ofMembers? members }
  | _ => none

/-- The document of a key. -/
def toJson (jwk : Jwk) : Json :=
  .ofMembers
    (Json.optional "use" jwk.publicKeyUse .text ++
      Json.optional "key_ops" jwk.operations .texts ++
      Json.optional "alg" jwk.algorithm (fun algorithm => .text algorithm.name) ++
      Json.optional "kid" jwk.keyId .text ++
      Json.optional "x5u" jwk.certificateUrl .text ++
      Json.optional "x5c" jwk.certificateChain .texts ++
      Json.optional "x5t" jwk.certificateSha1 .text ++
      Json.optional "x5t#S256" jwk.certificateSha256 .text ++
      jwk.numbers.toMembers)

end Jwk

/-! ### Sets -/

/-- A list of keys, searched in order. -/
structure KeySet where
  keys : List Jwk
deriving DecidableEq, Repr

namespace KeySet

/-- The set that a document denotes. -/
def ofJson? (document : Json) : Option KeySet := do
  let fields ← Json.fields? ["keys"] document
  return ⟨← Json.required? fields "keys" (Json.asList? (Jwk.ofJson? (Json.maxDepth - 3)))⟩

/-- The set that octets spell. -/
def read? (octets : Bytes) : Option KeySet := Json.read? octets >>= ofJson?

/-- The document of a set. -/
def toJson (set : KeySet) : Json := .ofMembers [("keys", .array (set.keys.map Jwk.toJson))]

end KeySet

end ClientAssertion
