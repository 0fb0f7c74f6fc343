/-
**Why an assertion is refused.**

* `TokenFlaw` lists what can be wrong with a token in compact form and with its key, and
  `JwtError.ofFlaw` says under which kind of error each of them is reported;
* `JwtError.aborted`: a check may also end without an answer;
* `ClaimViolation`: a rejected claim with the reason;
* `JwtError.message` is the text of an error.
-/

namespace ClientAssertion

/-! ### Claims -/

/-- The registered claims that are checked, in the order of the checks. -/
inductive Claim where
  | iss
  | sub
  | aud
  | exp
  | nbf
  | iat
deriving DecidableEq, Repr

namespace Claim

/-- All claims. -/
def all : List Claim := [.iss, .sub, .aud, .exp, .nbf, .iat]

/-- The name of a claim. -/
def name : Claim → String
  | .iss => "iss"
  | .sub => "sub"
  | .aud => "aud"
  | .exp => "exp"
  | .nbf => "nbf"
  | .iat => "iat"

/-- The claim that a name stands for. -/
def ofName? (name : String) : Option Claim := all.find? fun claim => claim.name == name

end Claim

/-- A rejected claim. -/
structure ClaimViolation where
  claim : Claim
  reason : String
deriving DecidableEq, Repr

/-- The text of a rejected claim. -/
def ClaimViolation.message (violation : ClaimViolation) : String :=
  violation.claim.name ++ ": " ++ violation.reason

/-- The text of all rejected claims. -/
def violationsMessage (violations : List ClaimViolation) : String :=
  "; ".intercalate (violations.map ClaimViolation.message)

/-! ### Tokens -/

/-- What can be wrong with a token or with the key that it is checked under. -/
inductive TokenFlaw where
  /-- There are fewer than two dots. -/
  | parts
  /-- A part is not unpadded base64url. -/
  | base64
  /-- The header or the payload is not a readable document. -/
  | json
  /-- The header names another algorithm than the one to be used. -/
  | algorithm
  /-- The key is of another family than the algorithm's. -/
  | keyFormat
  /-- The octets of an elliptic curve key are no point of the curve. -/
  | ellipticCurveKey
  /-- An Edwards curve key has fewer octets than are used of it. -/
  | edwardsKeyLength
  /-- The octets of an Edwards curve key are no point of the curve. -/
  | edwardsCurveKey
  | signature
deriving DecidableEq, Repr

/-- The text of a flaw.  There is none for a key that is too short: nobody is told of it. -/
def TokenFlaw.message : TokenFlaw → String
  | .parts => "InvalidToken"
  | .base64 => "Base64 error"
  | .json => "JSON error"
  | .algorithm => "InvalidAlgorithm"
  | .keyFormat => "InvalidKeyFormat"
  | .ellipticCurveKey => "InvalidEcdsaKey"
  | .edwardsKeyLength => ""
  | .edwardsCurveKey => "InvalidEddsaKey"
  | .signature => "InvalidSignature"

/-- Why an assertion is refused. -/
inductive JwtError where
  /-- The token is not a well-formed one. -/
  | malformed (message : String)
  | invalidSignature
  /-- The header names another algorithm than the registered one. -/
  | invalidAlgorithm (message : String)
  /-- No key to check the signature with was found. -/
  | keyNotFound (message : String)
  /-- A key was found that cannot be used. -/
  | invalidKey (message : String)
  /-- The signature is right, but claims were rejected. -/
  | validation (violations : List ClaimViolation)
  /-- The check was broken off and gives no answer.  Whatever waits for the answer is broken off, too:
  an error that has this one as its source stands for that. -/
  | aborted
deriving DecidableEq, Repr

namespace JwtError

/-- The error under which a flaw is reported.  A key that is too short is not reported: the check ends
there. -/
def ofFlaw (flaw : TokenFlaw) : JwtError :=
  match flaw with
  | .signature => .invalidSignature
  | .algorithm => .invalidAlgorithm flaw.message
  | .keyFormat | .ellipticCurveKey => .invalidKey flaw.message
  | .edwardsKeyLength => .aborted
  | .parts | .base64 | .json | .edwardsCurveKey => .malformed flaw.message

/-- The text of an error; a check that was broken off has none. -/
def message : JwtError → String
  | .malformed message => "Malformed JWT: " ++ message
  | .invalidSignature => "Invalid signature"
  | .invalidAlgorithm message => "Algorithm not accepted: " ++ message
  | .keyNotFound message => "Key not found: " ++ message
  | .invalidKey message => "Invalid key: " ++ message
  | .validation violations => "Invalid claims: " ++ violationsMessage violations
  | .aborted => ""

/-- The error lies in the token or its key, not in what it claims. -/
def isBadToken : JwtError → Bool
  | .validation _ => false
  | _ => true

/-- The rejected claims. -/
def violations? : JwtError → Option (List ClaimViolation)
  | .validation violations => some violations
  | _ => none

end JwtError

end ClientAssertion
